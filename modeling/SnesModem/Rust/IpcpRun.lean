import SnesModem.Lib.Run
import SnesModem.Rust.IpcpIgnored

/-!
# Runs of the reference IPCP client

* `Call`: the calls of the client, with their arguments;
* `sentRequests`: the Configure-Requests among actions;
* `localOptions_items`: the options of a request, read back.
-/

namespace SnesModem.Rust.IpcpRun

open SnesModem.Lib SnesModem.Rust.ControlPacket SnesModem.Rust.Ipcp SnesModem.Rust.Ipcp.Client
open SnesModem.Rust.IpcpIgnored

inductive Call where
  | doOpen (nowMs : ℕ)
  | lowerDown
  | pollTimeout (nowMs : ℕ)
  | receive (input : List UInt8) (nowMs : ℕ)

/-- The outcome of a call. -/
def Call.outcome (c : Client) : Call → Outcome
  | .doOpen nowMs => c.doOpen nowMs
  | .lowerDown => (c.lowerDown.1, .ok c.lowerDown.2)
  | .pollTimeout nowMs => c.pollTimeout nowMs
  | .receive input nowMs => c.receive input nowMs

/-- The actions of a result; an error has none. -/
def emitted : Except MachineError Transition → List Action
  | .ok transition => transition.actions
  | .error _ => []

/-- The client that a call leaves behind, with or without an error. -/
def step (c : Client) (call : Call) : Client := (call.outcome c).1

def actions (c : Client) (call : Call) : List Action := emitted (call.outcome c).2

/-- The packet that a call receives. -/
def received : Call → Option Packet
  | .receive input _ => (Packet.parse input).toOption
  | _ => none

/-- The octets as a Configure-Request, if they are one. -/
def requestOf (octets : List UInt8) : Option Packet :=
  (Packet.parse octets).toOption.filter fun packet => knownCode packet = some .configureRequest

/-- The Configure-Requests that actions send. -/
def sentRequests (actions : List Action) : List Packet :=
  actions.filterMap fun
    | .sendPacket octets => requestOf octets
    | _ => none

/-- The Configure-Request that the client stands by. -/
def currentRequest (c : Client) : Packet := ⟨Code.configureRequest.octet, c.requestIdentifier, c.localOptions⟩

section Loops

/-- What each accepted turn of a loop keeps, the loop keeps. -/
lemma optionLoop_preserves {turn : Client → ConfigurationOption → Option Client} {P : Client → Prop}
    {options : List ConfigurationOption}
    (hturn : ∀ c, ∀ option ∈ options, ∀ c', turn c option = some c' → P c → P c') (c : Client) (h : P c) :
    P (optionLoop turn c options).1 := by
  induction options generalizing c with
  | nil => exact h
  | cons option options ih =>
    unfold optionLoop
    cases hfound : turn c option with
    | none => exact h
    | some c' =>
      have hrest : ∀ c, ∀ option ∈ options, ∀ c', turn c option = some c' → P c → P c' :=
        fun c option hmem => hturn c option (List.mem_cons_of_mem _ hmem)
      exact ih hrest c' (hturn c option List.mem_cons_self c' hfound h)

end Loops

section Requests

variable {c : Client}

lemma requestOf_encode {code : Code} {identifier : UInt8} {data octets : List UInt8}
    (h : encode code identifier data = .ok octets) :
    requestOf octets = if code = .configureRequest then some ⟨code.octet, identifier, data⟩ else none := by
  unfold encode at h
  have hparse := parsePacket_encodePacket parseErrors _ h []
  rw [List.append_nil] at hparse
  unfold requestOf
  rw [show Packet.parse octets = _ from hparse]
  cases code <;> rfl

lemma encode_ok {code : Code} {identifier : UInt8} {data : List UInt8} (h : headerLength + data.length < 2 ^ 16) :
    ∃ octets, encode code identifier data = .ok octets := encodePacket_ok _ h

lemma length_localOptions : c.localOptions.length ≤ 18 := by
  have hsix (type : OptionType) (address : Ipv4Address) : (encodeAddressOption type address).encoded.length = 6 :=
    Tlv.length_encoded _
  unfold localOptions
  rw [List.length_append, List.length_append]
  split_ifs <;> simp only [hsix, List.length_nil] <;> omega

/-- The link below goes down with at most a report. -/
lemma lowerDown_actions (c : Client) : c.lowerDown.2.actions = [] ∨ c.lowerDown.2.actions = [.thisLayerDown] := by
  unfold lowerDown
  dsimp only
  split_ifs
  · exact Or.inr rfl
  · exact Or.inl rfl

lemma not_mem_lowerDown_up {c : Client} {addresses : AddressConfiguration} :
    .thisLayerUp addresses ∉ c.lowerDown.2.actions := by
  intro h
  rcases lowerDown_actions c with hnone | hdown
  · rw [hnone] at h
    cases h
  · rw [hdown] at h
    cases List.mem_singleton.mp h

/-- The client's own request always fits a packet. -/
lemma encodeRequest_ok (c : Client) :
    ∃ octets, c.encodeRequest = .ok octets ∧ requestOf octets = some (currentRequest c) := by
  have hlength := length_localOptions (c := c)
  have hfits : headerLength + c.localOptions.length < 2 ^ 16 := by
    have hheader : headerLength = 4 := rfl
    omega
  obtain ⟨octets, hencode⟩ : ∃ octets, encode .configureRequest c.requestIdentifier c.localOptions = .ok octets :=
    encode_ok hfits
  exact ⟨octets, hencode, (requestOf_encode hencode).trans (if_pos rfl)⟩

/-- The options of the client's request. -/
def localItems (c : Client) : List ConfigurationOption :=
  (if c.requestAddressOption then [encodeAddressOption .ipAddress c.localAddress] else []) ++
    (if c.requestPrimaryDnsOption then [encodeAddressOption .primaryDnsServerAddress c.primaryDnsAddress] else []) ++
    (if c.requestSecondaryDnsOption then
      [encodeAddressOption .secondaryDnsServerAddress c.secondaryDnsAddress] else [])

lemma localOptions_eq (c : Client) : c.localOptions = (localItems c).flatMap Tlv.Item.encoded := by
  unfold localOptions localItems
  split_ifs <;> simp

lemma localOptions_items (c : Client) : (Tlv.items c.localOptions).1 = localItems c := by
  rw [localOptions_eq, Tlv.items_flatMap]

/-- The address that the options of a request carry for a type. -/
def carried (data : List UInt8) (type : OptionType) : Option Ipv4Address :=
  ((Tlv.items data).1.find? fun option => knownType option = some type).bind fun option => addressOfData option.data

/-- **The client's request carries the addresses it holds** for the options it requests. -/
theorem carried_localOptions (c : Client) {type : OptionType}
    (htype : type = .ipAddress ∨ type = .primaryDnsServerAddress ∨ type = .secondaryDnsServerAddress) :
    carried c.localOptions type = if requests c type then some (held c type) else none := by
  have haddress (other : OptionType) (address : Ipv4Address) :
      addressOfData (encodeAddressOption other address).data = some address := rfl
  have hknown (other : OptionType) (address : Ipv4Address) : knownType (encodeAddressOption other address) = some other := by
    cases other <;> rfl
  unfold carried
  rw [localOptions_items, localItems]
  rcases htype with rfl | rfl | rfl
  · unfold requests held
    cases c.requestAddressOption <;> cases c.requestPrimaryDnsOption <;> cases c.requestSecondaryDnsOption <;>
      simp [hknown, haddress]
  · unfold requests held
    cases c.requestAddressOption <;> cases c.requestPrimaryDnsOption <;> cases c.requestSecondaryDnsOption <;>
      simp [hknown, haddress]
  · unfold requests held
    cases c.requestAddressOption <;> cases c.requestPrimaryDnsOption <;> cases c.requestSecondaryDnsOption <;>
      simp [hknown, haddress]

end Requests

end SnesModem.Rust.IpcpRun
