import Mathlib.Data.List.TakeWhile
import SnesModem.Rust.IpcpRun

/-!
# The addresses that an opened client reports

A run of the client with its last request and whether the peer has acknowledged it.

* `assigned`: the addresses that an acknowledged request assigns;
* `reports_assigned`: each This-Layer-Up reports them, in every run without a partial update and in which the
  peer rejects the address option only with the address of the settings.
-/

namespace SnesModem.Rust.IpcpAddresses

open SnesModem.Lib SnesModem.Rust.ControlPacket SnesModem.Rust.Ipcp SnesModem.Rust.Ipcp.Client
open SnesModem.Rust.IpcpIgnored SnesModem.Rust.IpcpRun

/-! ### One call -/

/-- The address that stands for an option that is not requested. -/
def initial (settings : Settings) : OptionType → Ipv4Address
  | .ipAddress => settings.requestedLocalAddress
  | _ => unspecifiedAddress

/-- The address of an option that an acknowledged request assigns: the one it carries, or the initial one. -/
def assigned (settings : Settings) (data : List UInt8) (type : OptionType) : Ipv4Address :=
  (carried data type).getD (initial settings type)

/-- The options of a lease. -/
def leased (type : OptionType) : Prop :=
  type = .ipAddress ∨ type = .primaryDnsServerAddress ∨ type = .secondaryDnsServerAddress

/-- Options that are not requested have their initial addresses. -/
def Dropped (c : Client) : Prop :=
  ∀ type, leased type → requests c type = false → held c type = initial c.settings type

/-- The packet is a Configure-Reject of the outstanding request in which the loop comes to the address option,
while the client holds another address than that of its settings. -/
def DropsSuggestion (c : Client) (input : List UInt8) : Prop :=
  c.state ≠ .closed ∧ c.state ≠ .stopped ∧ ∃ packet options,
    Packet.parse input = .ok packet ∧ packet.identifier = c.requestIdentifier ∧
    collectOptions optionParseError packet.data = .ok options ∧ hasDuplicateTypes options = false ∧
    knownCode packet = some .configureReject ∧
    (∃ option ∈ options.takeWhile (repeatsRequest c), knownType option = some .ipAddress) ∧
    c.localAddress ≠ c.settings.requestedLocalAddress

/-- What a call of a run must not do. -/
def Guard (c : Client) (call : Call) : Prop :=
  match call with
  | .receive input _ => ¬ PartialUpdate c input ∧ ¬ DropsSuggestion c input
  | _ => True

/-- The client's own request is out. -/
def Negotiating (c : Client) : Prop := c.state ≠ .closed ∧ c.state ≠ .stopped

/-- The client's own request is acknowledged. -/
def Acknowledged (c : Client) : Prop := c.state = .ackReceived ∨ c.state = .opened

/-- What a call does to the client's own request. -/
structure RequestStep (c : Client) (input : Option Packet) (c' : Client) (actions : List Action) : Prop where
  settings : c'.settings = c.settings
  dropped : Dropped c → Dropped c'
  /-- The request is sent anew, or kept. -/
  request : sentRequests actions = [currentRequest c'] ∧ ¬ Acknowledged c' ∨
    sentRequests actions = [] ∧ (Negotiating c' → Negotiating c ∧ currentRequest c' = currentRequest c ∧
      (Acknowledged c' → Acknowledged c ∨
        ∃ packet ∈ input, exactlyAcknowledges packet c.requestIdentifier c.localOptions = true))
  up : ∀ addresses, Action.thisLayerUp addresses ∈ actions → addresses = c'.addresses ∧ c'.state = .opened

section Rules

variable {c c' : Client} {input : Option Packet} {actions : List Action}

lemma not_acknowledged (hreceived : c.state ≠ .ackReceived) (hopened : c.state ≠ .opened) : ¬ Acknowledged c :=
  fun h => h.elim hreceived hopened

/-- A call that keeps the addresses, the options and the identifier. -/
structure Same (c c' : Client) : Prop where
  settings : c'.settings = c.settings
  requests : ∀ type, requests c' type = requests c type
  held : ∀ type, held c' type = held c type
  request : currentRequest c' = currentRequest c

lemma Same.refl (c : Client) : Same c c := ⟨rfl, fun _ => rfl, fun _ => rfl, rfl⟩

lemma Same.dropped (h : Same c c') (hdropped : Dropped c) : Dropped c' := by
  intro type htype hrequests
  rw [h.held, h.settings]
  exact hdropped type htype ((h.requests type).symm.trans hrequests)

/-- A call that keeps the request and the state. -/
lemma RequestStep.keep (hsame : Same c c') (hstate : c'.state = c.state) (hsent : sentRequests actions = [])
    (hup : ∀ addresses, Action.thisLayerUp addresses ∉ actions) : RequestStep c input c' actions where
  settings := hsame.settings
  dropped := hsame.dropped
  request := Or.inr ⟨hsent, fun h => by
    unfold Negotiating Acknowledged at *
    rw [hstate] at h ⊢
    exact ⟨h, hsame.request, Or.inl⟩⟩
  up := fun addresses h => absurd h (hup addresses)

lemma RequestStep.ignore (reason : Option IgnoreReason) : RequestStep c input c (emitted (.ok { ignored := reason })) :=
  .keep (.refl c) rfl rfl fun _ h => by cases h

/-- A call that ends the negotiation. -/
lemma RequestStep.down (hsettings : c'.settings = c.settings) (hdropped : Dropped c → Dropped c')
    (hstate : ¬ Negotiating c') (hsent : sentRequests actions = [])
    (hup : ∀ addresses, Action.thisLayerUp addresses ∉ actions) : RequestStep c input c' actions where
  settings := hsettings
  dropped := hdropped
  request := Or.inr ⟨hsent, fun h => absurd h hstate⟩
  up := fun addresses h => absurd h (hup addresses)

/-- The actions of a call that sends a request: those before it, and the request. -/
lemma RequestStep.send {before : List Action} (hsettings : c'.settings = c.settings)
    (hdropped : Dropped c → Dropped c') (hstate : ¬ Acknowledged c') (hsent : sentRequests before = [])
    (hup : ∀ addresses, Action.thisLayerUp addresses ∉ before) :
    RequestStep c input c' (emitted (c'.encodeRequest.map fun packet => { actions := before ++ [.sendPacket packet] })) := by
  obtain ⟨octets, hencode, hrequest⟩ := encodeRequest_ok c'
  rw [hencode]
  refine ⟨hsettings, hdropped, Or.inl ⟨?_, hstate⟩, fun addresses h => ?_⟩
  · change (before ++ [Action.sendPacket octets]).filterMap _ = _
    rw [List.filterMap_append]
    change sentRequests before ++ _ = _
    rw [hsent]
    simp [hrequest]
  · rcases List.mem_append.mp h with h | h
    · exact absurd h (hup addresses)
    · cases List.mem_singleton.mp h

/-- A call that only sends a request. -/
lemma RequestStep.sendAlone (hsettings : c'.settings = c.settings) (hdropped : Dropped c → Dropped c')
    (hstate : ¬ Acknowledged c') :
    RequestStep c input c' (emitted (c'.encodeRequest.map fun packet => { actions := [.sendPacket packet] })) := by
  have hsend : RequestStep c input c'
      (emitted (c'.encodeRequest.map fun packet => { actions := [] ++ [.sendPacket packet] })) :=
    .send hsettings hdropped hstate rfl fun _ h => List.not_mem_nil h
  exact hsend

lemma dropped_reset : Dropped c.resetNegotiation := by
  intro type htype hrequests
  rcases htype with rfl | rfl | rfl <;> cases hrequests

end Rules

/-! ### The calls -/

section Calls

variable {c : Client} {input : Option Packet}

lemma doOpen_step (nowMs : ℕ) : RequestStep c input (c.doOpen nowMs).1 (emitted (c.doOpen nowMs).2) := by
  unfold doOpen
  split_ifs
  · exact .ignore none
  · refine .sendAlone rfl (fun _ => dropped_reset) (not_acknowledged ?_ ?_)
    · simp [sendNewRequest]
    · simp [sendNewRequest]

lemma lowerDown_step : RequestStep c input c.lowerDown.1 c.lowerDown.2.actions := by
  refine .down rfl (fun _ => dropped_reset) (fun h => h.1 rfl) ?_ fun addresses => not_mem_lowerDown_up
  rcases lowerDown_actions c with hnone | hdown
  · rw [hnone]
    rfl
  · rw [hdown]
    rfl

lemma pollTimeout_step (nowMs : ℕ) : RequestStep c input (c.pollTimeout nowMs).1 (emitted (c.pollTimeout nowMs).2) := by
  unfold pollTimeout
  split
  · exact .ignore none
  dsimp only
  split_ifs with hearly hother hexhausted hreceived
  · exact .ignore none
  · exact .keep ⟨rfl, fun _ => rfl, fun _ => rfl, rfl⟩ rfl rfl fun _ h => by cases h
  · refine .down rfl (fun h => h) (fun h => h.2 rfl) rfl fun addresses h => ?_
    cases List.mem_singleton.mp h
  · refine .sendAlone rfl (fun h => h) (not_acknowledged ?_ ?_)
    · simp
    · simp
  · have hopened : c.state ≠ .opened := fun h => hother (by simp [h])
    exact .sendAlone rfl (fun h => h) (not_acknowledged hreceived hopened)

/-- A request that goes out before the response to the peer's. -/
lemma renegotiate_step (next : Client) (hsame : Same c next) (response : List UInt8)
    (hresponse : requestOf response = none) (nowMs : ℕ) (state : State)
    (hstate : state ≠ .ackReceived ∧ state ≠ .opened) :
    let outcome : Outcome := match next.sendNewRequest nowMs true with
      | (c, .error error) => (c, .error error)
      | (c, .ok request) => ({ c with state := state },
          .ok { actions := [.thisLayerDown, .sendPacket request, .sendPacket response] })
    RequestStep c input outcome.1 (emitted outcome.2) := by
  obtain ⟨request, hencode, hrequest⟩ := encodeRequest_ok (next.sendNewRequest nowMs true).1
  have hsend : next.sendNewRequest nowMs true = ((next.sendNewRequest nowMs true).1, .ok request) :=
    Prod.ext rfl hencode
  rw [hsend]
  refine ⟨hsame.settings, fun h => hsame.dropped h, Or.inl ⟨?_, not_acknowledged hstate.1 hstate.2⟩, ?_⟩
  · change [Action.thisLayerDown, .sendPacket request, .sendPacket response].filterMap _ = _
    simp only [List.filterMap_cons, hrequest, hresponse, List.filterMap_nil]
    rfl
  · intro addresses h
    simp [emitted] at h

lemma receiveConfigureRequest_step (packet : Packet) (nowMs : ℕ) :
    RequestStep c input (c.receiveConfigureRequest packet nowMs).1
      (emitted (c.receiveConfigureRequest packet nowMs).2) := by
  unfold receiveConfigureRequest
  cases hevaluation : evaluatePeerRequest packet c.settings.preferredPeerAddress with
  | error error => exact .ignore _
  | ok evaluation =>
  dsimp only
  cases hencode : encode evaluation.code packet.identifier evaluation.data with
  | error error => exact .keep (.refl c) rfl rfl fun _ h => by cases h
  | ok response =>
  have hresponse : requestOf response = none := by
    rw [requestOf_encode hencode, if_neg]
    unfold evaluatePeerRequest at hevaluation
    split at hevaluation
    · cases hevaluation
    · dsimp only at hevaluation
      split_ifs at hevaluation <;> (cases hevaluation; simp)
  dsimp only
  generalize decide (evaluation.code = .configureAck) = acceptable
  have hsent : sentRequests [.sendPacket response] = [] := by simp [sentRequests, hresponse]
  have hup (addresses : AddressConfiguration) : Action.thisLayerUp addresses ∉ [Action.sendPacket response] := by simp
  split
  · rename_i hrequested
    refine ⟨rfl, fun h => h, Or.inr ⟨hsent, fun _ => ?_⟩, fun addresses h => absurd h (hup addresses)⟩
    refine ⟨⟨?_, ?_⟩, rfl, fun h => absurd h ?_⟩
    · simp [hrequested]
    · simp [hrequested]
    · cases acceptable <;> simp [Acknowledged]
  · rename_i hsentAck
    refine ⟨rfl, fun h => h, Or.inr ⟨hsent, fun _ => ?_⟩, fun addresses h => absurd h (hup addresses)⟩
    refine ⟨⟨?_, ?_⟩, rfl, fun h => absurd h ?_⟩
    · simp [hsentAck]
    · simp [hsentAck]
    · cases acceptable <;> simp [Acknowledged]
  · rename_i hreceived
    cases acceptable with
    | true =>
      refine ⟨rfl, fun h => h, Or.inr ⟨?_, fun _ => ?_⟩, fun addresses h => ?_⟩
      · simp [emitted, sentRequests, hresponse]
      · exact ⟨⟨by simp [hreceived], by simp [hreceived]⟩, rfl, fun _ => Or.inl (Or.inl hreceived)⟩
      · simp only [emitted, if_true, List.mem_cons, List.not_mem_nil, or_false, reduceCtorEq, false_or] at h
        exact ⟨Action.thisLayerUp.inj h, rfl⟩
    | false => exact .keep ⟨rfl, fun _ => rfl, fun _ => rfl, rfl⟩ rfl hsent hup
  · have hsame : Same c { c with peerAddress := evaluation.peerAddress.getD c.peerAddress } :=
      ⟨rfl, fun _ => rfl, fun _ => rfl, rfl⟩
    refine renegotiate_step { c with peerAddress := evaluation.peerAddress.getD c.peerAddress } hsame response
      hresponse nowMs _ ?_
    cases acceptable <;> simp
  · exact .keep ⟨rfl, fun _ => rfl, fun _ => rfl, rfl⟩ rfl rfl fun _ h => by cases h
  · exact .keep ⟨rfl, fun _ => rfl, fun _ => rfl, rfl⟩ rfl rfl fun _ h => by cases h

lemma receiveConfigureAck_step (packet : Packet) (nowMs : ℕ) :
    RequestStep c (some packet) (c.receiveConfigureAck packet nowMs).1
      (emitted (c.receiveConfigureAck packet nowMs).2) := by
  unfold receiveConfigureAck
  by_cases hexact : exactlyAcknowledges packet c.requestIdentifier c.localOptions = true
  · rw [if_neg (by simp [hexact])]
    split
    · rename_i hstate
      refine ⟨rfl, fun h => h, Or.inr ⟨rfl, fun _ => ⟨⟨?_, ?_⟩, rfl, fun _ => Or.inr ⟨packet, rfl, hexact⟩⟩⟩,
        fun _ h => by cases h⟩
      · simp [hstate]
      · simp [hstate]
    · rename_i hstate
      refine ⟨rfl, fun h => h, Or.inr ⟨rfl, fun _ => ⟨⟨?_, ?_⟩, rfl, fun _ => Or.inr ⟨packet, rfl, hexact⟩⟩⟩,
        fun addresses h => ?_⟩
      · simp [hstate]
      · simp [hstate]
      · exact ⟨Action.thisLayerUp.inj (List.mem_singleton.mp h), rfl⟩
    · refine .sendAlone rfl (fun h => h) (not_acknowledged ?_ ?_)
      · simp [sendNewRequest]
      · simp [sendNewRequest]
    · have hstate : ¬ Acknowledged ({ c with state := .requestSent }.sendNewRequest nowMs false).1 := by
        simp [Acknowledged, sendNewRequest]
      have hsend : RequestStep c (some packet) ({ c with state := .requestSent }.sendNewRequest nowMs false).1
          (emitted (({ c with state := .requestSent }.sendNewRequest nowMs false).1.encodeRequest.map fun packet =>
            { actions := [Action.thisLayerDown] ++ [Action.sendPacket packet] })) :=
        .send rfl (fun h => h) hstate rfl fun _ h => by cases List.mem_singleton.mp h
      exact hsend
    · exact .keep (.refl c) rfl rfl fun _ h => by cases h
    · exact .keep (.refl c) rfl rfl fun _ h => by cases h
  · rw [if_pos (by simpa using hexact)]
    exact .ignore _

lemma settings_store (type : OptionType) (address : Ipv4Address) : (store c type address).settings = c.settings := by
  cases type <;> rfl

lemma settings_withdraw (type : OptionType) : (withdraw c type).settings = c.settings := by
  cases type <;> rfl

lemma localAddress_withdraw (type : OptionType) : (withdraw c type).localAddress = c.localAddress := by
  cases type <;> rfl

lemma dropped_store {type : OptionType} (hrequests : requests c type = true) (address : Ipv4Address)
    (hdropped : Dropped c) : Dropped (store c type address) := by
  intro other hother hnot
  rw [requests_store] at hnot
  have hne : other ≠ type := by
    rintro rfl
    exact Bool.false_ne_true (hnot.symm.trans hrequests)
  rw [held_store_of_ne c _ _ hne, settings_store]
  exact hdropped other hother hnot

/-- An option that is withdrawn leaves its initial address behind: a DNS option always, the address option if the
client holds the address of its settings. -/
lemma dropped_withdraw {type : OptionType}
    (haddress : type = .ipAddress → c.localAddress = c.settings.requestedLocalAddress) (hdropped : Dropped c) :
    Dropped (withdraw c type) := by
  intro other hother hnot
  rw [settings_withdraw]
  by_cases heq : other = type
  · subst heq
    rcases hother with rfl | rfl | rfl
    · exact haddress rfl
    · rfl
    · rfl
  · rw [held_withdraw_of_ne c _ heq]
    exact hdropped other hother ((requests_withdraw_of_ne c _ heq).symm.trans hnot)

lemma nakLoop_dropped (c : Client) (options : List ConfigurationOption) :
    (optionLoop nakOption c options).1.settings = c.settings ∧
      (Dropped c → Dropped (optionLoop nakOption c options).1) := by
  refine optionLoop_preserves (P := fun next => next.settings = c.settings ∧ (Dropped c → Dropped next))
    (fun next option _ after hturn hnext => ?_) c ⟨rfl, fun h => h⟩
  rw [nakOption_eq] at hturn
  obtain ⟨found, hfound, rfl⟩ := Option.map_eq_some_iff.mp hturn
  exact ⟨(settings_store found.1 found.2).trans hnext.1, fun hdropped =>
    dropped_store (knownType_of_suggestion hfound).2 found.2 (hnext.2 hdropped)⟩

lemma rejectLoop_dropped (c : Client) (options : List ConfigurationOption)
    (haddress : ∀ option ∈ options, knownType option = some .ipAddress →
      c.localAddress = c.settings.requestedLocalAddress) :
    (optionLoop rejectOption c options).1.settings = c.settings ∧
      (Dropped c → Dropped (optionLoop rejectOption c options).1) := by
  suffices hkeep : (optionLoop rejectOption c options).1.settings = c.settings ∧
      (optionLoop rejectOption c options).1.localAddress = c.localAddress ∧
      (Dropped c → Dropped (optionLoop rejectOption c options).1) from ⟨hkeep.1, hkeep.2.2⟩
  refine optionLoop_preserves (P := fun next => next.settings = c.settings ∧
      next.localAddress = c.localAddress ∧ (Dropped c → Dropped next))
    (fun next option hmem after hturn hnext => ?_) c ⟨rfl, rfl, fun h => h⟩
  rw [rejectOption_eq] at hturn
  split_ifs at hturn
  obtain ⟨type, htype, rfl⟩ := Option.map_eq_some_iff.mp hturn
  refine ⟨(settings_withdraw type).trans hnext.1, (localAddress_withdraw type).trans hnext.2.1, fun hdropped =>
    dropped_withdraw (fun hip => ?_) (hnext.2.2 hdropped)⟩
  rw [hnext.1, hnext.2.1]
  exact haddress option hmem (htype.trans (congrArg some hip))

lemma afterNegativeResponse_step {next : Client} (hsettings : next.settings = c.settings)
    (hdropped : Dropped c → Dropped next) (nowMs : ℕ) :
    RequestStep c input (next.afterNegativeResponse nowMs).1 (emitted (next.afterNegativeResponse nowMs).2) := by
  unfold afterNegativeResponse
  refine .send hsettings hdropped (not_acknowledged ?_ ?_) ?_ fun addresses h => ?_
  · simp only [sendNewRequest]
    split_ifs <;> simp
  · simp only [sendNewRequest]
    split_ifs <;> simp
  · split_ifs <;> rfl
  · split_ifs at h
    · cases List.mem_singleton.mp h
    · cases h

/-- A negative answer, by what its loop leaves behind when it comes to its end and when it does not. -/
lemma receiveNegative_step (turn : Client → ConfigurationOption → Option Client) (packet : Packet) (nowMs : ℕ)
    (haccepted : ∀ options, packet.identifier = c.requestIdentifier →
      collectOptions optionParseError packet.data = .ok options → hasDuplicateTypes options = false →
      (optionLoop turn c options).2 = true →
      (optionLoop turn c options).1.settings = c.settings ∧ (Dropped c → Dropped (optionLoop turn c options).1))
    (hintact : Intact c (receiveNegative turn c packet nowMs)) :
    RequestStep c input (receiveNegative turn c packet nowMs).1 (emitted (receiveNegative turn c packet nowMs).2) := by
  rw [intact_negative_iff] at hintact
  unfold receiveNegative
  by_cases hid : packet.identifier = c.requestIdentifier
  · rw [if_neg (by simpa using hid)]
    cases hoptions : collectOptions optionParseError packet.data with
    | error error => exact .ignore _
    | ok options =>
      dsimp only
      split_ifs with hcheck
      · exact .ignore _
      · have hdup : hasDuplicateTypes options = false := by simpa using (not_or.mp hcheck).2
        cases hloop : optionLoop turn c options with
        | mk next finished =>
          cases finished with
          | true =>
            obtain ⟨hsettings, hdropped⟩ := haccepted options hid hoptions hdup (by rw [hloop])
            rw [hloop] at hsettings hdropped
            exact afterNegativeResponse_step hsettings hdropped nowMs
          | false =>
            have hkept := hintact options hid hoptions hdup (by rw [hloop])
            rw [hloop] at hkept
            obtain rfl : next = c := hkept
            exact .ignore _
  · rw [if_pos (by simpa using hid)]
    exact .ignore _

lemma intact_receive {octets : List UInt8} {packet : Packet} (nowMs : ℕ) (hwhole : ¬ PartialUpdate c octets)
    (hparse : Packet.parse octets = .ok packet) (hclosed : ¬ (c.state = .closed ∨ c.state = .stopped)) :
    (knownCode packet = some .configureNak → Intact c (c.receiveConfigureNak packet nowMs)) ∧
      (knownCode packet = some .configureReject → Intact c (c.receiveConfigureReject packet nowMs)) := by
  have hintact := (ignoredIntact_iff c octets nowMs).mpr hwhole
  unfold IgnoredIntact Client.receive at hintact
  rw [if_neg hclosed, hparse] at hintact
  dsimp only at hintact
  constructor
  · intro hcode
    rwa [hcode] at hintact
  · intro hcode
    rwa [hcode] at hintact

lemma receive_step (octets : List UInt8) (nowMs : ℕ) (hwhole : ¬ PartialUpdate c octets)
    (hdrops : ¬ DropsSuggestion c octets) :
    RequestStep c (Packet.parse octets).toOption (c.receive octets nowMs).1 (emitted (c.receive octets nowMs).2) := by
  by_cases hclosed : c.state = .closed ∨ c.state = .stopped
  · rw [Client.receive, if_pos hclosed]
    exact .ignore _
  cases hparse : Packet.parse octets with
  | error error =>
    rw [Client.receive, if_neg hclosed, hparse]
    exact .ignore _
  | ok packet =>
  have hintact := intact_receive nowMs hwhole hparse hclosed
  rw [Client.receive, if_neg hclosed, hparse]
  dsimp only
  cases hcode : knownCode packet with
  | none => exact .ignore _
  | some code =>
    cases code with
    | configureRequest => exact receiveConfigureRequest_step packet nowMs
    | configureAck => exact receiveConfigureAck_step packet nowMs
    | configureNak =>
      exact receiveNegative_step nakOption packet nowMs (fun options _ _ _ _ => nakLoop_dropped c options)
        (hintact.1 hcode)
    | configureReject =>
      refine receiveNegative_step rejectOption packet nowMs (fun options hid hoptions hdup hfinished => ?_)
        (hintact.2 hcode)
      refine rejectLoop_dropped c options fun option hmem htype => ?_
      -- Every option repeats the request, so the loop comes to the address option.
      rw [rejectLoop_finishes c options ((hasDuplicateTypes_eq_false_iff options).mp hdup)] at hfinished
      have hall : options.takeWhile (repeatsRequest c) = options :=
        List.takeWhile_eq_self_iff.mpr (List.all_eq_true.mp hfinished)
      by_contra hne
      refine hdrops ⟨fun h => hclosed (Or.inl h), fun h => hclosed (Or.inr h), packet, options, hparse, hid, hoptions,
        hdup, hcode, ⟨option, ?_, htype⟩, hne⟩
      rw [hall]
      exact hmem
    | terminateRequest | terminateAck | codeReject => exact .ignore _

/-- **What a call does to the client's own request.** -/
theorem call_step (call : Call) (hguard : Guard c call) :
    RequestStep c (received call) (step c call) (actions c call) := by
  cases call with
  | doOpen nowMs => exact doOpen_step nowMs
  | lowerDown => exact lowerDown_step
  | pollTimeout nowMs => exact pollTimeout_step nowMs
  | receive octets nowMs => exact receive_step octets nowMs hguard.1 hguard.2

end Calls

/-! ### Runs -/

/-- The client of a run with the request it has sent last, and whether the peer has acknowledged that one. -/
structure History where
  client : Client
  request : Option Packet
  acknowledged : Bool

namespace History

def start (settings : Settings) : History := ⟨Client.new settings, none, false⟩

/-- The history after a call. -/
def step (h : History) (call : Call) : History where
  client := IpcpRun.step h.client call
  request := (sentRequests (actions h.client call)).getLast? <|> h.request
  acknowledged := (sentRequests (actions h.client call)).isEmpty &&
    (h.acknowledged || (received call).any fun packet =>
      h.request.any fun request => exactlyAcknowledges packet request.identifier request.data)

/-- The client's request is the last one sent, an acknowledged request was acknowledged by the peer, and options
that are not requested have the addresses of these settings. -/
structure Assigned (settings : Settings) (h : History) : Prop where
  settings : h.client.settings = settings
  dropped : Dropped h.client
  request : Negotiating h.client → h.request = some (currentRequest h.client)
  acknowledged : Acknowledged h.client → h.acknowledged = true

end History

/-- **Each This-Layer-Up of the call reports the addresses of the last request**, which the peer has acknowledged:
those that the request carries, and the initial ones for the options that it does not have. -/
def ReportsAssigned (settings : Settings) (h : History) (call : Call) : Prop :=
  ∀ addresses, Action.thisLayerUp addresses ∈ actions h.client call → ∃ request,
    (h.step call).request = some request ∧ (h.step call).acknowledged = true ∧
    addresses.localAddress = assigned settings request.data .ipAddress ∧
    addresses.primaryDns = assigned settings request.data .primaryDnsServerAddress ∧
    addresses.secondaryDns = assigned settings request.data .secondaryDnsServerAddress

section Runs

variable {settings : Settings} {h : History}

lemma negotiating_of_acknowledged {c : Client} (hacknowledged : Acknowledged c) : Negotiating c := by
  rcases hacknowledged with hstate | hstate
  · exact ⟨by simp [hstate], by simp [hstate]⟩
  · exact ⟨by simp [hstate], by simp [hstate]⟩

/-- What the client holds is what its request assigns. -/
lemma held_eq_assigned {c : Client} (hsettings : c.settings = settings) (hdropped : Dropped c) {type : OptionType}
    (htype : leased type) : held c type = assigned settings (currentRequest c).data type := by
  unfold assigned
  rw [show carried (currentRequest c).data type = _ from carried_localOptions c htype]
  cases hrequests : requests c type with
  | true => rfl
  | false => exact (hdropped type htype hrequests).trans (congrArg (initial · type) hsettings)

lemma assigned_step (hassigned : h.Assigned settings) {call : Call} (hguard : Guard h.client call) :
    (h.step call).Assigned settings := by
  have hcall := call_step call hguard
  refine ⟨hcall.settings.trans hassigned.settings, hcall.dropped hassigned.dropped, fun hnegotiating => ?_,
    fun hacknowledged => ?_⟩
  · change ((sentRequests (actions h.client call)).getLast? <|> h.request) = _
    rcases hcall.request with ⟨hsent, -⟩ | ⟨hsent, hkept⟩
    · rw [hsent]
      rfl
    · obtain ⟨hbefore, hsame, -⟩ := hkept hnegotiating
      rw [hsent]
      exact (hassigned.request hbefore).trans (congrArg some hsame.symm)
  · change ((sentRequests (actions h.client call)).isEmpty && _) = true
    rcases hcall.request with ⟨-, hnot⟩ | ⟨hsent, hkept⟩
    · exact absurd hacknowledged hnot
    · obtain ⟨hbefore, -, hby⟩ := hkept (negotiating_of_acknowledged hacknowledged)
      rw [hsent, hassigned.request hbefore]
      rcases hby hacknowledged with hheld | ⟨packet, hinput, hexact⟩
      · simp [hassigned.acknowledged hheld]
      · obtain hinput : received call = some packet := hinput
        simp only [hinput, List.isEmpty_nil, Bool.true_and, Option.any_some, Bool.or_eq_true]
        exact Or.inr hexact

/-- **The step lemma.** -/
theorem reports_step (hassigned : h.Assigned settings) {call : Call} (hguard : Guard h.client call) :
    ReportsAssigned settings h call := by
  intro addresses hup
  have hafter := assigned_step hassigned hguard
  obtain ⟨rfl, hopened⟩ := (call_step call hguard).up addresses hup
  have hacknowledged : Acknowledged (h.step call).client := Or.inr hopened
  have hheld {type : OptionType} (htype : leased type) := held_eq_assigned hafter.settings hafter.dropped htype
  exact ⟨_, hafter.request (negotiating_of_acknowledged hacknowledged), hafter.acknowledged hacknowledged,
    hheld (Or.inl rfl), hheld (Or.inr (Or.inl rfl)), hheld (Or.inr (Or.inr rfl))⟩

lemma assigned_start (settings : Settings) : (History.start settings).Assigned settings where
  settings := rfl
  dropped := by
    intro type htype hrequests
    rcases htype with rfl | rfl | rfl <;> cases hrequests
  request := fun h => absurd rfl h.1
  acknowledged := fun h => h.elim (fun h => by cases h) (fun h => by cases h)

end Runs

/-- **Every This-Layer-Up reports the addresses of the acknowledged request**, in every run of a new client whose
calls are no partial updates and do not drop a suggested address. -/
theorem reports_assigned (settings : Settings) (calls : List Call) (call : Call)
    (hguard : Run.Along History.step (fun h call => Guard h.client call) (.start settings) (calls ++ [call])) :
    ReportsAssigned settings (Run.run History.step (.start settings) calls) call := by
  obtain ⟨hcalls, hcall, -⟩ := Run.along_append.mp hguard
  have hassigned : (Run.run History.step (.start settings) calls).Assigned settings :=
    Run.run_invariant (fun _ _ hassigned hguard => assigned_step hassigned hguard) (assigned_start settings) hcalls
  exact reports_step hassigned hcall

lemma guard_of_code {c : Client} {octets : List UInt8} {packet : Packet} (hparse : Packet.parse octets = .ok packet)
    (hnak : knownCode packet ≠ some .configureNak) (hreject : knownCode packet ≠ some .configureReject) (nowMs : ℕ) :
    Guard c (.receive octets nowMs) := by
  refine ⟨not_partialUpdate_of_code hparse hnak hreject, ?_⟩
  rintro ⟨-, -, found, -, hfound, -, -, -, hcode, -⟩
  obtain rfl : packet = found := by simpa [hparse] using hfound
  exact hreject hcode

/-- The client takes the address that a Nak suggests, requests it, and reports it. -/
theorem reports_assigned_suggestion : ReportsAssigned ⟨3000, 10, unspecifiedAddress, ⟨10, 24, 0, 1⟩⟩
    (Run.run History.step (.start ⟨3000, 10, unspecifiedAddress, ⟨10, 24, 0, 1⟩⟩) [.doOpen 0,
      .receive [3, 1, 0, 10, 3, 6, 10, 24, 0, 2] 10, .receive [1, 9, 0, 10, 3, 6, 10, 24, 0, 1] 20])
    (.receive [2, 2, 0, 22, 3, 6, 10, 24, 0, 2, 129, 6, 0, 0, 0, 0, 131, 6, 0, 0, 0, 0] 30) := by
  refine reports_assigned _ _ _ ⟨trivial, ⟨?_, ?_⟩, ?_, ?_, trivial⟩
  · -- The option of the Nak is a suggestion.
    rintro ⟨-, -, packet, options, hparse, -, hoptions, -, ⟨-, ⟨option, hmem, hnone⟩, -⟩ | ⟨hcode, -⟩⟩
    · obtain rfl : _ = packet := Except.ok.inj hparse
      obtain rfl : [(⟨3, [10, 24, 0, 2], by decide⟩ : ConfigurationOption)] = options := Except.ok.inj hoptions
      rw [List.mem_singleton.mp hmem] at hnone
      exact absurd hnone (by decide +kernel)
    · obtain rfl : _ = packet := Except.ok.inj hparse
      exact absurd hcode (by decide)
  · rintro ⟨-, -, packet, -, hparse, -, -, -, hcode, -⟩
    obtain rfl : _ = packet := Except.ok.inj hparse
    exact absurd hcode (by decide)
  · exact guard_of_code rfl (by decide) (by decide) 20
  · exact guard_of_code rfl (by decide) (by decide) 30

/-- The address that a Nak suggests stays in the client when a Reject removes the option: the Up reports it, although
the acknowledged request does not have the option. -/
theorem nak_then_reject_reports_suggestion : ¬ ∀ settings calls call,
    ReportsAssigned settings (Run.run History.step (.start settings) calls) call := by
  intro h
  let settings : Settings := ⟨3000, 10, unspecifiedAddress, ⟨10, 24, 0, 1⟩⟩
  -- The Nak of request 1, the Reject of request 2, and the acknowledgement of request 3.
  let calls : List Call := [.doOpen 0, .receive [3, 1, 0, 10, 3, 6, 10, 24, 0, 2] 10,
    .receive [4, 2, 0, 10, 3, 6, 10, 24, 0, 2] 20, .receive [2, 3, 0, 16, 129, 6, 0, 0, 0, 0, 131, 6, 0, 0, 0, 0] 30]
  obtain ⟨request, hrequest, -, hlocal, -⟩ := h settings calls (.receive [1, 9, 0, 10, 3, 6, 10, 24, 0, 1] 40)
    ⟨⟨10, 24, 0, 2⟩, ⟨10, 24, 0, 1⟩, unspecifiedAddress, unspecifiedAddress⟩ (by decide +kernel)
  have hsent : some request = some ⟨1, 3, [129, 6, 0, 0, 0, 0, 131, 6, 0, 0, 0, 0]⟩ :=
    hrequest.symm.trans (by decide +kernel)
  rw [Option.some_inj.mp hsent] at hlocal
  exact absurd hlocal (by decide +kernel)

end SnesModem.Rust.IpcpAddresses
