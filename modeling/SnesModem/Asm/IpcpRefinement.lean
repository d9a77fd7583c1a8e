import SnesModem.Asm.FrameRetention
import SnesModem.Asm.IpcpNegative
import SnesModem.Lib.Lockstep
import SnesModem.Rust.IpcpRun

/-!
# The IPCP client of the console against the reference client

Both clients are opened, and take the same received frames.  The encoder of the console is idle whenever it is offered
a packet, and no restart timer expires.

* `Session`, `Reference`: the two clients, and what they show at each frame;
* `Simulates`: the relation between the two;
* `Faithful`: a frame that is no request past octet 256 and no answer with an invalid option after valid ones;
* `clients_agree`: along runs of such frames the two show the same.
-/

namespace SnesModem.Asm.IpcpRefinement

open SnesModem.Lib SnesModem.Lib.Cpu65816 SnesModem.Lib.Octets
open SnesModem.Asm.FrameDelivery (ipcpSent_transmit)
open SnesModem.Asm.FrameRetention (givenFrame)
open SnesModem.Asm.IpcpEvaluation SnesModem.Asm.IpcpNegative
open SnesModem.Rust.ControlPacket (ConfigurationOption Packet collectOptions hasDuplicateTypes)
open SnesModem.Rust.Ipcp (Client Ipv4Address unspecifiedAddress knownCode optionParseError)
open SnesModem.Rust.IpcpIgnored (PartialUpdate)

/-- A received frame, which is no longer than the decoder takes, with the times at which the clients receive it. -/
structure Input where
  decoder : Decoder
  short : decoder.lastFrameLength.toNat ≤ 1504
  now : UInt32
  nowMs : ℕ

/-- The addresses that an opened client gives out, as far as they are valid. -/
structure Published where
  peer : Option Ipv4Address
  primaryDns : Option Ipv4Address
  secondaryDns : Option Ipv4Address
  deriving DecidableEq, Repr

/-- What a client shows: its state, the options it requests with their values, the addresses it gives out when it is
opened, and the frames it has sent, its requests and its responses. -/
structure Shown where
  state : IpcpState
  requested : List UInt8
  published : Option Published
  requests : List (List UInt8)
  responses : List (List UInt8)
  deriving DecidableEq, Repr

/-- The frame is a Configure-Request. -/
def isRequest (frame : List UInt8) : Bool := frame[4]? = some 1

/-! ### The client of the console -/

abbrev Session := IpcpLayer

namespace Session

def published (p : Ipcp) : Option Published :=
  if p.state = .opened then some {
    peer := if p.flags.peerValid then some (reference p.peerAddress) else none
    primaryDns := if p.flags.primaryDnsValid then some (reference p.primaryDnsAddress) else none
    secondaryDns := if p.flags.secondaryDnsValid then some (reference p.secondaryDnsAddress) else none }
  else none

def shown (p : Ipcp) (sent : List (List UInt8)) : Shown :=
  ⟨p.state, p.requestData, published p, sent.filter isRequest, sent.filter fun frame => !isRequest frame⟩

/-- The pending packet is offered to an idle encoder. -/
def offer (now : UInt32) (s : Session) : Session × List (List UInt8) :=
  let s := (s.idle.servicePending now).1
  (s, (givenFrame s.transmit).toList)

/-- The response, and a request that was deferred for it. -/
def serve (now : UInt32) (s : Session) : Session × List (List UInt8) :=
  let (s, first) := offer now s
  let (s, second) := offer now s
  (s, first ++ second)

/-- The lower layer comes up. -/
def opening (s : Session) (now : UInt32) : Session × Shown :=
  let (s, sent) := serve now { s with ipcp := pppIpcpLowerUp s.ipcp }
  (s, shown s.ipcp sent)

/-- A frame is received. -/
def step (s : Session) (i : Input) : Session × Shown :=
  let s := { s with receive := { s.receive with decoder := i.decoder, frameReady := true } }
  let (ram, ipcp, _) := pppIpcpReceiveFrame i.decoder s.ram s.ipcp
  let (s, sent) := serve i.now { s with ram := ram, ipcp := ipcp }
  (s, shown s.ipcp sent)

end Session

/-! ### The reference client -/

namespace Reference

def state : Rust.Ipcp.State → IpcpState
  | .closed => .closed
  | .stopped => .stopped
  | .requestSent => .requestSent
  | .ackReceived => .ackReceived
  | .ackSent => .ackSent
  | .opened => .opened

/-- An address, unless it is the one that stands for none. -/
def valid (address : Ipv4Address) : Option Ipv4Address := if address = unspecifiedAddress then none else some address

def published (c : Client) : Option Published :=
  if c.state = .opened then some {
    peer := some c.addresses.peer
    primaryDns := valid c.addresses.primaryDns
    secondaryDns := valid c.addresses.secondaryDns }
  else none

/-- The frames of the packets among the actions. -/
def sentFrames (actions : List Rust.Ipcp.Action) : List (List UInt8) :=
  actions.filterMap fun
    | .sendPacket packet => some ([0xff, 0x03, 0x80, 0x21] ++ packet)
    | _ => none

def shown (c : Client) (sent : List (List UInt8)) : Shown :=
  ⟨state c.state, c.localOptions, published c, sent.filter isRequest, sent.filter fun frame => !isRequest frame⟩

/-- The addresses of the console, and any restart interval and number of Configure-Requests. -/
def settings (restartIntervalMs maxConfigure : ℕ) : Rust.Ipcp.Settings :=
  ⟨restartIntervalMs, maxConfigure, unspecifiedAddress, preferred⟩

/-- A new client is opened. -/
def opening (settings : Rust.Ipcp.Settings) (nowMs : ℕ) : Client × Shown :=
  let (c, result) := (Client.new settings).doOpen nowMs
  (c, shown c (sentFrames (Rust.IpcpRun.emitted result)))

/-- A frame is received; the client is given the packets of its protocol. -/
def step (c : Client) (i : Input) : Client × Shown :=
  if i.decoder.lastProtocol = protocolIpcp then
    let (c, result) := c.receive (information i.decoder) i.nowMs
    (c, shown c (sentFrames (Rust.IpcpRun.emitted result)))
  else (c, shown c [])

end Reference

/-! ### The condition -/

/-- The frame is a well-formed Configure-Request whose packet does not end before octet 256 of the frame. -/
def LongRequest (d : Decoder) : Prop :=
  ∃ packet options, Rust.Ipcp.Packet.parse (information d) = .ok packet ∧ knownCode packet = some .configureRequest ∧
    collectOptions optionParseError packet.data = .ok options ∧ 256 ≤ 8 + packet.data.length

/-- The frame is not one that the two clients may treat differently. -/
def Faithful (c : Client) (i : Input) : Prop :=
  i.decoder.lastProtocol = protocolIpcp → ¬ LongRequest i.decoder ∧ ¬ PartialUpdate c (information i.decoder)

/-! ### Received frames of the console -/

/-- The variables of the client without those of its receiver and of its restart timer. -/
def core (p : Ipcp) : Ipcp :=
  { p with
    lastCode := 0
    lastIdentifier := 0
    lastError := .none
    packetLength := 0
    packetEnd := 0
    receiveCount := 0
    restartRemaining := 0
    timerActive := false
    restartDeadline := 0 }

/-- The variables after the header of a packet has been read. -/
def parsed (d : Decoder) (p : Ipcp) : Ipcp :=
  { p with
    receiveCount := p.receiveCount + 1
    lastCode := d.frameBuffer 4
    lastIdentifier := d.frameBuffer 5
    packetLength := declaredLength d
    packetEnd := declaredLength d + frameOffset }

/-- The frame has a Configure packet with these options. -/
structure Configures (d : Decoder) (items : List Tlv.Item) : Prop where
  bounded : Bounded d
  code : configureCode (d.frameBuffer 4) = true
  placed : Placed d.frameBuffer 8 items
  span : 8 + span items = (declaredLength d).toNat + 4

section Received

variable {d : Decoder} {items : List Tlv.Item} (ram : Buffer) (p : Ipcp)

/-- A packet of another code changes nothing. -/
lemma dispatchIpcp_other (buffer : Buffer) (hcode : ¬ configureCode p.lastCode = true) :
    ∃ p' carry, dispatchIpcp buffer ram p = (ram, p', carry) ∧ core p' = core p := by
  have hvalue (n : ℕ) (hn : 1 ≤ n ∧ n < 5) (h : p.lastCode.toNat = n) : False := hcode (toNat_lastCode h hn)
  unfold dispatchIpcp
  by_cases hclosed : p.state = .closed ∨ p.state = .stopped
  · rw [if_pos hclosed]
    exact ⟨_, _, rfl, rfl⟩
  · rw [if_neg hclosed]
    split
    · exact absurd (by assumption) (hvalue 1 (by omega))
    · exact absurd (by assumption) (hvalue 2 (by omega))
    · exact absurd (by assumption) (hvalue 3 (by omega))
    · exact absurd (by assumption) (hvalue 4 (by omega))
    · exact ⟨_, _, rfl, rfl⟩

/-- **A frame** has a Configure packet that is dispatched, or it changes nothing. -/
theorem receiveFrame_cases (hprotocol : d.lastProtocol = protocolIpcp) (hshort : d.lastFrameLength.toNat ≤ 1504) :
    (∃ items, Configures d items ∧ pppIpcpReceiveFrame d ram p = dispatchIpcp d.frameBuffer ram (parsed d p)) ∨
    (∀ items, ¬ Configures d items) ∧
      ∃ p' carry, pppIpcpReceiveFrame d ram p = (ram, p', carry) ∧ core p' = core p := by
  have h8 : minimumFrameLength.toNat = 8 := rfl
  have h4 : headerLength.toNat = 4 := rfl
  unfold pppIpcpReceiveFrame
  dsimp only
  rw [if_neg (not_not_intro hprotocol)]
  by_cases hheader : d.lastFrameLength < minimumFrameLength
  · rw [if_pos hheader]
    rw [UInt16.lt_iff_toNat_lt] at hheader
    refine Or.inr ⟨fun items h => ?_, _, _, rfl, rfl⟩
    have hle := h.bounded.1
    omega
  rw [if_neg hheader]
  by_cases hfour : word (d.frameBuffer 6) (d.frameBuffer 7) < headerLength
  · rw [if_pos hfour]
    rw [UInt16.lt_iff_toNat_lt] at hfour
    refine Or.inr ⟨fun items h => ?_, _, _, rfl, rfl⟩
    have hle : 4 ≤ (word (d.frameBuffer 6) (d.frameBuffer 7)).toNat := h.bounded.2.1
    omega
  rw [if_neg hfour]
  by_cases hwithin : d.lastFrameLength < word (d.frameBuffer 6) (d.frameBuffer 7) + frameOffset
  · rw [if_pos hwithin]
    rw [UInt16.lt_iff_toNat_lt] at hwithin
    refine Or.inr ⟨fun items h => ?_, _, _, rfl, rfl⟩
    have hle := h.bounded.2.2
    have hsum := toNat_add_le (declaredLength d) frameOffset
    have hframe : frameOffset.toNat = 4 := rfl
    have hdeclared : declaredLength d = word (d.frameBuffer 6) (d.frameBuffer 7) := rfl
    rw [← hdeclared] at hwithin
    omega
  rw [if_neg hwithin]
  rw [UInt16.lt_iff_toNat_lt] at hheader hfour hwithin
  show (∃ items, Configures d items ∧ validateIpcpOptions d.frameBuffer ram (parsed d p) = _) ∨
    (∀ items, ¬ Configures d items) ∧
      ∃ p' carry, validateIpcpOptions d.frameBuffer ram (parsed d p) = (ram, p', carry) ∧ core p' = core p
  have hloop := optionLoop_iff (d := d) hshort (not_lt.mp hwithin)
  unfold validateIpcpOptions
  by_cases hlow : (parsed d p).lastCode < 5
  · rw [if_pos hlow]
    cases hwalk : optionLoop d.frameBuffer (parsed d p).packetEnd maximumTurns firstOption with
    | some error =>
      refine Or.inr ⟨fun items h => ?_, _, _, rfl, rfl⟩
      have hnone := hloop.mpr ⟨items, h.placed, ?_⟩
      · have herror : optionLoop d.frameBuffer (declaredLength d + frameOffset) maximumTurns firstOption = some error :=
          hwalk
        rw [herror] at hnone
        cases hnone
      · have hle := h.bounded.2.2
        have hspan := h.span
        have hframe : frameOffset.toNat = 4 := rfl
        rw [toNat_add_of_lt (by omega), hframe]
        exact hspan
    | none =>
      obtain ⟨items, hplaced, hspan⟩ := hloop.mp hwalk
      dsimp only
      have hsum := UInt16.toNat_add (declaredLength d) frameOffset
      have hframe : frameOffset.toNat = 4 := rfl
      have hlt := (declaredLength d).toNat_lt
      have hend : (declaredLength d + frameOffset).toNat = (declaredLength d).toNat + 4 := by omega
      by_cases hcode : configureCode (d.frameBuffer 4) = true
      · refine Or.inl ⟨items, ⟨⟨by omega, ?_, ?_⟩, hcode, hplaced, by omega⟩, rfl⟩
        · have hdeclared : (declaredLength d).toNat = (word (d.frameBuffer 6) (d.frameBuffer 7)).toNat := rfl
          omega
        · have hdeclared : declaredLength d = word (d.frameBuffer 6) (d.frameBuffer 7) := rfl
          rw [← hdeclared] at hwithin
          omega
      · obtain ⟨p', carry, hdispatch, hcore⟩ := dispatchIpcp_other ram (parsed d p) d.frameBuffer hcode
        exact Or.inr ⟨fun items h => hcode h.code, p', carry, hdispatch, hcore⟩
  · rw [if_neg hlow]
    have hcode : ¬ configureCode (d.frameBuffer 4) = true := by
      unfold configureCode
      intro h
      exact hlow (decide_eq_true_iff.mp h).2
    obtain ⟨p', carry, hdispatch, hcore⟩ := dispatchIpcp_other ram (parsed d p) d.frameBuffer hcode
    exact Or.inr ⟨fun items h => hcode h.code, p', carry, hdispatch, hcore⟩

end Received

/-! ### Packets that the console sends -/

section Serve

variable {s : Session} (now : UInt32)

lemma offer_none (hnone : s.ipcp.pendingAction = .none) : Session.offer now s = (s.idle, []) := by
  have hserviced : s.idle.servicePending now = (s.idle, false) := if_pos hnone
  unfold Session.offer
  rw [hserviced]
  rfl

/-- The variables of the client once the encoder has its packet. -/
def begun (now : UInt32) (p : Ipcp) : Ipcp :=
  if p.pendingAction.usesFrame && p.deferredRequest then
    { afterIpcpBegin now p with deferredRequest := false, pendingAction := .configureRequest }
  else afterIpcpBegin now p

lemma sent_ipcp (action : IpcpAction) (s : Session) : (IpcpLayer.sent action s).ipcp =
    if action.usesFrame && s.ipcp.deferredRequest then
      { s.ipcp with deferredRequest := false, pendingAction := .configureRequest }
    else s.ipcp := by
  unfold IpcpLayer.sent IpcpLayer.release
  cases action.usesFrame with
  | false => rfl
  | true => cases h : s.ipcp.deferredRequest <;> simp [h]

/-- An idle encoder takes the pending packet. -/
lemma offer_built {built : Built} (hpending : s.ipcp.pendingAction ≠ .none)
    (hbuilt : buildIpcpAction s.receive.decoder.frameBuffer s.ram s.ipcp s.transmit.buffer = some built)
    (hfits : built.2.toNat ≤ 1504) :
    (Session.offer now s).1.ipcp = begun now s.ipcp ∧ (Session.offer now s).2 = [read built.1 0 built.2.toNat] := by
  have hle : built.2 ≤ maximumTransmitFrameLength := UInt16.le_iff_toNat_le.mpr hfits
  set taken : Transmit := { s.transmit with
    buffer := built.1
    length := built.2
    position := 0
    fcs := 0xffff
    escapeSecond := false
    stage := .openingFlag
    active := true } with htaken
  have hpacket : pppIpcpBuildPending now s.receive.decoder.frameBuffer s.ram s.ipcp s.idle.transmit =
      (afterIpcpBegin now s.ipcp, taken, false) := by
    unfold pppIpcpBuildPending
    rw [if_neg (show ¬ s.idle.transmit.active = true from nofun)]
    rw [show buildIpcpAction s.receive.decoder.frameBuffer s.ram s.ipcp s.idle.transmit.buffer = some built from hbuilt]
    dsimp only
    rw [transmitBegin_eq, if_pos ⟨rfl, hle⟩]
    rfl
  have hserviced : s.idle.servicePending now =
      (IpcpLayer.sent s.ipcp.pendingAction { s with ipcp := afterIpcpBegin now s.ipcp, transmit := taken }, false) := by
    unfold IpcpLayer.servicePending
    rw [if_neg (show ¬ s.idle.ipcp.pendingAction = .none from hpending)]
    rw [show pppIpcpBuildPending now s.idle.receive.decoder.frameBuffer s.idle.ram s.idle.ipcp s.idle.transmit =
      (afterIpcpBegin now s.ipcp, taken, false) from hpacket]
    rfl
  have hipcp : (IpcpLayer.sent s.ipcp.pendingAction
      { s with ipcp := afterIpcpBegin now s.ipcp, transmit := taken }).ipcp = begun now s.ipcp := by
    have hdeferred : (afterIpcpBegin now s.ipcp).deferredRequest = s.ipcp.deferredRequest := by
      unfold afterIpcpBegin
      dsimp only
      split_ifs <;> rfl
    rw [sent_ipcp]
    dsimp only
    rw [hdeferred]
    rfl
  unfold Session.offer
  rw [hserviced]
  dsimp only
  refine ⟨hipcp, ?_⟩
  rw [ipcpSent_transmit]
  rfl

/-- **A request** goes out alone. -/
theorem serve_request (hpending : s.ipcp.pendingAction = .configureRequest) :
    core (Session.serve now s).1.ipcp = core { s.ipcp with pendingAction := .none } ∧
      (Session.serve now s).2 = [controlFrame 1 s.ipcp.requestIdentifier s.ipcp.requestData] := by
  have hdata := requestData_length_le s.ipcp
  obtain ⟨built, hbuilt, hlength, hread⟩ := buildIpcpAction_request s.receive.decoder.frameBuffer s.ram
    s.transmit.buffer hpending
  obtain ⟨hipcp, hsent⟩ := offer_built now (by rw [hpending]; nofun) hbuilt (by omega)
  have hbegun : begun now s.ipcp = afterIpcpBegin now s.ipcp := by
    unfold begun
    rw [hpending]
    rfl
  have hnone : (Session.offer now s).1.ipcp.pendingAction = .none := by
    rw [hipcp, hbegun]
    rfl
  unfold Session.serve
  dsimp only
  rw [offer_none now hnone, hsent, hlength, hread]
  refine ⟨?_, rfl⟩
  show core (Session.offer now s).1.ipcp = _
  rw [hipcp, hbegun]
  unfold afterIpcpBegin
  rw [if_pos hpending]
  rfl

/-- **A response** goes out before a request that was deferred for it. -/
theorem serve_response {frame : List UInt8} (huses : s.ipcp.pendingAction.usesFrame = true)
    (hbuilt : ∃ built, buildIpcpAction s.receive.decoder.frameBuffer s.ram s.ipcp s.transmit.buffer = some built ∧
      built.2.toNat ≤ 1504 ∧ read built.1 0 built.2.toNat = frame) :
    core (Session.serve now s).1.ipcp = core { s.ipcp with pendingAction := .none, deferredRequest := false } ∧
      (Session.serve now s).2 = frame :: if s.ipcp.deferredRequest then
        [controlFrame 1 s.ipcp.requestIdentifier s.ipcp.requestData] else [] := by
  obtain ⟨built, hbuilt, hfits, hread⟩ := hbuilt
  have hpending : s.ipcp.pendingAction ≠ .none := by
    intro hnone
    rw [hnone] at huses
    cases huses
  have hother : s.ipcp.pendingAction ≠ .configureRequest := by
    intro hrequest
    rw [hrequest] at huses
    cases huses
  obtain ⟨hipcp, hsent⟩ := offer_built now hpending hbuilt hfits
  have hbegin : afterIpcpBegin now s.ipcp = { s.ipcp with pendingAction := .none } := by
    unfold afterIpcpBegin
    rw [if_neg hother]
  unfold begun at hipcp
  rw [huses, Bool.true_and, hbegin] at hipcp
  cases hdeferred : s.ipcp.deferredRequest with
  | false =>
    rw [hdeferred, if_neg Bool.false_ne_true] at hipcp
    have hnone : (Session.offer now s).1.ipcp.pendingAction = .none := by rw [hipcp]
    unfold Session.serve
    dsimp only
    rw [offer_none now hnone, hsent, hread]
    refine ⟨?_, rfl⟩
    show core (Session.offer now s).1.ipcp = _
    rw [hipcp, ← hdeferred]
  | true =>
    rw [hdeferred, if_pos rfl] at hipcp
    have hrequest : (Session.offer now s).1.ipcp.pendingAction = .configureRequest := by rw [hipcp]
    have hdata := requestData_length_le (Session.offer now s).1.ipcp
    obtain ⟨built', hbuilt', hlength', hread'⟩ := buildIpcpAction_request
      (Session.offer now s).1.receive.decoder.frameBuffer (Session.offer now s).1.ram
      (Session.offer now s).1.transmit.buffer hrequest
    obtain ⟨hipcp', hsent'⟩ := offer_built now (by rw [hrequest]; nofun) hbuilt' (by omega)
    have hbegun : begun now (Session.offer now s).1.ipcp = afterIpcpBegin now (Session.offer now s).1.ipcp := by
      unfold begun
      rw [hrequest]
      rfl
    unfold Session.serve
    dsimp only
    rw [hsent', hipcp', hbegun, hsent, hread, hlength', hread', hipcp]
    exact ⟨rfl, rfl⟩

end Serve

/-! ### The relation -/

/-- The client of the console, with nothing to send, is where the reference client is. -/
structure Simulates (c : Client) (p : Ipcp) : Prop where
  state : p.state = Reference.state c.state
  same : SameRequest p c
  identifier : p.requestIdentifier = c.requestIdentifier
  next : c.nextIdentifier = c.requestIdentifier
  peer : reference p.peerAddress = c.peerAddress
  peerValid : p.flags.peerValid = true
  settings : c.settings.preferredPeerAddress = preferred
  /-- An acknowledged request has its DNS addresses published. -/
  dns : c.state = .ackReceived ∨ c.state = .opened → (publishDnsValidity p).flags = p.flags
  idle : p.pendingAction = .none
  deferred : p.deferredRequest = false

section Relation

variable {c : Client} {p p' : Ipcp}

lemma state_inj {a b : Rust.Ipcp.State} (h : Reference.state a = Reference.state b) : a = b := by
  cases a <;> cases b <;> first | rfl | cases h

lemma Simulates.state_iff (h : Simulates c p) (state : Rust.Ipcp.State) :
    p.state = Reference.state state ↔ c.state = state := by
  rw [h.state]
  exact ⟨state_inj, fun hstate => by rw [hstate]⟩

lemma simulates_core : Simulates c (core p) ↔ Simulates c p := by
  constructor
  · intro h
    exact ⟨h.state, ⟨h.same.requests, h.same.held, h.same.withdrawn⟩, h.identifier, h.next, h.peer, h.peerValid,
      h.settings, h.dns, h.idle, h.deferred⟩
  · intro h
    exact ⟨h.state, ⟨h.same.requests, h.same.held, h.same.withdrawn⟩, h.identifier, h.next, h.peer, h.peerValid,
      h.settings, h.dns, h.idle, h.deferred⟩

/-- The relation is about the core of the variables. -/
lemma Simulates.of_core (h : Simulates c p) (hcore : core p' = core p) : Simulates c p' := by
  rw [← simulates_core, hcore, simulates_core]
  exact h

/-- Both clients request the same options. -/
lemma requestData_eq (h : SameRequest p c) : p.requestData = c.localOptions := by
  have hone (option : IpcpOption) : (if p.requests option then addressOption option.type (p.address option) else []) =
      if Rust.IpcpIgnored.requests c (known option) then
        (Rust.Ipcp.encodeAddressOption (known option) (Rust.IpcpIgnored.held c (known option))).encoded else [] := by
    rw [h.requests]
    by_cases hrequests : p.requests option = true
    · rw [if_pos hrequests, if_pos hrequests, h.held option hrequests]
      unfold Rust.Ipcp.encodeAddressOption Tlv.Item.encoded
      rw [octet_known]
      rfl
    · rw [if_neg hrequests, if_neg hrequests]
  unfold Ipcp.requestData Client.localOptions
  rw [List.flatMap_cons, List.flatMap_cons, List.flatMap_cons, List.flatMap_nil, hone, hone, hone, List.append_nil,
    List.append_assoc]
  rfl

/-- Opened clients give out the same addresses. -/
lemma published_eq (h : Simulates c p) : Session.published p = Reference.published c := by
  unfold Session.published Reference.published
  by_cases hopened : c.state = .opened
  · have hdns := h.dns (Or.inr hopened)
    have hvalid (option : IpcpOption) (hoption : option ≠ .ipAddress) :
        (if (p.requests option && decide (p.address option ≠ .zero)) = true then some (reference (p.address option))
          else none) = Reference.valid (Rust.IpcpIgnored.held c (known option)) := by
      unfold Reference.valid
      by_cases hrequests : p.requests option = true
      · rw [h.same.held option hrequests, hrequests, Bool.true_and]
        by_cases hzero : p.address option = .zero
        · rw [if_neg (by simp [hzero]), if_pos (reference_zero.mpr hzero)]
        · rw [if_pos (decide_eq_true hzero), if_neg (mt reference_zero.mp hzero)]
      · rw [Bool.not_eq_true] at hrequests
        rw [h.same.withdrawn option hoption hrequests, hrequests, Bool.false_and, if_neg Bool.false_ne_true, if_pos rfl]
    have hprimary := hvalid .primaryDns nofun
    have hsecondary := hvalid .secondaryDns nofun
    have hprimaryFlag : p.flags.primaryDnsValid = (p.requests .primaryDns && decide (p.address .primaryDns ≠ .zero)) :=
      (congrArg IpcpFlags.primaryDnsValid hdns).symm
    have hsecondaryFlag : p.flags.secondaryDnsValid =
        (p.requests .secondaryDns && decide (p.address .secondaryDns ≠ .zero)) :=
      (congrArg IpcpFlags.secondaryDnsValid hdns).symm
    have hstate : p.state = .opened := (h.state_iff .opened).mpr hopened
    rw [if_pos hstate, if_pos hopened, hprimaryFlag, hsecondaryFlag, h.peerValid, h.peer]
    rw [show p.primaryDnsAddress = p.address .primaryDns from rfl,
      show p.secondaryDnsAddress = p.address .secondaryDns from rfl, hprimary, hsecondary]
    rfl
  · have hstate : p.state ≠ .opened := mt (h.state_iff .opened).mp hopened
    rw [if_neg hstate, if_neg hopened]

/-- Both clients change their state, the peer's address and the identifier of their request. -/
lemma Simulates.moved (h : Simulates c p) (state : Rust.Ipcp.State) {address : Address} {peer : Ipv4Address}
    (identifier : UInt8) {next : UInt8} (restartRemaining : ℕ) (restartDeadlineMs : Option ℕ)
    (hpeer : reference address = peer) (hnext : next = identifier)
    (hdns : state = .ackReceived ∨ state = .opened → c.state = .ackReceived ∨ c.state = .opened) :
    Simulates { c with
      state := state
      peerAddress := peer
      requestIdentifier := identifier
      nextIdentifier := next
      restartRemaining := restartRemaining
      restartDeadlineMs := restartDeadlineMs }
    { p with
      state := Reference.state state
      peerAddress := address
      requestIdentifier := identifier
      pendingAction := .none
      deferredRequest := false } :=
  ⟨rfl, ⟨h.same.requests, h.same.held, h.same.withdrawn⟩, rfl, hnext, hpeer, h.peerValid, h.settings,
    fun hacknowledged => h.dns (hdns hacknowledged), rfl, rfl⟩

/-- Frames with the same requests and responses are shown alike. -/
lemma Simulates.shown (h : Simulates c p) {sent sent' : List (List UInt8)}
    (hrequests : sent.filter isRequest = sent'.filter isRequest)
    (hresponses : (sent.filter fun frame => !isRequest frame) = sent'.filter fun frame => !isRequest frame) :
    Session.shown p sent = Reference.shown c sent' := by
  unfold Session.shown Reference.shown
  rw [h.state, requestData_eq h.same, published_eq h, hrequests, hresponses]

end Relation

/-! ### Received frames of the reference -/

/-- The packet of a frame that configures. -/
def packetOf (d : Decoder) (items : List Tlv.Item) : Packet :=
  ⟨d.frameBuffer 4, d.frameBuffer 5, items.flatMap Tlv.Item.encoded⟩

section ReferenceReceived

lemma octet_of_fromOctet {value : UInt8} {code : Rust.Ipcp.Code} (h : Rust.Ipcp.Code.fromOctet value = some code) :
    value = code.octet := by
  apply UInt8.toNat_inj.mp
  unfold Rust.Ipcp.Code.fromOctet at h
  split at h <;> cases h <;> assumption

variable {d : Decoder} {items : List Tlv.Item} {c : Client} (nowMs : ℕ)

lemma parse_of_configures (h : Configures d items) :
    Rust.Ipcp.Packet.parse (information d) = .ok (packetOf d items) := by
  have hspan : (declaredLength d).toNat - 4 = span items := by
    have := h.span
    omega
  unfold Rust.Ipcp.Packet.parse
  rw [parsePacket_information _ h.bounded, hspan, placed_iff.mp h.placed]
  rfl

lemma collect_packetOf (d : Decoder) (items : List Tlv.Item) :
    collectOptions optionParseError (packetOf d items).data = .ok items :=
  Rust.ControlPacket.collectOptions_flatMap optionParseError items

/-- The data of a Configure packet that is no list of options. -/
lemma collect_error (hbounded : Bounded d) (hcode : configureCode (d.frameBuffer 4) = true)
    (hnot : ∀ items, ¬ Configures d items) (options : List ConfigurationOption) :
    collectOptions optionParseError (read d.frameBuffer 8 ((declaredLength d).toNat - 4)) ≠ .ok options := by
  intro hoptions
  have hflat := Rust.ControlPacket.flatMap_of_collectOptions _ hoptions
  have hspan : span options = (declaredLength d).toNat - 4 := by
    unfold span
    rw [hflat, length_read]
  have hfour := hbounded.2.1
  refine hnot options ⟨hbounded, hcode, placed_iff.mpr ?_, by omega⟩
  rw [hspan, hflat]

/-- **A frame that does not configure** is ignored. -/
theorem receive_ignored (hnot : ∀ items, ¬ Configures d items) :
    ∃ reason, c.receive (information d) nowMs = (c, .ok { ignored := reason }) := by
  unfold Client.receive
  by_cases hclosed : c.state = .closed ∨ c.state = .stopped
  · rw [if_pos hclosed]
    exact ⟨_, rfl⟩
  rw [if_neg hclosed]
  by_cases hbounded : Bounded d
  · have hparse : Rust.Ipcp.Packet.parse (information d) = _ := parsePacket_information Rust.Ipcp.parseErrors hbounded
    rw [hparse]
    dsimp only
    have herror (hcode : configureCode (d.frameBuffer 4) = true) : ∃ error, collectOptions optionParseError
        (read d.frameBuffer 8 ((declaredLength d).toNat - 4)) = .error error := by
      cases hoptions : collectOptions optionParseError (read d.frameBuffer 8 ((declaredLength d).toNat - 4)) with
      | error error => exact ⟨error, rfl⟩
      | ok options => exact absurd hoptions (collect_error hbounded hcode hnot options)
    have hnegative (turn : Client → ConfigurationOption → Option Client) (hcode : configureCode (d.frameBuffer 4) = true) :
        ∃ reason, Client.receiveNegative turn c
          ⟨d.frameBuffer 4, d.frameBuffer 5, read d.frameBuffer 8 ((declaredLength d).toNat - 4)⟩ nowMs =
            (c, .ok { ignored := reason }) := by
      obtain ⟨error, herror⟩ := herror hcode
      unfold Client.receiveNegative
      rw [herror]
      split_ifs
      · exact ⟨_, rfl⟩
      · exact ⟨_, rfl⟩
    cases hknown : knownCode ⟨d.frameBuffer 4, d.frameBuffer 5,
        read d.frameBuffer 8 ((declaredLength d).toNat - 4)⟩ with
    | none => exact ⟨_, rfl⟩
    | some code =>
      have hoctet : d.frameBuffer 4 = code.octet := octet_of_fromOctet hknown
      cases code with
      | configureRequest =>
        obtain ⟨error, herror⟩ := herror (by rw [hoctet]; rfl)
        dsimp only
        unfold Client.receiveConfigureRequest Client.evaluatePeerRequest
        rw [herror]
        exact ⟨_, rfl⟩
      | configureAck =>
        have hcode : configureCode (d.frameBuffer 4) = true := by rw [hoctet]; rfl
        have hother : Rust.Ipcp.exactlyAcknowledges ⟨d.frameBuffer 4, d.frameBuffer 5,
            read d.frameBuffer 8 ((declaredLength d).toNat - 4)⟩ c.requestIdentifier c.localOptions = false := by
          rw [Bool.eq_false_iff]
          intro hexact
          have hdata := (Bool.and_eq_true_iff.mp hexact).2
          rw [beq_iff_eq, Rust.IpcpRun.localOptions_eq] at hdata
          dsimp only at hdata
          refine collect_error hbounded hcode hnot (Rust.IpcpRun.localItems c) ?_
          rw [hdata]
          exact Rust.ControlPacket.collectOptions_flatMap _ _
        dsimp only
        unfold Client.receiveConfigureAck
        rw [hother]
        exact ⟨_, rfl⟩
      | configureNak => exact hnegative _ (by rw [hoctet]; rfl)
      | configureReject => exact hnegative _ (by rw [hoctet]; rfl)
      | terminateRequest | terminateAck | codeReject => exact ⟨_, rfl⟩
  · obtain ⟨error, hparse⟩ := parsePacket_information_error Rust.Ipcp.parseErrors hbounded
    rw [show Rust.Ipcp.Packet.parse (information d) = _ from hparse]
    exact ⟨_, rfl⟩

/-- What the client makes of a packet of the code. -/
def handled (c : Client) (packet : Packet) (nowMs : ℕ) : Rust.Ipcp.Code → Client.Outcome
  | .configureRequest => c.receiveConfigureRequest packet nowMs
  | .configureAck => c.receiveConfigureAck packet nowMs
  | .configureNak => c.receiveConfigureNak packet nowMs
  | .configureReject => c.receiveConfigureReject packet nowMs
  | code => (c, .ok { ignored := some (.unsupportedCode code.octet) })

lemma receive_eq_handled (h : Configures d items) (hclosed : c.state ≠ .closed) (hstopped : c.state ≠ .stopped)
    {code : Rust.Ipcp.Code} (hcode : d.frameBuffer 4 = code.octet) :
    knownCode (packetOf d items) = some code ∧
      c.receive (information d) nowMs = handled c (packetOf d items) nowMs code := by
  have hknown : knownCode (packetOf d items) = some code := by
    unfold knownCode packetOf
    rw [hcode]
    cases code <;> rfl
  refine ⟨hknown, ?_⟩
  unfold Client.receive
  rw [if_neg (not_or.mpr ⟨hclosed, hstopped⟩), parse_of_configures h]
  dsimp only
  rw [hknown]
  cases code <;> rfl

/-- A Configure packet has one of four codes. -/
lemma code_of_configures (h : Configures d items) : ∃ code : Rust.Ipcp.Code, d.frameBuffer 4 = code.octet ∧
    (code = .configureRequest ∨ code = .configureAck ∨ code = .configureNak ∨ code = .configureReject) := by
  have hcode := h.code
  unfold configureCode at hcode
  rw [decide_eq_true_iff, UInt8.le_iff_toNat_le, UInt8.lt_iff_toNat_lt] at hcode
  have hone : (1 : UInt8).toNat = 1 := rfl
  have hfive : (5 : UInt8).toNat = 5 := rfl
  have hvalue : (d.frameBuffer 4).toNat = 1 ∨ (d.frameBuffer 4).toNat = 2 ∨ (d.frameBuffer 4).toNat = 3 ∨
      (d.frameBuffer 4).toNat = 4 := by omega
  rcases hvalue with hn | hn | hn | hn
  · exact ⟨.configureRequest, UInt8.toNat_inj.mp hn, Or.inl rfl⟩
  · exact ⟨.configureAck, UInt8.toNat_inj.mp hn, Or.inr (Or.inl rfl)⟩
  · exact ⟨.configureNak, UInt8.toNat_inj.mp hn, Or.inr (Or.inr (Or.inl rfl))⟩
  · exact ⟨.configureReject, UInt8.toNat_inj.mp hn, Or.inr (Or.inr (Or.inr rfl))⟩

end ReferenceReceived

/-! ### Packets that the reference sends -/

section ReferenceSent

variable (c : Client) (nowMs : ℕ)

lemma encode_eq (code : Rust.Ipcp.Code) (identifier : UInt8) {data : List UInt8} (hdata : 4 + data.length < 2 ^ 16) :
    ∃ packet, Rust.Ipcp.encode code identifier data = .ok packet ∧
      [0xff, 0x03, 0x80, 0x21] ++ packet = controlFrame code.octet identifier data := ⟨_, if_pos hdata, rfl⟩

/-- The client as a new request leaves it. -/
def renewed (resetCounter : Bool) : Client :=
  { c with
    nextIdentifier := c.nextIdentifier + 1
    requestIdentifier := c.nextIdentifier + 1
    restartRemaining := (if resetCounter then c.settings.maxConfigure else c.restartRemaining) - 1
    restartDeadlineMs := some (Rust.Ipcp.saturatingAdd nowMs c.settings.restartIntervalMs) }

lemma sendNewRequest_eq (resetCounter : Bool) : ∃ packet,
    c.sendNewRequest nowMs resetCounter = (renewed c nowMs resetCounter, .ok packet) ∧
      [0xff, 0x03, 0x80, 0x21] ++ packet = controlFrame 1 (c.nextIdentifier + 1) c.localOptions := by
  have hlength := Rust.IpcpRun.length_localOptions (c := c)
  obtain ⟨packet, hencode, hframe⟩ := encode_eq .configureRequest (c.nextIdentifier + 1)
    (show 4 + c.localOptions.length < 2 ^ 16 by omega)
  refine ⟨packet, ?_, hframe⟩
  unfold Client.sendNewRequest
  dsimp only
  exact congrArg (Prod.mk _) hencode

lemma isRequest_controlFrame (code identifier : UInt8) (data : List UInt8) :
    isRequest (controlFrame code identifier data) = decide (code = 1) := by
  unfold isRequest controlFrame
  simp

end ReferenceSent

/-! ### The handlers -/

/-- Once its packets are served, the console is where the outcome leaves the reference, and has sent the same. -/
structure Follows (now : UInt32) (s : Session) (outcome : Client.Outcome) : Prop where
  simulates : Simulates outcome.1 (Session.serve now s).1.ipcp
  requests : (Session.serve now s).2.filter isRequest =
    (Reference.sentFrames (Rust.IpcpRun.emitted outcome.2)).filter isRequest
  responses : ((Session.serve now s).2.filter fun frame => !isRequest frame) =
    (Reference.sentFrames (Rust.IpcpRun.emitted outcome.2)).filter fun frame => !isRequest frame

section Handlers

variable {c c' : Client} {p : Ipcp} {d : Decoder} {items : List Tlv.Item} {s : Session} (now : UInt32) (nowMs : ℕ)

/-- Nothing is sent. -/
lemma follows_silent {transition : Rust.Ipcp.Transition} (h : Simulates c' s.ipcp)
    (hactions : Reference.sentFrames transition.actions = []) : Follows now s (c', .ok transition) := by
  have hserve : Session.serve now s = (s.idle.idle, []) := by
    have hidle : s.idle.ipcp.pendingAction = .none := h.idle
    unfold Session.serve
    rw [offer_none now h.idle]
    dsimp only
    rw [offer_none now hidle]
    rfl
  have hsent : Reference.sentFrames (Rust.IpcpRun.emitted (.ok transition)) = [] := hactions
  refine ⟨?_, ?_, ?_⟩
  · rw [hserve]
    exact h
  · rw [hserve, hsent]
  · rw [hserve, hsent]

/-- A new request is sent. -/
lemma follows_request {transition : Rust.Ipcp.Transition} (hpending : s.ipcp.pendingAction = .configureRequest)
    (h : Simulates c' { s.ipcp with pendingAction := .none })
    (hactions : Reference.sentFrames transition.actions = [controlFrame 1 c'.requestIdentifier c'.localOptions]) :
    Follows now s (c', .ok transition) := by
  obtain ⟨hcore, hserved⟩ := serve_request now hpending
  have hidentifier : s.ipcp.requestIdentifier = c'.requestIdentifier := h.identifier
  have hdata : s.ipcp.requestData = c'.localOptions :=
    requestData_eq ⟨h.same.requests, h.same.held, h.same.withdrawn⟩
  have hsent : Reference.sentFrames (Rust.IpcpRun.emitted (.ok transition)) =
      [controlFrame 1 c'.requestIdentifier c'.localOptions] := hactions
  rw [hidentifier, hdata] at hserved
  refine ⟨h.of_core hcore, ?_, ?_⟩
  · rw [hserved, hsent]
  · rw [hserved, hsent]

/-- A response is sent, and a new request if one was deferred. -/
lemma follows_response {transition : Rust.Ipcp.Transition} {code identifier : UInt8} {data : List UInt8}
    (huses : s.ipcp.pendingAction.usesFrame = true) (hcode : code ≠ 1)
    (hbuilt : ∃ built, buildIpcpAction s.receive.decoder.frameBuffer s.ram s.ipcp s.transmit.buffer = some built ∧
      built.2.toNat ≤ 1504 ∧ read built.1 0 built.2.toNat = controlFrame code identifier data)
    (h : Simulates c' { s.ipcp with pendingAction := .none, deferredRequest := false })
    (hactions : Reference.sentFrames transition.actions =
      (if s.ipcp.deferredRequest then [controlFrame 1 c'.requestIdentifier c'.localOptions] else []) ++
        [controlFrame code identifier data]) : Follows now s (c', .ok transition) := by
  obtain ⟨hcore, hserved⟩ := serve_response now huses hbuilt
  have hidentifier : s.ipcp.requestIdentifier = c'.requestIdentifier := h.identifier
  have hdata : s.ipcp.requestData = c'.localOptions :=
    requestData_eq ⟨h.same.requests, h.same.held, h.same.withdrawn⟩
  have hsent : Reference.sentFrames (Rust.IpcpRun.emitted (.ok transition)) = _ := hactions
  have hresponse : isRequest (controlFrame code identifier data) = false := by
    rw [isRequest_controlFrame]
    exact decide_eq_false hcode
  have hrequest : isRequest (controlFrame 1 c'.requestIdentifier c'.localOptions) = true := by
    rw [isRequest_controlFrame]
    rfl
  rw [hidentifier, hdata] at hserved
  refine ⟨h.of_core hcore, ?_, ?_⟩
  · rw [hserved, hsent]
    cases s.ipcp.deferredRequest <;> simp [hresponse, hrequest]
  · rw [hserved, hsent]
    cases s.ipcp.deferredRequest <;> simp [hresponse, hrequest]

lemma parsed_packetEnd (h : Configures d items) (p : Ipcp) :
    8 + span items = (parsed d p).packetEnd.toNat ∧ (parsed d p).packetEnd.toNat = (declaredLength d).toNat + 4 ∧
      (parsed d p).packetEnd.toNat ≤ d.lastFrameLength.toNat := by
  have hwithin := h.bounded.2.2
  have hlt := d.lastFrameLength.toNat_lt
  have hframe : frameOffset.toNat = 4 := rfl
  have hend : (declaredLength d + frameOffset).toNat = (declaredLength d).toNat + 4 := by
    rw [toNat_add_of_lt (by omega), hframe]
  exact ⟨h.span.trans hend.symm, hend, hend.le.trans hwithin⟩

lemma applyIpcpRequest_kept (action : IpcpAction) (p : Ipcp) :
    (applyIpcpRequest action p).pendingAction = action ∧ (applyIpcpRequest action p).packetEnd = p.packetEnd ∧
      (applyIpcpRequest action p).packetLength = p.packetLength ∧
      (applyIpcpRequest action p).lastIdentifier = p.lastIdentifier := by
  unfold applyIpcpRequest
  dsimp only
  split_ifs <;> exact ⟨rfl, rfl, rfl, rfl⟩

lemma applyIpcpRequest_opened (action : IpcpAction) (hopened : p.state = .opened) :
    (applyIpcpRequest action p).deferredRequest = true ∧
      core { applyIpcpRequest action p with pendingAction := .none, deferredRequest := false } = core { p with
        state := if action = .configureAck then .ackSent else .requestSent
        requestIdentifier := p.requestIdentifier + 1
        pendingAction := .none
        deferredRequest := false } := by
  unfold applyIpcpRequest
  dsimp only
  rw [if_pos hopened]
  exact ⟨rfl, rfl⟩

lemma applyIpcpRequest_of_ne (action : IpcpAction) (hopened : p.state ≠ .opened) :
    (applyIpcpRequest action p).deferredRequest = p.deferredRequest ∧
      core { applyIpcpRequest action p with pendingAction := .none, deferredRequest := false } = core { p with
        state :=
          if action = .configureAck then if p.state = .ackReceived then .opened else .ackSent
          else if p.state = .ackReceived then .ackReceived else .requestSent
        pendingAction := .none
        deferredRequest := false } := by
  unfold applyIpcpRequest
  dsimp only
  rw [if_neg hopened]
  split_ifs with hack hreceived hreceived
  · exact ⟨rfl, rfl⟩
  · exact ⟨rfl, rfl⟩
  · rw [← hreceived]
    exact ⟨rfl, rfl⟩
  · exact ⟨rfl, rfl⟩

lemma answer_eq_configureAck (items : List Tlv.Item) :
    answerAction (evaluation items).code = .configureAck ↔ (evaluation items).code = .configureAck := by
  rcases code_evaluation items with ⟨hcode, -⟩ | ⟨hcode, -⟩ | ⟨hcode, -⟩ <;> rw [hcode] <;> simp [answerAction]

lemma usesFrame_answer (items : List Tlv.Item) : (answerAction (evaluation items).code).usesFrame = true ∧
    (evaluation items).code.octet ≠ 1 := by
  rcases code_evaluation items with ⟨hcode, -⟩ | ⟨hcode, -⟩ | ⟨hcode, -⟩ <;> rw [hcode] <;> decide

lemma dispatchIpcp_request {buffer ram : Buffer} {p : Ipcp} (hclosed : p.state ≠ .closed) (hstopped : p.state ≠ .stopped)
    (hcode : p.lastCode = 1) : dispatchIpcp buffer ram p =
      ((pppIpcpEvaluatePeerRequest buffer ram p).2.1, ipcpSuccess (applyIpcpRequest
        (pppIpcpEvaluatePeerRequest buffer ram p).1 (pppIpcpEvaluatePeerRequest buffer ram p).2.2)) := by
  unfold dispatchIpcp
  rw [if_neg (not_or.mpr ⟨hclosed, hstopped⟩), hcode]
  rfl

/-- The session once the request `items` has been evaluated: the action that answers it is applied, and is built into the
response. -/
structure Evaluated (items : List Tlv.Item) (identifier : UInt8) (p : Ipcp) (s : Session) : Prop where
  applied : s.ipcp = (ipcpSuccess (applyIpcpRequest (answerAction (evaluation items).code) p)).1
  built : ∃ built, buildIpcpAction s.receive.decoder.frameBuffer s.ram s.ipcp s.transmit.buffer = some built ∧
    built.2.toNat ≤ 1504 ∧ read built.1 0 built.2.toNat =
      controlFrame (evaluation items).code.octet identifier (evaluation items).data

namespace Evaluated

variable {identifier : UInt8}

lemma usesFrame (he : Evaluated items identifier p s) : s.ipcp.pendingAction.usesFrame = true := by
  obtain ⟨hpending, -⟩ := applyIpcpRequest_kept (answerAction (evaluation items).code) p
  rw [he.applied]
  show (applyIpcpRequest _ p).pendingAction.usesFrame = true
  rw [hpending]
  exact (usesFrame_answer items).1

/-- The response of the reference is the frame that is built. -/
lemma encodes (he : Evaluated items identifier p s) :
    ∃ response, Rust.Ipcp.encode (evaluation items).code identifier (evaluation items).data = .ok response ∧
      [0xff, 0x03, 0x80, 0x21] ++ response =
        controlFrame (evaluation items).code.octet identifier (evaluation items).data := by
  obtain ⟨built, -, hlength, hread⟩ := he.built
  refine encode_eq (evaluation items).code identifier ?_
  have hframe := congrArg List.length hread
  rw [length_read, length_controlFrame] at hframe
  omega

end Evaluated

/-- The dispatcher evaluates a request, and the client has its address afterwards. -/
lemma evaluated_of_dispatch {ram : Buffer} (hd : Configures d items) (hvalid : p.flags.peerValid = true)
    (hclosed : p.state ≠ .closed) (hstopped : p.state ≠ .stopped) (hcode : d.frameBuffer 4 = 1)
    (hshort : (parsed d p).packetEnd.toNat < 256) (hdecoder : s.receive.decoder = d)
    (hram : s.ram = (dispatchIpcp d.frameBuffer ram (parsed d p)).1)
    (hipcp : s.ipcp = (dispatchIpcp d.frameBuffer ram (parsed d p)).2.1) :
    ∃ address, reference address = (evaluation items).peerAddress.getD (reference p.peerAddress) ∧
      Evaluated items (d.frameBuffer 5) { parsed d p with peerAddress := address } s := by
  obtain ⟨hspan, hend, -⟩ := parsed_packetEnd hd p
  obtain ⟨ram', address, hevaluate, haddress, hduplicates⟩ := evaluatePeerRequest_eq (p := parsed d p) ram hd.placed
    hspan hshort hvalid
  rw [dispatchIpcp_request (p := parsed d p) hclosed hstopped hcode, hevaluate] at hram hipcp
  dsimp only at hram hipcp
  refine ⟨address, haddress, hipcp, ?_⟩
  obtain ⟨hpending, hpacketEnd, hpacketLength, hlastIdentifier⟩ := applyIpcpRequest_kept
    (answerAction (evaluation items).code) { parsed d p with peerAddress := address }
  set q := applyIpcpRequest (answerAction (evaluation items).code) { parsed d p with peerAddress := address } with hq
  have hlength := length_evaluation items
  have hitems := two_mul_length_le_span items
  obtain ⟨built, hbuilt, hbuiltLength, hread⟩ := buildIpcpAction_response (p := s.ipcp)
    s.transmit.buffer hd.placed (by rw [hipcp]; exact hspan.trans (congrArg UInt16.toNat hpacketEnd.symm))
    (by rw [hipcp]; exact (congrArg UInt16.toNat hpacketEnd).le.trans_lt hshort) hduplicates
    (by rw [hipcp]; exact hpending) (by
      rw [hipcp]
      show q.packetLength.toNat + 4 = q.packetEnd.toNat
      rw [hpacketLength, hpacketEnd]
      exact hend.symm)
    (by rw [hipcp]; exact hpacketLength.symm) (by rw [hipcp]; exact hlastIdentifier)
  have hidentifier : s.ipcp.lastIdentifier = d.frameBuffer 5 := by
    rw [hipcp]
    exact hlastIdentifier
  rw [hidentifier] at hread
  rw [hdecoder, hram]
  exact ⟨built, hbuilt, by omega, by rw [hbuiltLength]; exact hread⟩

/-- A client that is not opened sends the response alone. -/
lemma follows_unopened {identifier : UInt8} {response : List UInt8} {address : Address} {transition : Rust.Ipcp.Transition}
    (h : Simulates c p) (he : Evaluated items identifier { parsed d p with peerAddress := address } s)
    (hpeer : reference address = (evaluation items).peerAddress.getD c.peerAddress) (hopened : c.state ≠ .opened)
    {state : Rust.Ipcp.State} (deadline : Option ℕ)
    (hnext : Reference.state state =
      if (evaluation items).code = .configureAck then if c.state = .ackReceived then .opened else .ackSent
      else if c.state = .ackReceived then .ackReceived else .requestSent)
    (hdns : state = .ackReceived ∨ state = .opened → c.state = .ackReceived ∨ c.state = .opened)
    (hframe : [0xff, 0x03, 0x80, 0x21] ++ response =
      controlFrame (evaluation items).code.octet identifier (evaluation items).data)
    (hactions : Reference.sentFrames transition.actions = [[0xff, 0x03, 0x80, 0x21] ++ response]) :
    Follows now s ({ c with
      state := state
      peerAddress := (evaluation items).peerAddress.getD c.peerAddress
      restartDeadlineMs := deadline }, .ok transition) := by
  have hpopened : ({ parsed d p with peerAddress := address } : Ipcp).state ≠ .opened :=
    mt (h.state_iff .opened).mp hopened
  obtain ⟨hdeferred, hcore⟩ := applyIpcpRequest_of_ne (answerAction (evaluation items).code) hpopened
  have hack := answer_eq_configureAck items
  have hreceived : ({ parsed d p with peerAddress := address } : Ipcp).state = .ackReceived ↔ c.state = .ackReceived :=
    h.state_iff .ackReceived
  have hmoved := h.moved state c.requestIdentifier c.restartRemaining deadline hpeer h.next hdns
  refine follows_response now he.usesFrame (usesFrame_answer items).2 he.built (hmoved.of_core ?_) ?_
  · rw [he.applied]
    refine hcore.trans ?_
    simp only [hack, hreceived]
    rw [← hnext, ← h.identifier]
    rfl
  · have hnone : s.ipcp.deferredRequest = false := by
      rw [he.applied]
      exact hdeferred.trans h.deferred
    rw [hactions, hframe, hnone]
    rfl

/-- An opened client sends a new request before the response. -/
lemma follows_reopened {identifier : UInt8} {response : List UInt8} {address : Address}
    {transition : Rust.Ipcp.Transition}
    (h : Simulates c p) (he : Evaluated items identifier { parsed d p with peerAddress := address } s)
    (hpeer : reference address = (evaluation items).peerAddress.getD c.peerAddress) (hopened : c.state = .opened)
    (hframe : [0xff, 0x03, 0x80, 0x21] ++ response =
      controlFrame (evaluation items).code.octet identifier (evaluation items).data)
    (hactions : Reference.sentFrames transition.actions =
      [controlFrame 1 (renewed { c with
          state := .opened
          peerAddress := (evaluation items).peerAddress.getD c.peerAddress } nowMs true).requestIdentifier
        (renewed { c with
          state := .opened
          peerAddress := (evaluation items).peerAddress.getD c.peerAddress } nowMs true).localOptions,
        [0xff, 0x03, 0x80, 0x21] ++ response]) :
    Follows now s ({ renewed { c with
      state := .opened
      peerAddress := (evaluation items).peerAddress.getD c.peerAddress } nowMs true with
      state := if (evaluation items).code = .configureAck then .ackSent else .requestSent }, .ok transition) := by
  have hpopened : ({ parsed d p with peerAddress := address } : Ipcp).state = .opened :=
    (h.state_iff .opened).mpr hopened
  obtain ⟨hdeferred, hcore⟩ := applyIpcpRequest_opened (answerAction (evaluation items).code) hpopened
  have hack := answer_eq_configureAck items
  have hmoved := h.moved (if (evaluation items).code = .configureAck then .ackSent else .requestSent)
    (c.nextIdentifier + 1) (c.settings.maxConfigure - 1)
    (some (Rust.Ipcp.saturatingAdd nowMs c.settings.restartIntervalMs)) hpeer rfl (by split_ifs <;> simp)
  refine follows_response now he.usesFrame (usesFrame_answer items).2 he.built (hmoved.of_core ?_) ?_
  · rw [he.applied]
    refine hcore.trans ?_
    rw [h.next, ← h.identifier]
    by_cases hacceptable : (evaluation items).code = .configureAck
    · rw [if_pos (hack.mpr hacceptable), if_pos hacceptable]
      rfl
    · rw [if_neg (mt hack.mp hacceptable), if_neg hacceptable]
      rfl
  · have hserved : s.ipcp.deferredRequest = true := by
      rw [he.applied]
      exact hdeferred
    rw [hserved, if_pos rfl, hactions, hframe]
    rfl

/-- **The peer's request.** -/
lemma follows_configureRequest {ram : Buffer} (h : Simulates c p) (hd : Configures d items) (hclosed : c.state ≠ .closed)
    (hstopped : c.state ≠ .stopped) (hcode : d.frameBuffer 4 = 1) (hshort : (parsed d p).packetEnd.toNat < 256)
    (hdecoder : s.receive.decoder = d) (hram : s.ram = (dispatchIpcp d.frameBuffer ram (parsed d p)).1)
    (hipcp : s.ipcp = (dispatchIpcp d.frameBuffer ram (parsed d p)).2.1) :
    Follows now s (c.receiveConfigureRequest (packetOf d items) nowMs) := by
  have hpclosed : p.state ≠ .closed := mt (h.state_iff .closed).mp hclosed
  have hpstopped : p.state ≠ .stopped := mt (h.state_iff .stopped).mp hstopped
  obtain ⟨address, haddress, he⟩ := evaluated_of_dispatch hd h.peerValid hpclosed hpstopped hcode hshort hdecoder hram
    hipcp
  obtain ⟨response, hencode, hframe⟩ := he.encodes
  have hreference : Client.evaluatePeerRequest (packetOf d items) c.settings.preferredPeerAddress =
      .ok (evaluation items) := by
    rw [h.settings]
    exact evaluatePeerRequest_flatMap _ _ items
  have hpeer : reference address = (evaluation items).peerAddress.getD c.peerAddress := by
    rw [haddress, ← h.peer]
  unfold Client.receiveConfigureRequest
  rw [hreference]
  dsimp only
  rw [show Rust.Ipcp.encode (evaluation items).code (packetOf d items).identifier (evaluation items).data =
    .ok response from hencode]
  dsimp only
  cases hstate : c.state with
  | closed => exact absurd hstate hclosed
  | stopped => exact absurd hstate hstopped
  | requestSent =>
    refine follows_unopened now h he hpeer (by rw [hstate]; nofun) c.restartDeadlineMs ?_ ?_ hframe rfl
    · rw [hstate]
      by_cases hacceptable : (evaluation items).code = .configureAck
      · simp [hacceptable, Reference.state]
      · simp [hacceptable, Reference.state]
    · split_ifs <;> simp
  | ackSent =>
    refine follows_unopened now h he hpeer (by rw [hstate]; nofun) c.restartDeadlineMs ?_ ?_ hframe rfl
    · rw [hstate]
      by_cases hacceptable : (evaluation items).code = .configureAck
      · simp [hacceptable, Reference.state]
      · simp [hacceptable, Reference.state]
    · split_ifs <;> simp
  | ackReceived =>
    dsimp only
    by_cases hacceptable : (evaluation items).code = .configureAck
    · rw [if_pos (decide_eq_true hacceptable)]
      refine follows_unopened now h he hpeer (by rw [hstate]; nofun) none ?_ (fun _ => Or.inl hstate) hframe rfl
      rw [hstate, if_pos hacceptable]
      rfl
    · rw [if_neg (by simpa using hacceptable)]
      refine follows_unopened now h he hpeer (by rw [hstate]; nofun) c.restartDeadlineMs ?_ (fun _ => Or.inl hstate)
        hframe rfl
      rw [hstate, if_neg hacceptable]
      rfl
  | opened =>
    obtain ⟨request, hrequest, hrequestFrame⟩ := sendNewRequest_eq
      { c with state := .opened, peerAddress := (evaluation items).peerAddress.getD c.peerAddress } nowMs true
    dsimp only
    rw [hrequest]
    dsimp only
    simp only [decide_eq_true_eq]
    refine follows_reopened now nowMs h he hpeer hstate hframe ?_
    show [[0xff, 0x03, 0x80, 0x21] ++ request, [0xff, 0x03, 0x80, 0x21] ++ response] = _
    rw [hrequestFrame]
    rfl

/-! ### Answers to the request -/

/-- A client that an answer leaves requesting sends a new request. -/
lemma simulates_renewed {p' : Ipcp} (h : Simulates c p) (happlied : Applied p c p' c') {state : Rust.Ipcp.State}
    (hstate : state = .requestSent ∨ state = .ackSent) (resetCounter : Bool) :
    Simulates (renewed { c' with state := state } nowMs resetCounter)
      { ipcpNewRequest { p' with state := Reference.state state } with pendingAction := .none } := by
  have hnext : c'.nextIdentifier + 1 = p'.requestIdentifier + 1 := by
    rw [happlied.next, happlied.identifier, h.next, h.identifier]
  refine ⟨rfl, ⟨happlied.same.requests, happlied.same.held, happlied.same.withdrawn⟩, hnext.symm, rfl, ?_, ?_, ?_, ?_,
    rfl, rfl⟩
  · show reference p'.peerAddress = c'.peerAddress
    rw [happlied.peer, happlied.referencePeer, h.peer]
  · show p'.flags.peerValid = true
    rw [happlied.peerValid, h.peerValid]
  · show c'.settings.preferredPeerAddress = preferred
    rw [happlied.settings, h.settings]
  · intro hacknowledged
    have hacknowledged : state = .ackReceived ∨ state = .opened := hacknowledged
    rcases hstate with rfl | rfl <;> simp at hacknowledged

/-- An answer after which both clients send a new request. -/
lemma follows_renewed {p' : Ipcp} (h : Simulates c p) (happlied : Applied p c p' c') {state : Rust.Ipcp.State}
    (hstate : state = .requestSent ∨ state = .ackSent) (resetCounter : Bool) (down : List Rust.Ipcp.Action)
    (hdown : Reference.sentFrames down = [])
    (hipcp : s.ipcp = (ipcpSuccess (ipcpNewRequest { p' with state := Reference.state state })).1) :
    Follows now s (({ c' with state := state }.sendNewRequest nowMs resetCounter).1,
      ({ c' with state := state }.sendNewRequest nowMs resetCounter).2.map fun packet =>
        { actions := down ++ [Rust.Ipcp.Action.sendPacket packet] }) := by
  obtain ⟨packet, hrequest, hframe⟩ := sendNewRequest_eq { c' with state := state } nowMs resetCounter
  rw [hrequest]
  show Follows now s (renewed { c' with state := state } nowMs resetCounter, .ok { actions := down ++ [.sendPacket packet] })
  refine follows_request now ?_ ?_ ?_
  · rw [hipcp]
    rfl
  · rw [hipcp]
    exact (simulates_renewed nowMs h happlied hstate resetCounter).of_core rfl
  · unfold Reference.sentFrames at hdown ⊢
    rw [List.filterMap_append, hdown, List.nil_append]
    show [[0xff, 0x03, 0x80, 0x21] ++ packet] = _
    rw [hframe]
    rfl

/-- The acknowledgement repeats the request for both clients or for neither. -/
lemma acknowledges_iff (h : Simulates c p) (hd : Configures d items) (hcode : d.frameBuffer 4 = 2) :
    Rust.Ipcp.exactlyAcknowledges (packetOf d items) c.requestIdentifier c.localOptions = true ↔
      d.frameBuffer 5 = p.requestIdentifier ∧ ipcpAckValid d.frameBuffer (parsed d p) = true := by
  obtain ⟨hspan, -, -⟩ := parsed_packetEnd hd p
  have hknown : knownCode (packetOf d items) = some .configureAck := by
    unfold knownCode packetOf
    rw [hcode]
    rfl
  have hdata : (parsed d p).requestData = c.localOptions := (requestData_eq h.same : p.requestData = c.localOptions)
  have hread : read d.frameBuffer 8 (span items) = (packetOf d items).data := placed_iff.mp hd.placed
  have hlength : (packetOf d items).data.length = span items := rfl
  unfold Rust.Ipcp.exactlyAcknowledges ipcpAckValid
  rw [hknown, hdata, h.identifier, Bool.and_eq_true, Bool.and_eq_true, beq_iff_eq, beq_iff_eq, beq_iff_eq,
    decide_eq_true_iff, eq_self_iff_true, true_and]
  refine and_congr_right fun _ => ⟨fun heq => ?_, ?_⟩
  · rw [← heq, hlength, ← hspan]
    exact ⟨rfl, hread⟩
  · rintro ⟨hend, hoptions⟩
    have hcount : c.localOptions.length = span items := by omega
    rw [← hread, ← hoptions, hcount]

/-- **The peer's acknowledgement.** -/
lemma follows_configureAck {ram : Buffer} (h : Simulates c p) (hd : Configures d items) (hclosed : c.state ≠ .closed)
    (hstopped : c.state ≠ .stopped) (hcode : d.frameBuffer 4 = 2)
    (hipcp : s.ipcp = (dispatchIpcp d.frameBuffer ram (parsed d p)).2.1) :
    Follows now s (c.receiveConfigureAck (packetOf d items) nowMs) := by
  have hpclosed : p.state ≠ .closed := mt (h.state_iff .closed).mp hclosed
  have hpstopped : p.state ≠ .stopped := mt (h.state_iff .stopped).mp hstopped
  have hdispatch : dispatchIpcp d.frameBuffer ram (parsed d p) =
      (ram, receiveIpcpAck d.frameBuffer (parsed d p)) := by
    unfold dispatchIpcp
    rw [if_neg (show ¬ ((parsed d p).state = .closed ∨ (parsed d p).state = .stopped) from
      not_or.mpr ⟨hpclosed, hpstopped⟩), show (parsed d p).lastCode = 2 from hcode]
    rfl
  rw [hdispatch] at hipcp
  have hiff := acknowledges_iff h hd hcode
  unfold Client.receiveConfigureAck
  by_cases hexact : Rust.Ipcp.exactlyAcknowledges (packetOf d items) c.requestIdentifier c.localOptions = true
  · obtain ⟨hidentifier, hvalid⟩ := hiff.mp hexact
    have hack : receiveIpcpAck d.frameBuffer (parsed d p) = _ := if_neg (not_or.mpr
      ⟨not_not_intro hidentifier, by rw [hvalid]; exact Bool.false_ne_true⟩)
    have happlied : Applied p c (publishDnsValidity (parsed d p)) c :=
      ⟨⟨h.same.requests, h.same.held, h.same.withdrawn⟩, rfl, rfl, rfl, rfl, rfl, rfl, rfl, rfl, rfl⟩
    -- The request is acknowledged, and nothing is sent.
    have hsilent (state : Rust.Ipcp.State) (remaining : ℕ) (deadline : Option ℕ) {transition : Rust.Ipcp.Transition}
        (hactions : Reference.sentFrames transition.actions = [])
        (hcore : core s.ipcp = core { publishDnsValidity p with state := Reference.state state }) :
        Follows now s ({ c with state := state, restartRemaining := remaining, restartDeadlineMs := deadline },
          .ok transition) := by
      refine follows_silent now ?_ hactions
      refine Simulates.of_core ?_ hcore
      exact ⟨rfl, ⟨h.same.requests, h.same.held, h.same.withdrawn⟩, h.identifier, h.next, h.peer, h.peerValid,
        h.settings, fun _ => rfl, h.idle, h.deferred⟩
    have hpstate : (publishDnsValidity (parsed d p)).state = Reference.state c.state := h.state
    rw [hack] at hipcp
    dsimp only at hipcp
    rw [hpstate] at hipcp
    rw [hexact, if_neg (by simp)]
    cases hstate : c.state with
    | closed => exact absurd hstate hclosed
    | stopped => exact absurd hstate hstopped
    | requestSent =>
      rw [hstate] at hipcp
      refine hsilent .ackReceived _ c.restartDeadlineMs rfl ?_
      rw [hipcp]
      rfl
    | ackSent =>
      rw [hstate] at hipcp
      refine hsilent .opened _ none rfl ?_
      rw [hipcp]
      rfl
    | ackReceived =>
      rw [hstate] at hipcp
      exact follows_renewed now nowMs h happlied (Or.inl rfl) false [] rfl hipcp
    | opened =>
      rw [hstate] at hipcp
      exact follows_renewed now nowMs h happlied (Or.inl rfl) false [.thisLayerDown] rfl hipcp
  · have hother := mt hiff.mpr hexact
    have hack : receiveIpcpAck d.frameBuffer (parsed d p) = ipcpReturnError (parsed d p) .invalidResponse := by
      refine if_pos ?_
      by_cases hidentifier : d.frameBuffer 5 = p.requestIdentifier
      · have hinvalid : ipcpAckValid d.frameBuffer (parsed d p) = false :=
          Bool.eq_false_iff.mpr fun hvalid => hother ⟨hidentifier, hvalid⟩
        rw [hinvalid]
        exact Or.inr rfl
      · exact Or.inl hidentifier
    rw [hack] at hipcp
    rw [Bool.not_eq_true] at hexact
    rw [hexact, if_pos (by rfl)]
    refine follows_silent now ?_ rfl
    rw [hipcp]
    exact h.of_core rfl

/-- **A negative answer**, which the two clients read by their own loops. -/
lemma follows_negative {turn : Client → ConfigurationOption → Option Client} {accepted : Option Ipcp}
    (h : Simulates c p) (hanswered : Answered turn (parsed d p) c items accepted)
    (hkept : d.frameBuffer 5 = c.requestIdentifier → hasDuplicateTypes items = false →
      (Client.optionLoop turn c items).2 = false → (Client.optionLoop turn c items).1 = c)
    (hipcp : s.ipcp = (receiveIpcpNegative (fun _ => accepted) (parsed d p)).1) :
    Follows now s (Client.receiveNegative turn c (packetOf d items) nowMs) := by
  have hinvalid (hrefused : s.ipcp = (ipcpReturnError (parsed d p) .invalidResponse).1) :
      Follows now s (c, .ok Rust.Ipcp.invalidResponse) := by
    refine follows_silent now ?_ rfl
    rw [hrefused]
    exact h.of_core rfl
  unfold receiveIpcpNegative at hipcp
  unfold Client.receiveNegative
  by_cases hidentifier : d.frameBuffer 5 = c.requestIdentifier
  · have hsame : (parsed d p).lastIdentifier = (parsed d p).requestIdentifier := hidentifier.trans h.identifier.symm
    rw [if_neg (not_not_intro hsame)] at hipcp
    rw [if_neg (show ¬ (packetOf d items).identifier ≠ c.requestIdentifier from not_not_intro hidentifier),
      collect_packetOf]
    dsimp only
    cases hanswered with
    | refused hrefused =>
      by_cases hlist : items = [] ∨ hasDuplicateTypes items = true
      · rw [if_pos hlist]
        exact hinvalid hipcp
      · rw [if_neg hlist]
        have hfinished : (Client.optionLoop turn c items).2 = false :=
          (or_assoc.mpr hrefused).resolve_left hlist
        have hleft := hkept hidentifier (by simpa using (not_or.mp hlist).2) hfinished
        rw [show Client.optionLoop turn c items = (c, false) from Prod.ext hleft hfinished]
        exact hinvalid hipcp
    | @accepted p' hnonempty hdistinct hfinished happlied =>
      rw [if_neg (by simp [hnonempty, hdistinct])]
      set c' := (Client.optionLoop turn c items).1 with hc'
      rw [show Client.optionLoop turn c items = (c', true) from Prod.ext rfl hfinished]
      have hackSent : p'.state = .ackSent ↔ c'.state = .ackSent := by
        rw [happlied.state, happlied.referenceState]
        exact h.state_iff .ackSent
      have hstate : (if p'.state = .ackSent then IpcpState.ackSent else .requestSent) =
          Reference.state (if c'.state = .ackSent then .ackSent else .requestSent) := by
        by_cases hsent : c'.state = .ackSent
        · rw [if_pos (hackSent.mpr hsent), if_pos hsent]
          rfl
        · rw [if_neg (mt hackSent.mp hsent), if_neg hsent]
          rfl
      dsimp only at hipcp ⊢
      unfold ipcpNegativeResponse at hipcp
      rw [hstate] at hipcp
      unfold Client.afterNegativeResponse
      refine follows_renewed now nowMs (p := parsed d p) (h.of_core rfl) happlied ?_ _ _ ?_ hipcp
      · split_ifs
        · exact Or.inr rfl
        · exact Or.inl rfl
      · split_ifs <;> rfl
  · have hother : (parsed d p).lastIdentifier ≠ (parsed d p).requestIdentifier := fun hsame =>
      hidentifier (hsame.trans h.identifier)
    rw [if_pos hother] at hipcp
    rw [if_pos (show (packetOf d items).identifier ≠ c.requestIdentifier from hidentifier)]
    exact hinvalid hipcp

/-- A loop that is not accepted leaves the client, unless the packet is a partial update. -/
lemma kept_of_not_partialUpdate (hd : Configures d items) (hclosed : c.state ≠ .closed) (hstopped : c.state ≠ .stopped)
    (hkeeps : ¬ PartialUpdate c (information d)) (hidentifier : d.frameBuffer 5 = c.requestIdentifier)
    (hdistinct : hasDuplicateTypes items = false) :
    (d.frameBuffer 4 = 3 → (Client.optionLoop Client.nakOption c items).2 = false →
      (Client.optionLoop Client.nakOption c items).1 = c) ∧
    (d.frameBuffer 4 = 4 → (Client.optionLoop Client.rejectOption c items).2 = false →
      (Client.optionLoop Client.rejectOption c items).1 = c) := by
  rw [Rust.IpcpIgnored.partialUpdate_iff (parse_of_configures hd) hclosed hstopped, not_exists] at hkeeps
  have hkeeps := hkeeps items
  rw [not_and, not_and, not_and, not_or] at hkeeps
  obtain ⟨hnak, hreject⟩ := hkeeps hidentifier (collect_packetOf d items) hdistinct
  refine ⟨fun hcode => ?_, fun hcode => ?_⟩
  · refine (Rust.IpcpIgnored.nakWrites_iff hdistinct).mpr fun hwrites => hnak ⟨?_, hwrites⟩
    unfold knownCode packetOf
    rw [hcode]
    rfl
  · refine (Rust.IpcpIgnored.rejectWrites_iff hdistinct).mpr fun hwrites => hreject ⟨?_, hwrites⟩
    unfold knownCode packetOf
    rw [hcode]
    rfl

/-- The options of an answer are read where they are. -/
lemma receiveIpcpNegative_at (accepted : Ipcp → Option Ipcp) (p : Ipcp) :
    receiveIpcpNegative (fun _ => accepted p) p = receiveIpcpNegative accepted p := rfl

/-- **The Configure packets**, one case per code. -/
theorem follows_configures {ram : Buffer} (h : Simulates c p) (hd : Configures d items) (hclosed : c.state ≠ .closed)
    (hstopped : c.state ≠ .stopped) (hlong : ¬ LongRequest d) (hkeeps : ¬ PartialUpdate c (information d))
    (hframe : d.lastFrameLength.toNat ≤ 1504) (hdecoder : s.receive.decoder = d)
    (hram : s.ram = (dispatchIpcp d.frameBuffer ram (parsed d p)).1)
    (hipcp : s.ipcp = (dispatchIpcp d.frameBuffer ram (parsed d p)).2.1) :
    Follows now s (c.receive (information d) nowMs) := by
  have hpclosed : (parsed d p).state ≠ .closed := mt (h.state_iff .closed).mp hclosed
  have hpstopped : (parsed d p).state ≠ .stopped := mt (h.state_iff .stopped).mp hstopped
  obtain ⟨hspan, -, hwithin⟩ := parsed_packetEnd hd p
  have hsame : SameRequest (parsed d p) c := ⟨h.same.requests, h.same.held, h.same.withdrawn⟩
  obtain ⟨code, hcode, hfour⟩ := code_of_configures hd
  obtain ⟨hknown, hreceive⟩ := receive_eq_handled nowMs hd hclosed hstopped hcode
  rw [hreceive]
  rcases hfour with rfl | rfl | rfl | rfl
  · have hshort : (parsed d p).packetEnd.toNat < 256 := by
      by_contra hend
      refine hlong ⟨packetOf d items, items, parse_of_configures hd, hknown, collect_packetOf d items, ?_⟩
      have hdata : (packetOf d items).data.length = span items := rfl
      omega
    exact follows_configureRequest now nowMs h hd hclosed hstopped hcode hshort hdecoder hram hipcp
  · exact follows_configureAck now nowMs h hd hclosed hstopped hcode hipcp
  · have hanswered := acceptNakOptions_answered hsame hd.placed hspan (by omega)
    refine follows_negative now nowMs h hanswered (fun hidentifier hdistinct =>
      (kept_of_not_partialUpdate hd hclosed hstopped hkeeps hidentifier hdistinct).1 hcode) ?_
    have hdispatch : dispatchIpcp d.frameBuffer ram (parsed d p) =
        (ram, receiveIpcpNegative (acceptNakOptions d.frameBuffer) (parsed d p)) := by
      unfold dispatchIpcp
      rw [if_neg (not_or.mpr ⟨hpclosed, hpstopped⟩), show (parsed d p).lastCode = 3 from hcode]
      rfl
    rw [hipcp, hdispatch, ← receiveIpcpNegative_at]
  · have hanswered := acceptRejectOptions_answered hsame hd.placed hspan (by omega)
    refine follows_negative now nowMs h hanswered (fun hidentifier hdistinct =>
      (kept_of_not_partialUpdate hd hclosed hstopped hkeeps hidentifier hdistinct).2 hcode) ?_
    have hdispatch : dispatchIpcp d.frameBuffer ram (parsed d p) =
        (ram, receiveIpcpNegative (acceptRejectOptions d.frameBuffer) (parsed d p)) := by
      unfold dispatchIpcp
      rw [if_neg (not_or.mpr ⟨hpclosed, hpstopped⟩), show (parsed d p).lastCode = 4 from hcode]
      rfl
    rw [hipcp, hdispatch, ← receiveIpcpNegative_at]

/-- **Every frame** of the protocol. -/
theorem follows_receive {ram : Buffer} (h : Simulates c p) (hprotocol : d.lastProtocol = protocolIpcp)
    (hlong : ¬ LongRequest d) (hkeeps : ¬ PartialUpdate c (information d)) (hframe : d.lastFrameLength.toNat ≤ 1504)
    (hdecoder : s.receive.decoder = d) (hram : s.ram = (pppIpcpReceiveFrame d ram p).1)
    (hipcp : s.ipcp = (pppIpcpReceiveFrame d ram p).2.1) : Follows now s (c.receive (information d) nowMs) := by
  rcases receiveFrame_cases ram p hprotocol hframe with ⟨items, hd, hdispatch⟩ | ⟨hnot, p', carry, hreceived, hcore⟩
  · rw [hdispatch] at hram hipcp
    by_cases hclosed : c.state = .closed ∨ c.state = .stopped
    · have hpclosed : (parsed d p).state = .closed ∨ (parsed d p).state = .stopped :=
        hclosed.imp (h.state_iff .closed).mpr (h.state_iff .stopped).mpr
      unfold dispatchIpcp at hipcp
      rw [if_pos hpclosed] at hipcp
      unfold Client.receive
      rw [if_pos hclosed]
      refine follows_silent now ?_ rfl
      rw [hipcp]
      exact h.of_core rfl
    · obtain ⟨hclosed, hstopped⟩ := not_or.mp hclosed
      exact follows_configures now nowMs h hd hclosed hstopped hlong hkeeps hframe hdecoder hram hipcp
  · obtain ⟨reason, hignored⟩ := receive_ignored (c := c) nowMs hnot
    rw [hignored]
    refine follows_silent now ?_ rfl
    rw [hipcp, hreceived]
    exact h.of_core hcore

end Handlers

/-! ### Runs -/

section Runs

variable {c : Client} {s : Session} {i : Input}

/-- **One frame**: the two clients show the same and stay related. -/
theorem step_agrees (h : Simulates c s.ipcp) (hfaithful : Faithful c i) :
    (Session.step s i).2 = (Reference.step c i).2 ∧ Simulates (Reference.step c i).1 (Session.step s i).1.ipcp := by
  set received : Session := { s with
    receive := { s.receive with decoder := i.decoder, frameReady := true }
    ram := (pppIpcpReceiveFrame i.decoder s.ram s.ipcp).1
    ipcp := (pppIpcpReceiveFrame i.decoder s.ram s.ipcp).2.1 } with hreceived
  have hstep : Session.step s i = ((Session.serve i.now received).1,
      Session.shown (Session.serve i.now received).1.ipcp (Session.serve i.now received).2) := rfl
  rw [hstep]
  unfold Reference.step
  by_cases hprotocol : i.decoder.lastProtocol = protocolIpcp
  · obtain ⟨hlong, hkeeps⟩ := hfaithful hprotocol
    have hfollows : Follows i.now received (c.receive (information i.decoder) i.nowMs) :=
      follows_receive i.now i.nowMs h hprotocol hlong hkeeps i.short rfl rfl rfl
    rw [if_pos hprotocol]
    exact ⟨hfollows.simulates.shown hfollows.requests hfollows.responses, hfollows.simulates⟩
  · have hcore : core received.ipcp = core s.ipcp := by
      have hother : pppIpcpReceiveFrame i.decoder s.ram s.ipcp = (s.ram, ipcpReturnError { s.ipcp with
          receiveCount := s.ipcp.receiveCount + 1
          lastCode := 0
          lastIdentifier := 0
          packetLength := 0 } .wrongProtocol) := if_pos hprotocol
      rw [hreceived]
      dsimp only
      rw [hother]
      rfl
    have hfollows : Follows i.now received (c, .ok {}) := follows_silent i.now (h.of_core hcore) rfl
    rw [if_neg hprotocol]
    exact ⟨hfollows.simulates.shown hfollows.requests hfollows.responses, hfollows.simulates⟩

/-- **The opening**: both clients send the same request. -/
theorem opening_agrees (hclosed : s.ipcp.state = .closed) (restartIntervalMs maxConfigure nowMs : ℕ) (now : UInt32) :
    (Session.opening s now).2 = (Reference.opening (Reference.settings restartIntervalMs maxConfigure) nowMs).2 ∧
      Simulates (Reference.opening (Reference.settings restartIntervalMs maxConfigure) nowMs).1
        (Session.opening s now).1.ipcp := by
  set opened : Session := { s with ipcp := pppIpcpLowerUp s.ipcp } with hopened
  set c : Client := { (Client.new (Reference.settings restartIntervalMs maxConfigure)).resetNegotiation with
    state := .requestSent } with hc
  have hup : pppIpcpLowerUp s.ipcp = ipcpEstablishment { s.ipcp with
      state := .requestSent
      requestIdentifier := 1
      restartRemaining := ipcpDefaultMaxConfigure - 1
      pendingAction := .configureRequest
      timerActive := false
      deferredRequest := false
      lastError := .none } := if_neg (not_not_intro hclosed)
  obtain ⟨packet, hrequest, hframe⟩ := sendNewRequest_eq c nowMs true
  have hopen : (Client.new (Reference.settings restartIntervalMs maxConfigure)).doOpen nowMs =
      (renewed c nowMs true, .ok { actions := [.sendPacket packet] }) := by
    show ((c.sendNewRequest nowMs true).1, (c.sendNewRequest nowMs true).2.map _) = _
    rw [hrequest]
    rfl
  have hsame : SameRequest opened.ipcp (renewed c nowMs true) := by
    rw [hopened]
    dsimp only
    rw [hup]
    refine ⟨fun option => ?_, fun option _ => ?_, fun option _ _ => ?_⟩
    · cases option <;> rfl
    · cases option <;> rfl
    · cases option <;> rfl
  have hsimulates : Simulates (renewed c nowMs true) { opened.ipcp with pendingAction := .none } := by
    rw [hopened] at hsame ⊢
    dsimp only at hsame ⊢
    rw [hup] at hsame ⊢
    refine ⟨rfl, ⟨hsame.requests, hsame.held, hsame.withdrawn⟩, rfl, rfl, rfl, rfl, rfl, fun hacknowledged => ?_, rfl,
      rfl⟩
    rcases hacknowledged with hstate | hstate <;> cases hstate
  have hfollows : Follows now opened (renewed c nowMs true, .ok { actions := [.sendPacket packet] }) := by
    refine follows_request now ?_ hsimulates ?_
    · rw [hopened]
      dsimp only
      rw [hup]
      rfl
    · show [[0xff, 0x03, 0x80, 0x21] ++ packet] = _
      rw [hframe]
      rfl
  have hopening : Session.opening s now = ((Session.serve now opened).1,
      Session.shown (Session.serve now opened).1.ipcp (Session.serve now opened).2) := rfl
  rw [hopening]
  unfold Reference.opening
  rw [hopen]
  exact ⟨hfollows.simulates.shown hfollows.requests hfollows.responses, hfollows.simulates⟩

/-- **The clients agree**: from their opening on, the two show the same at every frame of a run of frames that they
do not treat differently. -/
theorem clients_agree (s : Session) (hclosed : s.ipcp.state = .closed) (restartIntervalMs maxConfigure nowMs : ℕ)
    (now : UInt32) (inputs : List Input)
    (hfaithful : Run.Along (fun c i => (Reference.step c i).1) Faithful
      (Reference.opening (Reference.settings restartIntervalMs maxConfigure) nowMs).1 inputs) :
    (Session.opening s now).2 = (Reference.opening (Reference.settings restartIntervalMs maxConfigure) nowMs).2 ∧
      Lockstep.trace Session.step (Session.opening s now).1 inputs = Lockstep.trace Reference.step
        (Reference.opening (Reference.settings restartIntervalMs maxConfigure) nowMs).1 inputs := by
  obtain ⟨hopening, hsimulates⟩ := opening_agrees hclosed restartIntervalMs maxConfigure nowMs now
  refine ⟨hopening, ?_⟩
  exact @Lockstep.trace_eq _ _ _ _ Reference.step (fun c s => Simulates c s.ipcp) Faithful Session.step
    (fun _ _ _ => step_agrees) _ _ hsimulates _ hfaithful

/-- A received IPCP frame, alone in cleared memory. -/
def receivedFrame (frame : List UInt8) (hframe : frame.length ≤ 1504) : Input where
  decoder := { (default : Decoder) with
    lastFrameLength := UInt16.ofNat frame.length
    lastProtocol := protocolIpcp
    frameBuffer := write default 0 frame }
  short := (Nat.mod_le _ _).trans hframe
  now := 0
  nowMs := 0

/-- A Nak that suggests an address, and then none for the first DNS server. -/
def partialNak : Input :=
  receivedFrame [0xff, 0x03, 0x80, 0x21, 3, 1, 0, 16, 3, 6, 10, 24, 0, 2, 129, 6, 0, 0, 0, 0] (by decide)

/-- A request for an address, with an unknown option behind it that fills the packet up. -/
def longRequest : Input :=
  receivedFrame ([0xff, 0x03, 0x80, 0x21, 1, 7, 1, 9, 3, 6, 10, 0, 0, 9, 99, 255] ++ List.replicate 253 0) (by
    rw [List.length_append, List.length_replicate]
    decide)

/-- A request that the console answers as the reference does, and the acknowledgement of its own. -/
def acknowledged : List Input :=
  [receivedFrame [0xff, 0x03, 0x80, 0x21, 1, 7, 0, 10, 3, 6, 10, 0, 0, 9] (by decide),
    receivedFrame [0xff, 0x03, 0x80, 0x21, 2, 1, 0, 22, 3, 6, 0, 0, 0, 0, 129, 6, 0, 0, 0, 0, 131, 6, 0, 0, 0, 0]
      (by decide)]

/-- The console before its first link. -/
def powered : Session := ⟨default, default, default, default⟩

/-- The reference takes the address of the Nak that it ignores; the console rejects the address of the long request
too. -/
theorem clients_disagree :
    Lockstep.trace Session.step (Session.opening powered 0).1 [partialNak] ≠
        Lockstep.trace Reference.step (Reference.opening (Reference.settings 3000 10) 0).1 [partialNak] ∧
      Lockstep.trace Session.step (Session.opening powered 0).1 [longRequest] ≠
        Lockstep.trace Reference.step (Reference.opening (Reference.settings 3000 10) 0).1 [longRequest] := by
  decide +kernel

/-- A short packet that is no negative answer is faithful. -/
lemma faithful_of_parse (packet : Packet) (hparse : Rust.Ipcp.Packet.parse (information i.decoder) = .ok packet)
    (hdata : packet.data.length < 248) (hnak : knownCode packet ≠ some .configureNak)
    (hreject : knownCode packet ≠ some .configureReject) : Faithful c i := by
  intro _
  refine ⟨?_, Rust.IpcpIgnored.not_partialUpdate_of_code hparse hnak hreject⟩
  rintro ⟨found, options, hfound, -, -, hlong⟩
  obtain rfl : packet = found := by simpa [hparse] using hfound
  omega

theorem clients_agree_acknowledged :
    (Session.opening powered 0).2 = (Reference.opening (Reference.settings 3000 10) 0).2 ∧
      Lockstep.trace Session.step (Session.opening powered 0).1 acknowledged =
        Lockstep.trace Reference.step (Reference.opening (Reference.settings 3000 10) 0).1 acknowledged :=
  clients_agree powered rfl 3000 10 0 0 acknowledged
    ⟨faithful_of_parse ⟨1, 7, [3, 6, 10, 0, 0, 9]⟩ (by decide +kernel) (by decide) nofun nofun,
      faithful_of_parse ⟨2, 1, [3, 6, 0, 0, 0, 0, 129, 6, 0, 0, 0, 0, 131, 6, 0, 0, 0, 0]⟩
        (by decide +kernel) (by decide) nofun nofun, trivial⟩

end Runs

end SnesModem.Asm.IpcpRefinement
