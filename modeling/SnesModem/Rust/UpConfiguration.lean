import SnesModem.Rust.LayerActions

/-!
# What an opened machine reports

A run of the machine with what it has received and answered.

* `History.answered`: the peer's request that the machine has last acknowledged verbatim since it was opened;
* `History.acks`: the Configure-Acks received since the machine has last sent a request;
* `reports_agreement`: each This-Layer-Up carries the configuration of the one, and follows an acknowledgement
  of the machine's own request among the others.
-/

namespace SnesModem.Rust.UpConfiguration

open SnesModem.Lib SnesModem.Rust.ControlPacket SnesModem.Rust.Lcp SnesModem.Rust.Negotiation
open SnesModem.Rust.PeerRequest SnesModem.Rust.NegotiationSteps SnesModem.Rust.LcpRun SnesModem.Rust.LayerActions
open SnesModem.Rust.Negotiation.Machine

/-- The packet that a call receives. -/
def received : Call → Option Packet
  | .receive input _ _ => (Packet.parse input).toOption
  | _ => none

/-! ### The machine's own request -/

/-- A machine that holds its request acknowledged has sent no other one in the call, and either held it
acknowledged before the call or has received the acknowledgement with it. -/
def Stands (m : Machine) (input : Option Packet) (outcome : Outcome) : Prop :=
  Acknowledged outcome.1 → outcome.1.requestIdentifier = m.requestIdentifier ∧
    outcome.1.localOptions = m.localOptions ∧ packetsIn .configureRequest (emitted outcome.2) = [] ∧
    (Acknowledged m ∧ outcome.1.acknowledgedLocalMagic = m.acknowledgedLocalMagic ∨
      ∃ packet ∈ input, exactlyAcknowledges packet m.requestIdentifier m.localOptions = true ∧
        outcome.1.acknowledgedLocalMagic = localMagic m.localOptions)

section Stands

variable {m m' : Machine} {input : Option Packet} {result : Except MachineError Transition}

lemma stands_lost (hreceived : m'.state ≠ .ackReceived) (hopened : m'.state ≠ .opened) :
    Stands m input (m', result) := fun h => absurd h (not_acknowledged hreceived hopened)

/-- A call that changes nothing of the request, and sends none. -/
lemma stands_same (hstate : m'.state = m.state) (hid : m'.requestIdentifier = m.requestIdentifier)
    (hoptions : m'.localOptions = m.localOptions)
    (hmagic : m'.acknowledgedLocalMagic = m.acknowledgedLocalMagic)
    (hactions : packetsIn .configureRequest (emitted result) = []) : Stands m input (m', result) := by
  intro hacknowledged
  refine ⟨hid, hoptions, hactions, Or.inl ⟨?_, hmagic⟩⟩
  unfold Acknowledged at hacknowledged ⊢
  rwa [hstate] at hacknowledged

lemma stands_ignore (reason : Option IgnoreReason) : Stands m input (m, .ok { ignored := reason }) :=
  stands_same rfl rfl rfl rfl rfl

lemma stands_sendOther {code : Code} (hcode : code ≠ .configureRequest) (identifier : UInt8) (data : List UInt8)
    (hstate : m'.state = m.state) (hid : m'.requestIdentifier = m.requestIdentifier)
    (hoptions : m'.localOptions = m.localOptions)
    (hmagic : m'.acknowledgedLocalMagic = m.acknowledgedLocalMagic) :
    Stands m input (m', sending [] (encode code identifier data)) :=
  stands_same hstate hid hoptions hmagic (packetsIn_sending_of_ne _ rfl hcode _ _)

variable (m)

lemma doOpen_stands (nowMs : ℕ) : Stands m input (m.doOpen nowMs) := by
  unfold doOpen
  split_ifs
  · exact stands_ignore none
  · exact stands_lost (by simp [allocateIdentifier]) (by simp [allocateIdentifier])

lemma doClose_stands (nowMs : ℕ) : Stands m input (m.doClose nowMs) := by
  unfold doClose
  split_ifs
  · exact stands_ignore none
  · exact stands_lost (by simp) (by simp)
  · exact stands_lost (by simp) (by simp)
  · exact stands_lost (by simp) (by simp)

lemma lowerDown_stands : Stands m input (m.lowerDown.1, .ok m.lowerDown.2) :=
  stands_lost (by simp [lowerDown]) (by simp [lowerDown])

lemma pollTimeout_stands (nowMs : ℕ) : Stands m input (m.pollTimeout nowMs) := by
  unfold pollTimeout
  split
  · exact stands_ignore none
  dsimp only
  split_ifs with hearly hclosing hexhausted hother hremaining hreceived
  · exact stands_ignore none
  · exact stands_lost (by simp) (by simp)
  · exact stands_lost (by simp [hclosing]) (by simp [hclosing])
  · exact stands_same rfl rfl rfl rfl rfl
  · exact stands_lost (by simp) (by simp)
  · exact stands_lost (by simp) (by simp)
  · exact stands_lost hreceived fun hopened => hother (by simp [show m.state = .opened from hopened])

lemma rejectProtocol_stands (protocol : UInt16) (information : List UInt8) :
    Stands m input (m.rejectProtocol protocol information) := by
  unfold rejectProtocol
  split_ifs
  · exact stands_ignore _
  · exact stands_sendOther (by decide) _ _ rfl rfl rfl rfl

lemma receiveConfigureRequest_stands {packet : Packet} (hshort : Short m) (nowMs : ℕ) (policy : SfcPolicy) :
    Stands m input (m.receiveConfigureRequest packet nowMs policy) := by
  unfold receiveConfigureRequest
  cases hevaluation : evaluatePeerRequest packet policy (localMagic m.localOptions) with
  | error error => exact stands_ignore _
  | ok evaluation =>
  dsimp only
  cases hresponse : encode evaluation.code packet.identifier evaluation.data with
  | error error => exact stands_same rfl rfl rfl rfl rfl
  | ok response =>
  -- The response is no request of the machine's own.
  have hrequests : packetOf .configureRequest response = none := by
    rw [packetOf_encode _ hresponse, if_neg]
    rcases evaluatePeerRequest_code hevaluation with h | h | h <;> simp [h]
  dsimp only
  generalize decide (evaluation.code = .configureAck) = acceptable
  -- The machine, whether or not the configuration was stored.
  have hstored : ∃ next, (if acceptable then { m with peerConfiguration := evaluation.configuration } else m) = next ∧
      next.state = m.state ∧ next.requestIdentifier = m.requestIdentifier ∧ next.localOptions = m.localOptions ∧
        next.acknowledgedLocalMagic = m.acknowledgedLocalMagic := by
    cases acceptable <;> exact ⟨_, rfl, rfl, rfl, rfl, rfl⟩
  obtain ⟨next, hnext, hstate, hid, hoptions, hmagic⟩ := hstored
  rw [hnext]
  split
  · cases acceptable <;> exact stands_lost (by simp) (by simp)
  · cases acceptable <;> exact stands_lost (by simp) (by simp)
  · rename_i hreceived
    cases acceptable with
    | true =>
      intro _
      refine ⟨hid, hoptions, ?_, Or.inl ⟨Or.inl (hstate ▸ hreceived), hmagic⟩⟩
      simp [emitted, hrequests]
    | false =>
      refine stands_same hstate hid hoptions hmagic ?_
      simp [emitted, hrequests]
  · rename_i hopened
    rw [hstate] at hopened
    -- The local options were acknowledged, so that the new request fits a packet.
    have hfits := hshort (Or.inr hopened)
    rw [← hoptions] at hfits
    obtain ⟨request, hencode⟩ : ∃ request, encode .configureRequest (next.nextIdentifier + 1) next.localOptions =
      .ok request := encode_ok hfits
    have hsend : next.sendNewRequest nowMs true = ((next.sendNewRequest nowMs true).1, .ok request) :=
      Prod.ext rfl ((snd_sendNewRequest next nowMs true).trans hencode)
    rw [hsend]
    cases acceptable <;> exact stands_lost (by simp) (by simp)
  · exact stands_same hstate hid hoptions hmagic rfl
  · exact stands_same hstate hid hoptions hmagic rfl
  · exact stands_same hstate hid hoptions hmagic rfl

lemma receiveConfigureAck_stands (packet : Packet) (nowMs : ℕ) :
    Stands m (some packet) (m.receiveConfigureAck packet nowMs) := by
  unfold receiveConfigureAck
  by_cases hexact : exactlyAcknowledges packet m.requestIdentifier m.localOptions = true
  · rw [if_neg (by simp [hexact])]
    dsimp only
    split
    · exact fun _ => ⟨rfl, rfl, rfl, Or.inr ⟨packet, rfl, hexact, rfl⟩⟩
    · exact fun _ => ⟨rfl, rfl, rfl, Or.inr ⟨packet, rfl, hexact, rfl⟩⟩
    · exact stands_lost (by simp) (by simp)
    · exact stands_lost (by simp) (by simp)
    · exact fun _ => ⟨rfl, rfl, rfl, Or.inr ⟨packet, rfl, hexact, rfl⟩⟩
    · exact fun _ => ⟨rfl, rfl, rfl, Or.inr ⟨packet, rfl, hexact, rfl⟩⟩
    · exact fun _ => ⟨rfl, rfl, rfl, Or.inr ⟨packet, rfl, hexact, rfl⟩⟩
  · rw [if_pos (by simpa using hexact)]
    exact stands_ignore _

lemma afterNegativeResponse_stands {m' : Machine} (nowMs : ℕ) : Stands m' input (m.afterNegativeResponse nowMs) := by
  unfold afterNegativeResponse
  have hstate : ((if m.state = .ackSent then State.ackSent else .requestSent) : State) ≠ .ackReceived ∧
      ((if m.state = .ackSent then State.ackSent else .requestSent) : State) ≠ .opened := by
    split_ifs <;> simp
  exact stands_lost hstate.1 hstate.2

lemma receiveConfigureNak_stands (packet : Packet) (nowMs : ℕ) :
    Stands m input (m.receiveConfigureNak packet nowMs) := by
  unfold receiveConfigureNak
  split
  · exact stands_ignore _
  split
  · exact stands_ignore _
  split
  · exact stands_ignore _
  · exact afterNegativeResponse_stands _ nowMs

lemma receiveConfigureReject_stands (packet : Packet) (nowMs : ℕ) :
    Stands m input (m.receiveConfigureReject packet nowMs) := by
  unfold receiveConfigureReject
  split
  · exact stands_ignore _
  split
  · exact stands_ignore _
  split
  · exact stands_ignore _
  · exact afterNegativeResponse_stands _ nowMs

lemma receiveTerminateRequest_stands (packet : Packet) : Stands m input (m.receiveTerminateRequest packet) := by
  unfold receiveTerminateRequest
  split
  · exact stands_sendOther (by decide) _ _ rfl rfl rfl rfl
  · exact stands_lost (by simp) (by simp)

lemma receiveTerminateAck_stands (packet : Packet) : Stands m input (m.receiveTerminateAck packet) := by
  unfold receiveTerminateAck
  split_ifs
  · exact stands_ignore none
  · exact stands_ignore _
  · exact stands_lost (by simp) (by simp)

lemma receiveEchoRequest_stands (packet : Packet) : Stands m input (m.receiveEchoRequest packet) := by
  unfold receiveEchoRequest
  dsimp only
  split_ifs
  · exact stands_ignore _
  · exact stands_ignore _
  · exact stands_ignore _
  · exact stands_sendOther (by decide) _ _ rfl rfl rfl rfl

lemma receiveUnknownCode_stands (octets : List UInt8) (packet : Packet) :
    Stands m input (m.receiveUnknownCode octets packet) := stands_sendOther (by decide) _ _ rfl rfl rfl rfl

lemma receive_stands (hshort : Short m) (octets : List UInt8) (nowMs : ℕ) (policy : SfcPolicy) :
    Stands m (Packet.parse octets).toOption (m.receive octets nowMs policy) := by
  unfold receive
  split
  · exact stands_ignore _
  cases hparse : Packet.parse octets with
  | error error => exact stands_ignore _
  | ok packet =>
  dsimp only [Except.toOption]
  split
  · exact stands_ignore _
  split
  · exact receiveConfigureRequest_stands m hshort nowMs policy
  · exact receiveConfigureAck_stands m packet nowMs
  · exact receiveConfigureNak_stands m packet nowMs
  · exact receiveConfigureReject_stands m packet nowMs
  · exact receiveTerminateRequest_stands m packet
  · exact receiveTerminateAck_stands m packet
  · exact receiveEchoRequest_stands m packet
  · split <;> exact stands_ignore _
  · split <;> exact stands_ignore _
  · exact receiveUnknownCode_stands m octets packet
  · exact stands_ignore _

/-- **Every call keeps the request** that the machine holds acknowledged. -/
theorem call_stands (hshort : Short m) (call : Call) : Stands m (received call) (call.outcome m) := by
  cases call with
  | doOpen nowMs => exact doOpen_stands m nowMs
  | doClose nowMs => exact doClose_stands m nowMs
  | lowerDown => exact lowerDown_stands m
  | pollTimeout nowMs => exact pollTimeout_stands m nowMs
  | receive octets nowMs policy => exact receive_stands m hshort octets nowMs policy
  | rejectProtocol protocol information => exact rejectProtocol_stands m protocol information

end Stands

/-! ### The peer's request -/

section Responder

variable {m : Machine}

lemma doClose_responder (nowMs : ℕ) :
    ResponderStep m none (m.doClose nowMs).1 (emitted (m.doClose nowMs).2) := by
  have hacks (next : Machine) (before : List Action) (h : packetsIn .configureAck before = []) :
      packetsIn .configureAck (emitted (sending before next.encodeTerminateRequest)) = [] :=
    packetsIn_sending_of_ne _ h (by decide) _ _
  unfold doClose
  dsimp only
  split_ifs with hclosing
  · exact .unanswered rfl (by simp [hclosing]) (by simp [hclosing])
  · exact .unanswered rfl (by simp) (by simp)
  · exact .unanswered (hacks _ _ rfl) (by simp) (by simp)
  · exact .unanswered (hacks _ _ rfl) (by simp) (by simp)

lemma lowerDown_responder : ResponderStep m none m.lowerDown.1 m.lowerDown.2.actions := by
  refine .unanswered ?_ (by simp [lowerDown]) (by simp [lowerDown])
  unfold lowerDown
  dsimp only
  split_ifs <;> rfl

lemma rejectProtocol_responder (hshort : Short m) (protocol : UInt16) (information : List UInt8) :
    ResponderStep m none (m.rejectProtocol protocol information).1 (emitted (m.rejectProtocol protocol information).2) := by
  unfold rejectProtocol
  split_ifs
  · exact (Steps.ignore hshort _).responder
  · exact .keep (packetsIn_sending_of_ne _ rfl (by decide) _ _) (fun h => ⟨h, rfl⟩) fun h =>
      Or.inl ⟨h, reports_sending rfl _⟩

/-- An opened machine that has acknowledged no request in the call does not wait for an acknowledgement. -/
lemma receiveConfigureRequest_of_opened {packet : Packet} (hshort : Short m) (hopened : m.state = .opened)
    (nowMs : ℕ) (policy : SfcPolicy) (hsent : (m.receiveConfigureRequest packet nowMs policy).1.state = .ackSent) :
    packetsIn .configureAck (emitted (m.receiveConfigureRequest packet nowMs policy).2) ≠ [] := by
  unfold receiveConfigureRequest at hsent ⊢
  cases hevaluation : evaluatePeerRequest packet policy (localMagic m.localOptions) with
  | error error => simp [hevaluation, hopened] at hsent
  | ok evaluation =>
  simp only [hevaluation] at hsent ⊢
  cases hresponse : encode evaluation.code packet.identifier evaluation.data with
  | error error => simp [hresponse, hopened] at hsent
  | ok response =>
  obtain ⟨request, hencode⟩ : ∃ request, encode .configureRequest (m.nextIdentifier + 1) m.localOptions =
    .ok request := encode_ok (hshort (Or.inr hopened))
  simp only [hresponse] at hsent ⊢
  by_cases hacceptable : evaluation.code = .configureAck
  · simp only [hacceptable, decide_true, if_true, hopened] at hsent ⊢
    have hsend : ({ m with peerConfiguration := evaluation.configuration }).sendNewRequest nowMs true =
        ((({ m with peerConfiguration := evaluation.configuration }).sendNewRequest nowMs true).1, .ok request) :=
      Prod.ext rfl ((snd_sendNewRequest _ nowMs true).trans hencode)
    rw [← hopened, hsend]
    simp [emitted, packetOf_encode _ hresponse, hacceptable]
  · have hsend : m.sendNewRequest nowMs true = ((m.sendNewRequest nowMs true).1, .ok request) :=
      Prod.ext rfl ((snd_sendNewRequest m nowMs true).trans hencode)
    simp only [hacceptable, decide_false, Bool.false_eq_true, if_false, hopened] at hsent
    rw [hsend] at hsent
    cases hsent

lemma afterNegativeResponse_of_opened (hopened : m.state = .opened) (nowMs : ℕ) :
    (m.afterNegativeResponse nowMs).1.state ≠ .ackSent := by
  unfold afterNegativeResponse
  change (if m.state = .ackSent then State.ackSent else .requestSent) ≠ .ackSent
  rw [if_neg (by simp [hopened])]
  simp

lemma receiveConfigureNak_of_opened (hopened : m.state = .opened) (packet : Packet) (nowMs : ℕ) :
    (m.receiveConfigureNak packet nowMs).1.state ≠ .ackSent := by
  unfold receiveConfigureNak
  split
  · simp [hopened]
  split
  · simp [hopened]
  split
  · simp [hopened]
  · exact afterNegativeResponse_of_opened hopened nowMs

lemma receiveConfigureReject_of_opened (hopened : m.state = .opened) (packet : Packet) (nowMs : ℕ) :
    (m.receiveConfigureReject packet nowMs).1.state ≠ .ackSent := by
  unfold receiveConfigureReject
  split
  · simp [hopened]
  split
  · simp [hopened]
  split
  · simp [hopened]
  · exact afterNegativeResponse_of_opened hopened nowMs

lemma receive_of_opened (hshort : Short m) (hopened : m.state = .opened) (octets : List UInt8) (nowMs : ℕ)
    (policy : SfcPolicy) (hsent : (m.receive octets nowMs policy).1.state = .ackSent) :
    packetsIn .configureAck (emitted (m.receive octets nowMs policy).2) ≠ [] := by
  unfold receive at hsent ⊢
  rw [if_neg (by simp [hopened])] at hsent ⊢
  cases hparse : Packet.parse octets with
  | error error => simp [hparse, hopened] at hsent
  | ok packet =>
  simp only [hparse] at hsent ⊢
  rw [if_neg (by simp [hopened])] at hsent ⊢
  cases hcode : knownCode packet with
  | none => simp [hcode, receiveUnknownCode, allocateIdentifier, hopened] at hsent
  | some code =>
  simp only [hcode] at hsent ⊢
  cases code with
  | configureRequest => exact receiveConfigureRequest_of_opened hshort hopened nowMs policy hsent
  | configureAck =>
    unfold receiveConfigureAck at hsent
    split_ifs at hsent
    · simp [hopened] at hsent
    · simp [hopened] at hsent
  | configureNak => exact absurd hsent (receiveConfigureNak_of_opened hopened packet nowMs)
  | configureReject => exact absurd hsent (receiveConfigureReject_of_opened hopened packet nowMs)
  | terminateRequest => simp [receiveTerminateRequest, hopened] at hsent
  | terminateAck => simp [receiveTerminateAck, hopened] at hsent
  | echoRequest =>
    unfold receiveEchoRequest at hsent
    dsimp only at hsent
    split_ifs at hsent <;> simp [hopened] at hsent
  | echoReply | discardRequest => simp [hopened] at hsent
  | codeReject | protocolReject => simp [hopened] at hsent

/-- **An opened machine** comes to wait for an acknowledgement only by a request that it acknowledges. -/
theorem call_of_opened (hshort : Short m) (hopened : m.state = .opened) (call : Call)
    (hsent : (step m call).state = .ackSent) : packetsIn .configureAck (actions m call) ≠ [] := by
  cases call with
  | doOpen nowMs => simp [step, Call.outcome, doOpen, hopened] at hsent
  | doClose nowMs => simp [step, Call.outcome, doClose, hopened] at hsent
  | lowerDown => simp [step, Call.outcome, lowerDown] at hsent
  | pollTimeout nowMs =>
    simp only [step, Call.outcome, pollTimeout] at hsent
    split at hsent
    · simp [hopened] at hsent
    · simp only [hopened] at hsent
      split_ifs at hsent
      simp [hopened] at hsent
  | receive octets nowMs policy => exact receive_of_opened hshort hopened octets nowMs policy hsent
  | rejectProtocol protocol information =>
    simp [step, Call.outcome, rejectProtocol, allocateIdentifier, hopened] at hsent

/-- **What a call does to the peer's request.** -/
theorem call_responder (hshort : Short m) (call : Call) :
    ResponderStep m (received call) (step m call) (actions m call) := by
  cases call with
  | doOpen nowMs => exact (doOpen_steps hshort nowMs).responder
  | doClose nowMs => exact doClose_responder nowMs
  | lowerDown => exact lowerDown_responder
  | pollTimeout nowMs => exact (pollTimeout_steps hshort nowMs).responder
  | receive octets nowMs policy => exact (receive_steps hshort octets nowMs policy).responder
  | rejectProtocol protocol information => exact rejectProtocol_responder hshort protocol information

end Responder

/-! ### Runs -/

/-- A machine with what it has received and answered. -/
structure History where
  machine : Machine
  /-- The request of the peer that the machine has last acknowledged since it was opened. -/
  answered : Option Packet
  /-- The Configure-Acks received since the machine has last sent a request. -/
  acks : List Packet

/-- The received request, if the actions acknowledge it verbatim. -/
def answeredBy (input : Option Packet) (actions : List Action) : Option Packet :=
  input.filter fun request => knownCode request = some .configureRequest ∧
    ⟨Code.configureAck.octet, request.identifier, request.data⟩ ∈ packetsIn .configureAck actions

/-- Whether a call opens the machine. -/
def opens : Call → Bool
  | .doOpen _ => true
  | _ => false

namespace History

def start (m : Machine) : History := ⟨m, none, []⟩

def step (h : History) (call : Call) : History where
  machine := LcpRun.step h.machine call
  answered := if opens call then none else (answeredBy (received call) (actions h.machine call)).or h.answered
  acks :=
    if packetsIn .configureRequest (actions h.machine call) = [] then
      ((received call).filter fun packet => knownCode packet = some .configureAck).toList ++ h.acks
    else []

/-- What is known of the machine's request and of the peer's. -/
structure Agreed (h : History) : Prop where
  answered : h.machine.state = .ackSent → ∃ request, h.answered = some request ∧
    h.machine.peerConfiguration = some (encodedConfiguration request.data)
  acknowledged : Acknowledged h.machine →
    (∃ ack ∈ h.acks, exactlyAcknowledges ack h.machine.requestIdentifier h.machine.localOptions = true) ∧
      h.machine.acknowledgedLocalMagic = localMagic h.machine.localOptions
  short : Short h.machine

end History

/-- **What a call reports**: the configuration of the peer's request that was last acknowledged, at a time when
the machine's own request is acknowledged; and the local magic number of an opened machine is the acknowledged
one. -/
structure ReportsAgreement (h : History) (call : Call) : Prop where
  up : ∀ configuration, Action.thisLayerUp configuration ∈ actions h.machine call →
    (∃ request, (h.step call).answered = some request ∧ configuration = encodedConfiguration request.data) ∧
      ∃ ack ∈ (h.step call).acks, exactlyAcknowledges ack (h.step call).machine.requestIdentifier
        (h.step call).machine.localOptions = true
  magic : (h.step call).machine.state = .opened →
    (h.step call).machine.acknowledgedLocalMagic = localMagic (h.step call).machine.localOptions

section Step

variable {h : History}

/-- A call that reports a configuration is the one that enters `Opened`, and reports it alone. -/
lemma up_cases {m : Machine} {call : Call} {configuration : PeerConfiguration}
    (hup : Action.thisLayerUp configuration ∈ actions m call) : m.state ≠ .opened ∧ (step m call).state = .opened ∧
      (reports (actions m call)).getLast? = some configuration := by
  unfold actions at hup ⊢
  cases hresult : (call.outcome m).2 with
  | error error =>
    rw [hresult] at hup
    cases hup
  | ok transition =>
  rw [hresult] at hup
  change _ ∈ transition.actions at hup
  change _ ∧ _ ∧ (reports transition.actions).getLast? = _
  have hsignals := call_follows call transition hresult
  have hmem : true ∈ layerSignals transition.actions := mem_up.mp ⟨configuration, hup⟩
  rw [hsignals] at hmem
  have hedge : m.state ≠ .opened ∧ (step m call).state = .opened := by
    have hchange : isOpened m = false ∧ isOpened (call.outcome m).1 = true := by
      revert hmem
      cases isOpened m <;> cases isOpened (call.outcome m).1 <;> simp [Edges.edge]
    exact ⟨of_decide_eq_false hchange.1, of_decide_eq_true hchange.2⟩
  refine ⟨hedge.1, hedge.2, ?_⟩
  -- There is one report, since there is one signal.
  have hone : layerSignals transition.actions = [true] := hsignals.trans (edge_up hedge.1 hedge.2)
  have hcount : (layerSignals transition.actions).count true = (reports transition.actions).length := by
    generalize transition.actions = list
    induction list with
    | nil => rfl
    | cons action list ih => cases action <;> simpa [layerSignals, reports] using ih
  rw [hone] at hcount
  have hreport : configuration ∈ reports transition.actions := List.mem_filterMap.mpr ⟨_, hup, rfl⟩
  obtain ⟨only, honly⟩ := List.length_eq_one_iff.mp hcount.symm
  rw [honly] at hreport ⊢
  rw [List.mem_singleton.mp hreport]
  rfl

lemma received_short {call : Call} {packet : Packet} (h : packet ∈ received call) :
    headerLength + packet.data.length < 2 ^ 16 := by
  cases call with
  | receive octets nowMs policy =>
    change (Packet.parse octets).toOption = some packet at h
    cases hparse : Packet.parse octets with
    | error error =>
      rw [hparse] at h
      cases h
    | ok parsed =>
      rw [hparse] at h
      cases h
      exact length_data_of_parsePacket parseErrors hparse
  | doOpen nowMs | doClose nowMs | lowerDown | pollTimeout nowMs | rejectProtocol protocol information => cases h

lemma answeredBy_of_acks {input : Option Packet} {actions : List Action} {request : Packet} (hinput : request ∈ input)
    (hcode : knownCode request = some .configureRequest)
    (hacks : packetsIn .configureAck actions = [⟨Code.configureAck.octet, request.identifier, request.data⟩]) :
    answeredBy input actions = some request := by
  obtain rfl := hinput
  unfold answeredBy
  simp [hcode, hacks]

/-- A call that opens the machine acknowledges nothing. -/
lemma answered_step {call : Call} {request : Packet}
    (hanswered : answeredBy (received call) (actions h.machine call) = some request) :
    (h.step call).answered = some request := by
  have hnot : opens call = false := by
    cases call with
    | doOpen nowMs => cases hanswered
    | _ => rfl
  unfold History.step
  rw [hnot, hanswered]
  rfl

lemma answered_of_step (hagreed : h.Agreed) (call : Call)
    (hstate : (h.step call).machine.state = .ackSent ∨
      h.machine.state ≠ .opened ∧ (h.step call).machine.state = .opened) :
    ∃ request, (h.step call).answered = some request ∧
      (h.step call).machine.peerConfiguration = some (encodedConfiguration request.data) := by
  cases call_responder hagreed.short call with
  | acknowledge request hinput hcode hacks hpeer hreport =>
    exact ⟨request, answered_step (answeredBy_of_acks hinput hcode hacks), hpeer⟩
  | keep hacks hpeer hreport =>
    have hafter : Answered (step h.machine call) := by
      rcases hstate with hsent | ⟨-, hopened⟩
      · exact Or.inl hsent
      · exact Or.inr hopened
    obtain ⟨hbefore, hsame⟩ := hpeer hafter
    have hsent : h.machine.state = .ackSent := by
      rcases hbefore with hsent | hopened
      · exact hsent
      · rcases hstate with hsent | ⟨hnot, -⟩
        · exact absurd hacks (call_of_opened hagreed.short hopened call hsent)
        · exact absurd hopened hnot
    obtain ⟨request, hsome, hconfiguration⟩ := hagreed.answered hsent
    have hopens : opens call = false := by
      cases call with
      | doOpen nowMs => simp [Answered, step, Call.outcome, doOpen, hsent] at hafter
      | _ => rfl
    have hnone : answeredBy (received call) (actions h.machine call) = none := by
      unfold answeredBy
      rw [hacks]
      simp
    refine ⟨request, ?_, hsame.trans hconfiguration⟩
    unfold History.step
    rw [hopens, hnone]
    exact hsome

/-- **The step lemma.** -/
theorem history_step (hagreed : h.Agreed) (call : Call) : (h.step call).Agreed ∧ ReportsAgreement h call := by
  have hstands := call_stands h.machine hagreed.short call
  have hresponder := call_responder hagreed.short call
  have hacknowledged : Acknowledged (h.step call).machine →
      (∃ ack ∈ (h.step call).acks, exactlyAcknowledges ack (h.step call).machine.requestIdentifier
        (h.step call).machine.localOptions = true) ∧
      (h.step call).machine.acknowledgedLocalMagic = localMagic (h.step call).machine.localOptions := by
    intro hstate
    obtain ⟨hid, hoptions, hrequests, hbefore⟩ := hstands hstate
    have hacks : (h.step call).acks =
        ((received call).filter fun packet => knownCode packet = some .configureAck).toList ++ h.acks := if_pos hrequests
    change (∃ ack ∈ _, exactlyAcknowledges ack (call.outcome h.machine).1.requestIdentifier
      (call.outcome h.machine).1.localOptions = true) ∧ (call.outcome h.machine).1.acknowledgedLocalMagic =
        localMagic (call.outcome h.machine).1.localOptions
    rw [hid, hoptions, hacks]
    rcases hbefore with ⟨hbefore, hmagic⟩ | ⟨packet, hinput, hexact, hmagic⟩
    · obtain ⟨⟨ack, hmem, hexact⟩, hlocal⟩ := hagreed.acknowledged hbefore
      exact ⟨⟨ack, List.mem_append_right _ hmem, hexact⟩, hmagic.trans hlocal⟩
    · refine ⟨⟨packet, List.mem_append_left _ ?_, hexact⟩, hmagic⟩
      have hcode : knownCode packet = some .configureAck := by
        simp only [exactlyAcknowledges, Bool.and_eq_true, beq_iff_eq] at hexact
        exact hexact.1.1
      obtain hinput : received call = some packet := hinput
      rw [hinput]
      simp [hcode]
  have hanswered := answered_of_step hagreed call
  have hfits : Short (h.step call).machine := by
    intro hstate
    obtain ⟨-, hoptions, -, hbefore⟩ := hstands hstate
    change headerLength + (call.outcome h.machine).1.localOptions.length < 2 ^ 16
    rw [hoptions]
    rcases hbefore with ⟨hbefore, -⟩ | ⟨packet, hinput, hexact, -⟩
    · exact hagreed.short hbefore
    · have hdata : packet.data = h.machine.localOptions := by
        simp only [exactlyAcknowledges, Bool.and_eq_true, beq_iff_eq] at hexact
        exact hexact.2
      rw [← hdata]
      exact received_short hinput
  refine ⟨⟨fun hsent => hanswered (Or.inl hsent), hacknowledged, hfits⟩, ?_, fun hopened =>
    (hacknowledged (Or.inr hopened)).2⟩
  intro configuration hup
  obtain ⟨hbefore, hafter, hlast⟩ := up_cases hup
  obtain ⟨request, hsome, hpeer⟩ := hanswered (Or.inr ⟨hbefore, hafter⟩)
  refine ⟨⟨request, hsome, ?_⟩, (hacknowledged (Or.inr hafter)).1⟩
  have hreported : (reports (actions h.machine call)).getLast? =
      some ((step h.machine call).peerConfiguration.getD {}) := by
    cases hresponder with
    | acknowledge request hinput hcode hacks hpeer hreport => rw [hreport hafter, hpeer, Option.getD_some]
    | keep hacks hpeer hreport =>
      rcases hreport hafter with ⟨hopened, -⟩ | hreport
      · exact absurd hopened hbefore
      · exact hreport
  rw [hlast, show (step h.machine call).peerConfiguration = _ from hpeer] at hreported
  exact Option.some_inj.mp hreported

end Step

/-- **Every This-Layer-Up reports the acknowledged request** of the peer, in every run of a new machine, with or
without errors. -/
theorem reports_agreement {localOptions : List UInt8} {settings : Settings} {m : Machine}
    (hnew : Machine.new localOptions settings = .ok m) (calls : List Call) (call : Call) :
    ReportsAgreement (Run.run History.step (.start m) calls) call := by
  have hclosed := state_new hnew
  have hstart : (History.start m).Agreed :=
    ⟨fun h => by simp [History.start, hclosed] at h, fun h => by simp [History.start, Acknowledged, hclosed] at h,
      fun h => by simp [History.start, Acknowledged, hclosed] at h⟩
  have hagreed : (Run.run History.step (.start m) calls).Agreed :=
    Run.run_preserves (fun _ call hagreed => (history_step hagreed call).1) hstart
  exact (history_step hagreed call).2

/-- The peer's second request replaces the first one. -/
theorem reports_agreement_second : ∃ m, Machine.new [5, 6, 1, 2, 3, 4] ⟨3000, 10, 2⟩ = .ok m ∧
    ReportsAgreement (Run.run History.step (.start m) [.doOpen 0, .receive [1, 7, 0, 8, 1, 4, 5, 0] 10 {},
      .receive [1, 8, 0, 8, 1, 4, 4, 0] 20 {}]) (.receive [2, 1, 0, 10, 5, 6, 1, 2, 3, 4] 30 {}) :=
  ⟨_, rfl, reports_agreement (show Machine.new [5, 6, 1, 2, 3, 4] ⟨3000, 10, 2⟩ = .ok _ from rfl) _ _⟩

end SnesModem.Rust.UpConfiguration
