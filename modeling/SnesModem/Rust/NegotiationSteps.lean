import SnesModem.Rust.PeerRequest

/-!
# What one call of the machine does to an agreement

In the exchange of Configure packets a machine plays two parts: it requests its own options, and it responds
to the peer's request.

* `RequesterStep`: what a call does to the first part: the requests it sends, the identifiers it takes, and
  when it holds its own request acknowledged;
* `ResponderStep`: what it does to the second: the request it acknowledges, the configuration it keeps of
  it and the one it reports;
* `doOpen_steps`, `pollTimeout_steps`, `receive_steps`: every call is such a step.
-/

namespace SnesModem.Rust.NegotiationSteps

open SnesModem.Lib SnesModem.Rust.ControlPacket SnesModem.Rust.Lcp SnesModem.Rust.Negotiation
open SnesModem.Rust.PeerRequest SnesModem.Rust.Negotiation.Machine

/-! ### Packets among octets and actions -/

/-- The octets as a packet of the code, if they are one. -/
def packetOf (code : Code) (octets : List UInt8) : Option Packet :=
  match Packet.parse octets with
  | .ok packet => if knownCode packet = some code then some packet else none
  | .error _ => none

def sentPackets (actions : List Action) : List (List UInt8) :=
  actions.filterMap fun
    | .sendPacket packet => some packet
    | _ => none

/-- The packets of one code that actions send. -/
def packetsIn (code : Code) (actions : List Action) : List Packet :=
  (sentPackets actions).filterMap (packetOf code)

/-- The configurations that actions report to the layer above. -/
def reports (actions : List Action) : List PeerConfiguration :=
  actions.filterMap fun
    | .thisLayerUp configuration => some configuration
    | _ => none

/-- The actions of a result; an error has none. -/
def emitted : Except MachineError Transition → List Action
  | .ok transition => transition.actions
  | .error _ => []

section Packets

variable (code : Code)

@[simp] lemma packetsIn_nil : packetsIn code [] = [] := rfl

@[simp] lemma packetsIn_sendPacket (octets : List UInt8) (actions : List Action) :
    packetsIn code (.sendPacket octets :: actions) = (packetOf code octets).toList ++ packetsIn code actions := by
  unfold packetsIn sentPackets
  cases h : packetOf code octets <;> simp [h]

@[simp] lemma packetsIn_thisLayerUp (configuration : PeerConfiguration) (actions : List Action) :
    packetsIn code (.thisLayerUp configuration :: actions) = packetsIn code actions := rfl

@[simp] lemma packetsIn_thisLayerDown (actions : List Action) :
    packetsIn code (.thisLayerDown :: actions) = packetsIn code actions := rfl

@[simp] lemma packetsIn_thisLayerFinished (actions : List Action) :
    packetsIn code (.thisLayerFinished :: actions) = packetsIn code actions := rfl

lemma packetsIn_append (actions actions' : List Action) :
    packetsIn code (actions ++ actions') = packetsIn code actions ++ packetsIn code actions' := by
  simp [packetsIn, sentPackets]

lemma packetOf_encode {code' : Code} {identifier : UInt8} {data octets : List UInt8}
    (h : encode code' identifier data = .ok octets) :
    packetOf code octets = if code' = code then some ⟨code'.octet, identifier, data⟩ else none := by
  unfold encode at h
  have hparse := parsePacket_encodePacket parseErrors _ h []
  rw [List.append_nil] at hparse
  unfold packetOf
  rw [show Packet.parse octets = _ from hparse]
  simp [knownCode]

lemma encode_ok {code' : Code} {identifier : UInt8} {data : List UInt8}
    (h : headerLength + data.length < 2 ^ 16) : ∃ octets, encode code' identifier data = .ok octets :=
  encodePacket_ok _ h

/-- A call that ends with one packet, after actions that send none. -/
lemma packetsIn_sending {actions : List Action} (hactions : packetsIn code actions = []) {code' : Code}
    {identifier : UInt8} {data : List UInt8} {packet : Packet}
    (h : packet ∈ packetsIn code (emitted (sending actions (encode code' identifier data)))) :
    code' = code ∧ packet = ⟨code'.octet, identifier, data⟩ := by
  cases hencode : encode code' identifier data with
  | error error => simp [hencode, sending, emitted, Except.map] at h
  | ok octets =>
    simp only [hencode, sending, emitted, Except.map, packetsIn_append, hactions, packetsIn_sendPacket,
      packetOf_encode code hencode, packetsIn_nil] at h
    by_cases hcode : code' = code
    · simpa [hcode] using h
    · simp [hcode] at h

lemma packetsIn_sending_of_ne {actions : List Action} (hactions : packetsIn code actions = []) {code' : Code}
    (hcode : code' ≠ code) (identifier : UInt8) (data : List UInt8) :
    packetsIn code (emitted (sending actions (encode code' identifier data))) = [] :=
  List.eq_nil_iff_forall_not_mem.mpr fun _ h => hcode (packetsIn_sending code hactions h).1

lemma reports_sending {actions : List Action} (hactions : reports actions = [])
    (packet : Except MachineError (List UInt8)) : reports (emitted (sending actions packet)) = [] := by
  cases packet with
  | error error => rfl
  | ok octets => simpa [sending, emitted, Except.map, reports] using hactions

end Packets

/-! ### The two parts of a machine -/

/-- The machine holds its own request acknowledged. -/
def Acknowledged (m : Machine) : Prop := m.state = .ackReceived ∨ m.state = .opened

/-- The machine has acknowledged the peer's request. -/
def Answered (m : Machine) : Prop := m.state = .ackSent ∨ m.state = .opened

/-- What a call does to the machine's own request. -/
structure RequesterStep (m : Machine) (input : Option Packet) (m' : Machine) (actions : List Action) : Prop where
  /-- Every request sent is the one the machine now stands by. -/
  fresh : ∀ request ∈ packetsIn .configureRequest actions,
    request.identifier = m'.requestIdentifier ∧ request.data = m'.localOptions
  /-- The request is kept, or replaced under a new identifier. -/
  identifiers :
    m'.requestIdentifier = m.requestIdentifier ∧ m'.localOptions = m.localOptions ∧
        (m'.nextIdentifier = m.nextIdentifier ∨ m'.nextIdentifier = m.nextIdentifier + 1) ∨
      m'.requestIdentifier = m.nextIdentifier + 1 ∧ m'.nextIdentifier = m.nextIdentifier + 1
  /-- The request is acknowledged by a Configure-Ack with its identifier, or was before. -/
  matched : Acknowledged m' → m'.requestIdentifier = m.requestIdentifier ∧
    (Acknowledged m ∨ ∃ packet ∈ input, knownCode packet = some .configureAck ∧
      packet.identifier = m.requestIdentifier)
  /-- An acknowledged request fits a packet. -/
  short : Acknowledged m' → headerLength + m'.localOptions.length < 2 ^ 16

/-- What a call does to the peer's request. -/
inductive ResponderStep (m : Machine) (input : Option Packet) (m' : Machine) (actions : List Action) : Prop
  /-- The request is acknowledged. -/
  | acknowledge (request : Packet) (hinput : request ∈ input)
      (hcode : knownCode request = some .configureRequest)
      (hacks : packetsIn .configureAck actions = [⟨Code.configureAck.octet, request.identifier, request.data⟩])
      (hpeer : m'.peerConfiguration = some (encodedConfiguration request.data))
      (hreport : m'.state = .opened → (reports actions).getLast? = m'.peerConfiguration)
  /-- No request is acknowledged. -/
  | keep (hacks : packetsIn .configureAck actions = [])
      (hpeer : Answered m' → Answered m ∧ m'.peerConfiguration = m.peerConfiguration)
      (hreport : m'.state = .opened → m.state = .opened ∧ reports actions = [] ∨
        (reports actions).getLast? = some (m'.peerConfiguration.getD {}))

/-- Both. -/
structure Steps (m : Machine) (input : Option Packet) (outcome : Outcome) : Prop where
  requester : RequesterStep m input outcome.1 (emitted outcome.2)
  responder : ResponderStep m input outcome.1 (emitted outcome.2)

/-- An acknowledged request fits a packet. -/
def Short (m : Machine) : Prop := Acknowledged m → headerLength + m.localOptions.length < 2 ^ 16

section Rules

variable {m m' : Machine} {input : Option Packet} {actions : List Action}

lemma not_acknowledged (hreceived : m.state ≠ .ackReceived) (hopened : m.state ≠ .opened) : ¬ Acknowledged m :=
  fun h => h.elim hreceived hopened

/-- A call that keeps the request, without sending another one. -/
lemma RequesterStep.keep (hshort : Short m) (hactions : ∀ request ∈ packetsIn .configureRequest actions,
      request.identifier = m'.requestIdentifier ∧ request.data = m'.localOptions)
    (hid : m'.requestIdentifier = m.requestIdentifier) (hoptions : m'.localOptions = m.localOptions)
    (hnext : m'.nextIdentifier = m.nextIdentifier ∨ m'.nextIdentifier = m.nextIdentifier + 1)
    (hstate : Acknowledged m' → Acknowledged m) : RequesterStep m input m' actions where
  fresh := hactions
  identifiers := Or.inl ⟨hid, hoptions, hnext⟩
  matched h := ⟨hid, Or.inl (hstate h)⟩
  short h := by
    rw [hoptions]
    exact hshort (hstate h)

/-- A call that leaves the peer's request unanswered. -/
lemma ResponderStep.unanswered (hacks : packetsIn .configureAck actions = []) (hsent : m'.state ≠ .ackSent)
    (hopened : m'.state ≠ .opened) : ResponderStep m input m' actions :=
  .keep hacks (fun h => (h.elim hsent hopened).elim) fun h => absurd h hopened

/-- A call that changes neither part of the machine. -/
lemma Steps.quiet {outcome : Outcome} (hshort : Short m) (hstate : outcome.1.state = m.state)
    (hid : outcome.1.requestIdentifier = m.requestIdentifier)
    (hoptions : outcome.1.localOptions = m.localOptions)
    (hnext : outcome.1.nextIdentifier = m.nextIdentifier ∨ outcome.1.nextIdentifier = m.nextIdentifier + 1)
    (hpeer : outcome.1.peerConfiguration = m.peerConfiguration)
    (hrequests : ∀ request ∈ packetsIn .configureRequest (emitted outcome.2),
      request.identifier = outcome.1.requestIdentifier ∧ request.data = outcome.1.localOptions)
    (hacks : packetsIn .configureAck (emitted outcome.2) = []) (hreports : reports (emitted outcome.2) = []) :
    Steps m input outcome where
  requester := .keep hshort hrequests hid hoptions hnext (by unfold Acknowledged; rw [hstate]; exact id)
  responder := .keep hacks (by unfold Answered; rw [hstate]; exact fun h => ⟨h, hpeer⟩)
    (by rw [hstate]; exact fun h => Or.inl ⟨h, hreports⟩)

/-- A call that leaves the negotiation. -/
lemma Steps.inactive {outcome : Outcome} (hshort : Short m)
    (hstate : outcome.1.state ≠ .ackReceived ∧ outcome.1.state ≠ .ackSent ∧ outcome.1.state ≠ .opened)
    (hid : outcome.1.requestIdentifier = m.requestIdentifier)
    (hoptions : outcome.1.localOptions = m.localOptions)
    (hnext : outcome.1.nextIdentifier = m.nextIdentifier ∨ outcome.1.nextIdentifier = m.nextIdentifier + 1)
    (hrequests : ∀ request ∈ packetsIn .configureRequest (emitted outcome.2),
      request.identifier = outcome.1.requestIdentifier ∧ request.data = outcome.1.localOptions)
    (hacks : packetsIn .configureAck (emitted outcome.2) = []) : Steps m input outcome where
  requester := .keep hshort hrequests hid hoptions hnext fun h =>
    absurd h (not_acknowledged hstate.1 hstate.2.2)
  responder := .unanswered hacks hstate.2.1 hstate.2.2

/-- A call that only returns. -/
lemma Steps.ignore (hshort : Short m) (reason : Option IgnoreReason) :
    Steps m input (m, .ok { ignored := reason }) :=
  .quiet hshort rfl rfl rfl (Or.inl rfl) rfl (by simp [emitted]) rfl rfl

end Rules

/-! ### A new request -/

section SendNewRequest

variable (m : Machine) (nowMs : ℕ) (resetCounter : Bool)

@[simp] lemma state_sendNewRequest : (m.sendNewRequest nowMs resetCounter).1.state = m.state := rfl

@[simp] lemma localOptions_sendNewRequest :
    (m.sendNewRequest nowMs resetCounter).1.localOptions = m.localOptions := rfl

@[simp] lemma peerConfiguration_sendNewRequest :
    (m.sendNewRequest nowMs resetCounter).1.peerConfiguration = m.peerConfiguration := rfl

@[simp] lemma requestIdentifier_sendNewRequest :
    (m.sendNewRequest nowMs resetCounter).1.requestIdentifier = m.nextIdentifier + 1 := rfl

@[simp] lemma nextIdentifier_sendNewRequest :
    (m.sendNewRequest nowMs resetCounter).1.nextIdentifier = m.nextIdentifier + 1 := rfl

lemma snd_sendNewRequest : (m.sendNewRequest nowMs resetCounter).2 =
    encode .configureRequest (m.nextIdentifier + 1) m.localOptions := rfl

/-- The call ends with the new request of a machine that has the identifiers of `m₀`. -/
lemma requesterStep_sendNewRequest {m₀ : Machine} {input : Option Packet} {actions : List Action}
    (hnext : m.nextIdentifier = m₀.nextIdentifier) (hreceived : m.state ≠ .ackReceived)
    (hopened : m.state ≠ .opened) (hactions : packetsIn .configureRequest actions = []) :
    RequesterStep m₀ input (m.sendNewRequest nowMs resetCounter).1
      (emitted (sending actions (m.sendNewRequest nowMs resetCounter).2)) where
  fresh request h := by
    rw [snd_sendNewRequest] at h
    obtain ⟨-, rfl⟩ := packetsIn_sending _ hactions h
    exact ⟨rfl, rfl⟩
  identifiers := Or.inr (by simp [hnext])
  matched h := absurd h (not_acknowledged hreceived hopened)
  short h := absurd h (not_acknowledged hreceived hopened)

lemma acks_sendNewRequest {actions : List Action} (hactions : packetsIn .configureAck actions = []) :
    packetsIn .configureAck (emitted (sending actions (m.sendNewRequest nowMs resetCounter).2)) = [] := by
  rw [snd_sendNewRequest]
  exact packetsIn_sending_of_ne _ hactions (by decide) _ _

end SendNewRequest

/-! ### Every call is a step -/

section Calls

variable {m : Machine} (hshort : Short m)
include hshort

theorem doOpen_steps (nowMs : ℕ) : Steps m none (m.doOpen nowMs) := by
  unfold doOpen
  split_ifs
  · exact .ignore hshort none
  · exact ⟨requesterStep_sendNewRequest _ _ _ rfl (by simp) (by simp) rfl,
      .unanswered (acks_sendNewRequest _ _ _ rfl) (by simp) (by simp)⟩

/-- A call that sends one packet of another code. -/
lemma sendOther_steps {input : Option Packet} {m' : Machine} (code : Code) (hrequest : code ≠ .configureRequest)
    (hack : code ≠ .configureAck) (identifier : UInt8) (data : List UInt8) (hstate : m'.state = m.state)
    (hid : m'.requestIdentifier = m.requestIdentifier) (hoptions : m'.localOptions = m.localOptions)
    (hnext : m'.nextIdentifier = m.nextIdentifier ∨ m'.nextIdentifier = m.nextIdentifier + 1)
    (hpeer : m'.peerConfiguration = m.peerConfiguration) : Steps m input (m', sending [] (encode code identifier data)) := by
  refine .quiet hshort hstate hid hoptions hnext hpeer ?_ ?_ ?_
  · rw [packetsIn_sending_of_ne _ rfl hrequest]
    simp
  · exact packetsIn_sending_of_ne _ rfl hack _ _
  · exact reports_sending rfl _

theorem pollTimeout_steps (nowMs : ℕ) : Steps m none (m.pollTimeout nowMs) := by
  unfold pollTimeout
  split
  · exact .ignore hshort none
  · -- The request that is sent once more, if the call comes to it.
    have hrequests : ∀ request ∈ packetsIn .configureRequest
        (emitted (sending [] (encode .configureRequest m.requestIdentifier m.localOptions))),
        request.identifier = m.requestIdentifier ∧ request.data = m.localOptions := by
      intro request h
      obtain ⟨-, rfl⟩ := packetsIn_sending _ rfl h
      exact ⟨rfl, rfl⟩
    have hacks : packetsIn .configureAck
        (emitted (sending [] (encode .configureRequest m.requestIdentifier m.localOptions))) = [] :=
      packetsIn_sending_of_ne _ rfl (by decide) _ _
    dsimp only
    split_ifs with hearly hclosing hlast hstate hexhausted hreceived
    · exact .ignore hshort none
    · exact .inactive hshort (by simp) rfl rfl (Or.inl rfl) (by simp [emitted]) rfl
    · exact sendOther_steps hshort .terminateRequest (by decide) (by decide) _ _ rfl rfl rfl (Or.inl rfl) rfl
    · exact .quiet hshort rfl rfl rfl (Or.inl rfl) rfl (by simp [emitted]) rfl rfl
    · exact .inactive hshort (by simp) rfl rfl (Or.inl rfl) (by simp [emitted]) rfl
    · exact .inactive hshort (by simp) rfl rfl (Or.inl rfl) hrequests hacks
    · exact .quiet hshort rfl rfl rfl (Or.inl rfl) rfl hrequests hacks (reports_sending rfl _)

lemma receiveTerminateRequest_steps (packet : Packet) :
    Steps m (some packet) (m.receiveTerminateRequest packet) := by
  unfold receiveTerminateRequest
  split_ifs
  · exact sendOther_steps hshort .terminateAck (by decide) (by decide) _ _ rfl rfl rfl (Or.inl rfl) rfl
  all_goals
    obtain ⟨octets, hencode⟩ : ∃ octets, encode .terminateAck packet.identifier [] = .ok octets :=
      encode_ok (by decide)
    refine .inactive hshort (by simp) rfl rfl (Or.inl rfl) ?_ ?_ <;>
      simp [hencode, emitted, Except.map, packetOf_encode _ hencode]

lemma receiveTerminateAck_steps (packet : Packet) :
    Steps m (some packet) (m.receiveTerminateAck packet) := by
  unfold receiveTerminateAck
  split_ifs
  · exact .ignore hshort none
  · exact .ignore hshort _
  · exact .inactive hshort (by simp) rfl rfl (Or.inl rfl) (by simp [emitted]) rfl

lemma receiveEchoRequest_steps (packet : Packet) :
    Steps m (some packet) (m.receiveEchoRequest packet) := by
  unfold receiveEchoRequest
  dsimp only
  split_ifs
  · exact .ignore hshort _
  · exact .ignore hshort _
  · exact .ignore hshort _
  · exact sendOther_steps hshort .echoReply (by decide) (by decide) _ _ rfl rfl rfl (Or.inl rfl) rfl

lemma receiveUnknownCode_steps (octets : List UInt8) (packet : Packet) :
    Steps m (some packet) (m.receiveUnknownCode octets packet) :=
  sendOther_steps hshort .codeReject (by decide) (by decide) _ _ rfl rfl rfl (Or.inr rfl) rfl

section ConfigureRequest

variable {packet : Packet} {response : List UInt8} (nowMs : ℕ)
  (hrequests : packetOf .configureRequest response = none)
include hrequests

/-- The response goes out with a new request from an opened machine. -/
lemma renegotiate_steps (m' : Machine) (hnext : m'.nextIdentifier = m.nextIdentifier)
    (hoptions : m'.localOptions = m.localOptions) (hopened : m.state = .opened) (state : State)
    (hstate : state ≠ .ackReceived ∧ state ≠ .opened)
    (hresponder : ∀ m'' actions, m''.peerConfiguration = m'.peerConfiguration → m''.state = state →
      packetsIn .configureAck actions = (packetOf .configureAck response).toList →
      ResponderStep m (some packet) m'' actions) :
    Steps m (some packet) (match m'.sendNewRequest nowMs true with
      | (m, .error error) => (m, .error error)
      | (m, .ok request) => ({ m with state := state },
          .ok { actions := [.thisLayerDown, .sendPacket request, .sendPacket response] })) := by
  -- The local options were acknowledged, so that the new request fits a packet.
  have hfits := hshort (Or.inr hopened)
  rw [← hoptions] at hfits
  obtain ⟨request, hencode⟩ : ∃ request, encode .configureRequest (m'.nextIdentifier + 1) m'.localOptions =
    .ok request := encode_ok hfits
  have hnew : packetOf .configureRequest request =
      some ⟨Code.configureRequest.octet, m'.nextIdentifier + 1, m'.localOptions⟩ := by
    rw [packetOf_encode _ hencode, if_pos rfl]
  have hold : packetOf .configureAck request = none := by
    rw [packetOf_encode _ hencode, if_neg (by decide)]
  have hsend : m'.sendNewRequest nowMs true = ((m'.sendNewRequest nowMs true).1, .ok request) :=
    Prod.ext rfl ((snd_sendNewRequest m' nowMs true).trans hencode)
  rw [hsend]
  refine ⟨⟨?_, Or.inr ?_, ?_, ?_⟩, hresponder _ _ rfl rfl ?_⟩
  · intro found hfound
    simp only [emitted, packetsIn_thisLayerDown, packetsIn_sendPacket, hnew, hrequests, packetsIn_nil,
      Option.toList_some, Option.toList_none, List.append_nil, List.mem_singleton] at hfound
    rw [hfound]
    exact ⟨rfl, rfl⟩
  · simp [hnext]
  · exact fun h => absurd h (not_acknowledged hstate.1 hstate.2)
  · exact fun h => absurd h (not_acknowledged hstate.1 hstate.2)
  · simp [emitted, hold]

end ConfigureRequest

lemma receiveConfigureRequest_steps {packet : Packet} (hcode : knownCode packet = some .configureRequest)
    (nowMs : ℕ) (policy : SfcPolicy) : Steps m (some packet) (m.receiveConfigureRequest packet nowMs policy) := by
  unfold receiveConfigureRequest
  cases hevaluation : evaluatePeerRequest packet policy (localMagic m.localOptions) with
  | error error => exact .ignore hshort _
  | ok evaluation =>
    dsimp only
    cases hresponse : encode evaluation.code packet.identifier evaluation.data with
    | error error => exact .quiet hshort rfl rfl rfl (Or.inl rfl) rfl (by simp [emitted]) rfl rfl
    | ok response =>
      have hrequests : packetOf .configureRequest response = none := by
        rw [packetOf_encode _ hresponse, if_neg]
        rcases evaluatePeerRequest_code hevaluation with h | h | h <;> simp [h]
      dsimp only
      by_cases hacceptable : evaluation.code = .configureAck
      · obtain ⟨hdata, hconfiguration⟩ := evaluatePeerRequest_ack hevaluation hacceptable
        have hacks : packetOf .configureAck response =
            some ⟨Code.configureAck.octet, packet.identifier, packet.data⟩ := by
          rw [packetOf_encode _ hresponse, if_pos hacceptable, hacceptable, hdata]
        have hresponder : ∀ m' actions, m'.peerConfiguration = evaluation.configuration →
            (m'.state = .opened → (reports actions).getLast? = m'.peerConfiguration) →
            packetsIn .configureAck actions = (packetOf .configureAck response).toList →
            ResponderStep m (some packet) m' actions := by
          intro m' actions hpeer hreport hsent
          exact .acknowledge packet rfl hcode (by rw [hsent, hacks]; rfl) (hpeer.trans hconfiguration) hreport
        simp only [hacceptable, decide_true, if_true]
        split
        case h_1 | h_2 =>
          exact ⟨.keep hshort (by simp [emitted, hrequests]) rfl rfl (Or.inl rfl) (by simp [Acknowledged]),
            hresponder _ _ rfl (by simp) (by simp [emitted])⟩
        case h_3 hreceived =>
          exact ⟨.keep hshort (by simp [emitted, hrequests]) rfl rfl (Or.inl rfl) fun _ => Or.inl hreceived,
            hresponder _ _ rfl (by simp [emitted, reports, hconfiguration]) (by simp [emitted])⟩
        case h_4 hopened =>
          refine renegotiate_steps hshort nowMs hrequests { m with peerConfiguration := evaluation.configuration }
            rfl rfl hopened .ackSent (by simp) ?_
          intro m' actions hpeer hsent
          exact hresponder m' actions hpeer (by simp [hsent])
        case h_5 hstate | h_6 hstate | h_7 hstate =>
          exact .inactive hshort (by simp [hstate]) rfl rfl (Or.inl rfl) (by simp [emitted]) rfl
      · have hacks : packetOf .configureAck response = none := by
          rw [packetOf_encode _ hresponse, if_neg hacceptable]
        simp only [hacceptable, decide_false, Bool.false_eq_true, if_false]
        split
        case h_1 | h_2 =>
          exact .inactive hshort (by simp) rfl rfl (Or.inl rfl) (by simp [emitted, hrequests])
            (by simp [emitted, hacks])
        case h_3 =>
          exact .quiet hshort rfl rfl rfl (Or.inl rfl) rfl (by simp [emitted, hrequests])
            (by simp [emitted, hacks]) rfl
        case h_4 hopened =>
          refine renegotiate_steps hshort nowMs hrequests _ rfl rfl hopened .requestSent (by simp) ?_
          intro m' actions _ hsent hresponse
          exact .unanswered (by rw [hresponse, hacks]; rfl) (by simp [hsent]) (by simp [hsent])
        case h_5 | h_6 | h_7 => exact .ignore hshort none

omit hshort in
lemma afterNegativeResponse_steps {m' : Machine} {packet : Packet} (hnext : m'.nextIdentifier = m.nextIdentifier)
    (hstate : m'.state = m.state) (hpeer : m'.peerConfiguration = m.peerConfiguration) (nowMs : ℕ) :
    Steps m (some packet) (m'.afterNegativeResponse nowMs) := by
  unfold afterNegativeResponse
  have hdown (code : Code) : packetsIn code (if m'.state = .opened then [.thisLayerDown] else []) = [] := by
    split_ifs <;> rfl
  by_cases hsent : m'.state = .ackSent
  · refine ⟨requesterStep_sendNewRequest _ _ _ hnext (by simp [hsent]) (by simp [hsent]) (hdown _), ?_⟩
    refine .keep (acks_sendNewRequest _ _ _ (hdown _)) (fun _ => ⟨Or.inl (hstate.symm.trans hsent), hpeer⟩) ?_
    intro hopened
    simp [hsent] at hopened
  · refine ⟨requesterStep_sendNewRequest _ _ _ hnext (by simp [hsent]) (by simp [hsent]) (hdown _), ?_⟩
    exact .unanswered (acks_sendNewRequest _ _ _ (hdown _)) (by simp [hsent]) (by simp [hsent])

lemma receiveConfigureNak_steps (packet : Packet) (nowMs : ℕ) :
    Steps m (some packet) (m.receiveConfigureNak packet nowMs) := by
  unfold receiveConfigureNak
  split
  · exact .ignore hshort _
  · split
    · exact .ignore hshort _
    · split
      · exact .ignore hshort _
      · refine afterNegativeResponse_steps ?_ ?_ ?_ nowMs <;> rfl

lemma receiveConfigureReject_steps (packet : Packet) (nowMs : ℕ) :
    Steps m (some packet) (m.receiveConfigureReject packet nowMs) := by
  unfold receiveConfigureReject
  split
  · exact .ignore hshort _
  · split
    · exact .ignore hshort _
    · split
      · exact .ignore hshort _
      · refine afterNegativeResponse_steps ?_ ?_ ?_ nowMs <;> rfl

lemma receiveConfigureAck_steps {packet : Packet} (hfits : headerLength + packet.data.length < 2 ^ 16)
    (nowMs : ℕ) : Steps m (some packet) (m.receiveConfigureAck packet nowMs) := by
  unfold receiveConfigureAck
  by_cases hexact : exactlyAcknowledges packet m.requestIdentifier m.localOptions = true
  · have hmatch : knownCode packet = some .configureAck ∧ packet.identifier = m.requestIdentifier ∧
        packet.data = m.localOptions := by
      simpa [exactlyAcknowledges, and_assoc] using hexact
    obtain ⟨hcode, hid, hdata⟩ := hmatch
    rw [hdata] at hfits
    -- The machine that takes the acknowledgement for its own request.
    have hrequester : ∀ m' : Machine, ∀ actions, packetsIn .configureRequest actions = [] →
        m'.requestIdentifier = m.requestIdentifier → m'.localOptions = m.localOptions →
        m'.nextIdentifier = m.nextIdentifier → RequesterStep m (some packet) m' actions := by
      intro m' actions hactions hid' hoptions hnext
      refine ⟨by simp [hactions], Or.inl ⟨hid', hoptions, Or.inl hnext⟩, fun _ => ?_, fun _ => ?_⟩
      · exact ⟨hid', Or.inr ⟨packet, rfl, hcode, hid⟩⟩
      · rwa [hoptions]
    simp only [hexact, Bool.not_true, Bool.false_eq_true, if_false]
    split
    · exact ⟨hrequester _ _ rfl rfl rfl rfl, .unanswered rfl (by simp) (by simp)⟩
    · rename_i hsent
      refine ⟨hrequester _ _ rfl rfl rfl rfl, .keep rfl (fun _ => ⟨Or.inl hsent, rfl⟩) fun _ => Or.inr rfl⟩
    · exact ⟨requesterStep_sendNewRequest _ _ _ rfl (by simp) (by simp) rfl,
        .unanswered (acks_sendNewRequest _ _ _ rfl) (by simp) (by simp)⟩
    · exact ⟨requesterStep_sendNewRequest _ _ _ rfl (by simp) (by simp) rfl,
        .unanswered (acks_sendNewRequest _ _ _ rfl) (by simp) (by simp)⟩
    · exact .quiet hshort rfl rfl rfl (Or.inl rfl) rfl (by simp [emitted]) rfl rfl
    · exact .quiet hshort rfl rfl rfl (Or.inl rfl) rfl (by simp [emitted]) rfl rfl
    · exact .quiet hshort rfl rfl rfl (Or.inl rfl) rfl (by simp [emitted]) rfl rfl
  · rw [if_pos (by simpa using hexact)]
    exact .ignore hshort _

/-- **Every received packet is a step** of both parts. -/
theorem receive_steps (input : List UInt8) (nowMs : ℕ) (policy : SfcPolicy) :
    Steps m (Packet.parse input).toOption (m.receive input nowMs policy) := by
  unfold receive
  split
  · exact .ignore hshort _
  · cases hparse : Packet.parse input with
    | error error => exact .ignore hshort _
    | ok packet =>
      have hfits := length_data_of_parsePacket parseErrors hparse
      dsimp only [Except.toOption]
      split
      · exact .ignore hshort _
      · cases hcode : knownCode packet with
        | none => exact receiveUnknownCode_steps hshort input packet
        | some code =>
          cases code with
          | configureRequest => exact receiveConfigureRequest_steps hshort hcode nowMs policy
          | configureAck => exact receiveConfigureAck_steps hshort hfits nowMs
          | configureNak => exact receiveConfigureNak_steps hshort packet nowMs
          | configureReject => exact receiveConfigureReject_steps hshort packet nowMs
          | terminateRequest => exact receiveTerminateRequest_steps hshort packet
          | terminateAck => exact receiveTerminateAck_steps hshort packet
          | echoRequest => exact receiveEchoRequest_steps hshort packet
          | echoReply | discardRequest =>
            dsimp only
            split
            · exact .ignore hshort none
            · exact .ignore hshort _
          | codeReject | protocolReject => exact .ignore hshort _

end Calls

end SnesModem.Rust.NegotiationSteps
