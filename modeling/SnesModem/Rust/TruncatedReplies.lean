import SnesModem.Rust.CodecInverses
import SnesModem.Rust.LcpRun

/-!
# Packets that carry back what was received

Echo-Reply, Code-Reject and Protocol-Reject carry octets of the peer back to it, as many as its MRU leaves room for
behind the fixed fields.

* `Truncated`: a packet with the longest prefix that fits, and `truncated_encode`: how it comes about;
* `sent_rejectProtocol`, `sent_receiveEchoRequest`, `sent_receiveUnknownCode`: the three builders;
* `Plain`: the calls that send other packets only;
* `replies_fit`: what any call of any machine sends.
-/

namespace SnesModem.Rust.TruncatedReplies

open SnesModem.Lib SnesModem.Rust.ControlPacket SnesModem.Rust.Lcp SnesModem.Rust.Negotiation
open SnesModem.Rust.Negotiation.Machine SnesModem.Rust.NegotiationSteps SnesModem.Rust.LcpRun
open SnesModem.Rust.CodecInverses (declaredLength parsePacket_ok)

/-! ### The longest prefix that fits -/

/-- The packet consists of its header, of the fixed fields and of the longest prefix of the data with which it does not
exceed the limit. -/
structure Truncated (limit : ℕ) (code : Code) (identifier : UInt8) (fixed data packet : List UInt8) : Prop where
  length_le : packet.length ≤ limit
  declared : declaredLength packet = packet.length
  contents : ∃ kept ≤ data.length,
    packet = code.octet :: identifier :: BigEndian.octets 2 packet.length ++ (fixed ++ data.take kept)
  longest : ∀ length ≤ data.length, headerLength + fixed.length + length ≤ limit →
    headerLength + fixed.length + length ≤ packet.length

lemma Truncated.head {limit : ℕ} {code : Code} {identifier : UInt8} {fixed data packet : List UInt8}
    (h : Truncated limit code identifier fixed data packet) : packet.head? = some code.octet := by
  obtain ⟨kept, -, hpacket⟩ := h.contents
  rw [hpacket]
  rfl

section Encode

variable {code : Code} {identifier : UInt8} {packet : List UInt8}

/-- The octets of an encoded packet. -/
lemma encode_eq_ok {data : List UInt8} (h : encode code identifier data = .ok packet) :
    packet = code.octet :: identifier :: BigEndian.octets 2 packet.length ++ data ∧
      packet.length = headerLength + data.length ∧ declaredLength packet = packet.length := by
  have hfits : headerLength + data.length < 2 ^ 16 := by
    by_contra hlong
    rw [encode, encodePacket, if_neg hlong] at h
    cases h
  rw [encode, encodePacket, if_pos hfits] at h
  cases h
  have hlength : (code.octet :: identifier :: BigEndian.octets 2 (headerLength + data.length) ++ data).length =
      headerLength + data.length := by
    simp [headerLength]
    omega
  have hdeclared : declaredLength (code.octet :: identifier :: BigEndian.octets 2 (headerLength + data.length) ++ data) =
      BigEndian.value (BigEndian.octets 2 (headerLength + data.length)) := rfl
  refine ⟨by rw [hlength], hlength, ?_⟩
  rw [hlength, hdeclared, BigEndian.value_octets 2 _ (by simpa using hfits)]

lemma head_encode {data : List UInt8} (h : encode code identifier data = .ok packet) :
    packet.head? = some code.octet := by
  rw [(encode_eq_ok h).1]
  rfl

/-- **The cut to the room behind the fixed fields** gives the longest prefix that fits. -/
theorem truncated_encode {limit room : ℕ} {fixed data : List UInt8} (hroom : room = limit - (headerLength + fixed.length))
    (hlimit : headerLength + fixed.length ≤ limit) (h : encode code identifier (fixed ++ data.take room) = .ok packet) :
    Truncated limit code identifier fixed data packet := by
  obtain ⟨hpacket, hlength, hdeclared⟩ := encode_eq_ok h
  rw [List.length_append, List.length_take] at hlength
  refine ⟨by omega, hdeclared, ⟨min room data.length, by omega, ?_⟩, fun length hdata hfits => by omega⟩
  rw [← List.take_eq_take_min]
  exact hpacket

end Encode

/-! ### The three builders -/

section Builders

variable {m : Machine} {packet : List UInt8}

/-- What is sent at the end of a call that ends with one packet. -/
lemma sent_sending {before : List Action} (hbefore : ∀ octets, .sendPacket octets ∉ before)
    {result : Except MachineError (List UInt8)} (h : .sendPacket packet ∈ emitted (sending before result)) :
    result = .ok packet := by
  cases result with
  | error error => simp [sending, emitted, Except.map] at h
  | ok octets =>
    simp only [sending, emitted, Except.map, List.mem_append, List.mem_singleton, Action.sendPacket.injEq] at h
    rcases h with h | rfl
    · exact absurd h (hbefore packet)
    · rfl

lemma sent_rejectProtocol {protocol : UInt16} {information : List UInt8}
    (h : .sendPacket packet ∈ emitted (m.rejectProtocol protocol information).2) :
    Truncated (m.peerMru 6) .protocolReject (m.nextIdentifier + 1) (BigEndian.octets 2 protocol.toNat) information
      packet := by
  have hlimit : 6 ≤ m.peerMru 6 := Nat.le_max_right _ _
  have hfixed : headerLength + (BigEndian.octets 2 protocol.toNat).length = 6 := by rw [BigEndian.length_octets]
  unfold rejectProtocol at h
  split_ifs at h
  · simp [emitted] at h
  · exact truncated_encode (by rw [hfixed]) (hfixed.trans_le hlimit) (sent_sending (by simp) h)

lemma sent_receiveEchoRequest {request : Packet} (h : .sendPacket packet ∈ emitted (m.receiveEchoRequest request).2) :
    Truncated (m.peerMru 8) .echoReply request.identifier (magicOctets (m.acknowledgedLocalMagic.getD 0))
      (request.data.drop 4) packet := by
  have hlimit : 8 ≤ m.peerMru 8 := Nat.le_max_right _ _
  have hfixed : headerLength + (magicOctets (m.acknowledgedLocalMagic.getD 0)).length = 8 := by
    rw [magicOctets, BigEndian.length_octets]
  unfold receiveEchoRequest at h
  dsimp only at h
  split_ifs at h
  · simp [emitted] at h
  · simp [emitted] at h
  · simp [emitted] at h
  · exact truncated_encode (by rw [hfixed]) (hfixed.trans_le hlimit) (sent_sending (by simp) h)

/-- The rejected packet ends with its declared Length. -/
lemma sent_receiveUnknownCode {input : List UInt8} {received : Packet} (hparse : Packet.parse input = .ok received)
    (h : .sendPacket packet ∈ emitted (m.receiveUnknownCode input received).2) :
    Truncated (m.peerMru 8) .codeReject (m.nextIdentifier + 1) [] (input.take (declaredLength input)) packet := by
  have hlimit : 8 ≤ m.peerMru 8 := Nat.le_max_right _ _
  have hheader : headerLength = 4 := rfl
  obtain ⟨hshort, hlong, hlength, -⟩ := parsePacket_ok hparse
  have hrejected : input.take (min (min (headerLength + received.data.length) input.length) (m.peerMru 8 - headerLength)) =
      (input.take (declaredLength input)).take (m.peerMru 8 - headerLength) := by
    rw [List.take_take]
    congr 1
    omega
  have hencode := sent_sending (by simp) h
  rw [hrejected] at hencode
  exact truncated_encode rfl (show 4 + 0 ≤ m.peerMru 8 by omega) hencode

end Builders

/-! ### The other packets -/

/-- The result sends Configure and Terminate packets only. -/
def Plain (result : Except MachineError Transition) : Prop :=
  ∀ packet, .sendPacket packet ∈ emitted result →
    ∃ code ∈ [Code.configureRequest, .configureAck, .configureNak, .configureReject, .terminateRequest, .terminateAck],
      packet.head? = some code.octet

section Plain

variable {m : Machine}

lemma plain_sending (code : Code) {before : List Action} (hbefore : ∀ octets, .sendPacket octets ∉ before)
    (hcode : code ∈ [Code.configureRequest, .configureAck, .configureNak, .configureReject, .terminateRequest,
      .terminateAck]) (identifier : UInt8) (data : List UInt8) :
    Plain (sending before (encode code identifier data)) :=
  fun _ hpacket => ⟨code, hcode, head_encode (sent_sending hbefore hpacket)⟩

lemma plain_silent {transition : Transition} (h : ∀ octets, .sendPacket octets ∉ transition.actions) :
    Plain (.ok transition) := fun packet hpacket => absurd hpacket (h packet)

lemma plain_encodeTerminateRequest {before : List Action} (hbefore : ∀ octets, .sendPacket octets ∉ before) :
    Plain (sending before m.encodeTerminateRequest) :=
  plain_sending .terminateRequest hbefore (by simp) m.terminateIdentifier []

/-- The layer goes down if it was up. -/
lemma not_mem_down (octets : List UInt8) : .sendPacket octets ∉ if m.state = .opened then [Action.thisLayerDown] else [] := by
  split <;> simp

lemma plain_doOpen (nowMs : ℕ) : Plain (m.doOpen nowMs).2 := by
  unfold doOpen
  split
  · exact plain_silent (by simp)
  · exact plain_sending .configureRequest (by simp) (by simp) _ _

lemma plain_doClose (nowMs : ℕ) : Plain (m.doClose nowMs).2 := by
  unfold doClose
  split
  · exact plain_silent (by simp)
  split
  · exact plain_silent (by simp)
  · dsimp only
    exact plain_encodeTerminateRequest not_mem_down

lemma plain_pollTimeout (nowMs : ℕ) : Plain (m.pollTimeout nowMs).2 := by
  unfold pollTimeout
  cases m.restartDeadlineMs with
  | none => exact plain_silent (by simp)
  | some deadline =>
    dsimp only
    split
    · exact plain_silent (by simp)
    split
    · split
      · exact plain_silent (by simp)
      · dsimp only
        exact plain_encodeTerminateRequest (by simp)
    split
    · exact plain_silent (by simp)
    split
    · exact plain_silent (by simp)
    · exact plain_sending .configureRequest (by simp) (by simp) _ _

lemma plain_receiveTerminateRequest (packet : Packet) : Plain (m.receiveTerminateRequest packet).2 := by
  unfold receiveTerminateRequest
  split
  · dsimp only
    exact plain_sending .terminateAck (by simp) (by simp) packet.identifier []
  · intro octets hsent
    cases hencode : encode .terminateAck packet.identifier [] with
    | error error => simp [hencode, emitted, Except.map] at hsent
    | ok response =>
      simp only [hencode, emitted, Except.map, List.mem_cons, Action.sendPacket.injEq] at hsent
      rcases hsent with rfl | hdown
      · exact ⟨.terminateAck, by simp, head_encode hencode⟩
      · exact absurd hdown (not_mem_down octets)

lemma plain_receiveTerminateAck (packet : Packet) : Plain (m.receiveTerminateAck packet).2 := by
  unfold receiveTerminateAck
  split_ifs <;> exact plain_silent (by simp)

lemma plain_sendNewRequest {before : List Action} (hbefore : ∀ octets, .sendPacket octets ∉ before) (nowMs : ℕ)
    (resetCounter : Bool) : Plain (sending before (m.sendNewRequest nowMs resetCounter).2) :=
  plain_sending .configureRequest hbefore (by simp) _ _

/-- The answer to a request is one of three packets. -/
lemma code_evaluatePeerRequest {packet : Packet} {policy : SfcPolicy} {magic : Option UInt32}
    {evaluation : PeerEvaluation} (h : evaluatePeerRequest packet policy magic = .ok evaluation) :
    evaluation.code = .configureReject ∨ evaluation.code = .configureNak ∨ evaluation.code = .configureAck := by
  unfold evaluatePeerRequest at h
  split at h
  · cases h
  · dsimp only at h
    split_ifs at h <;> cases h <;> simp

lemma plain_receiveConfigureRequest (packet : Packet) (nowMs : ℕ) (policy : SfcPolicy) :
    Plain (m.receiveConfigureRequest packet nowMs policy).2 := by
  unfold receiveConfigureRequest
  split
  · exact plain_silent (by simp)
  rename_i evaluation hevaluation
  split
  · exact fun octets hsent => by simp [emitted] at hsent
  rename_i response hresponse
  have hresponded : ∃ code ∈ [Code.configureRequest, .configureAck, .configureNak, .configureReject, .terminateRequest,
      .terminateAck], response.head? = some code.octet := by
    refine ⟨evaluation.code, ?_, head_encode hresponse⟩
    rcases code_evaluatePeerRequest hevaluation with h | h | h <;> simp [h]
  have hanswered {actions : List Action} (h : ∀ octets, .sendPacket octets ∈ actions → octets = response) :
      Plain (.ok { actions }) := by
    intro octets hsent
    rw [h octets hsent]
    exact hresponded
  dsimp only
  split
  · exact hanswered (by simp)
  · exact hanswered (by simp)
  · split
    · exact hanswered (by simp)
    · exact hanswered (by simp)
  · split
    · exact fun octets hsent => by simp [emitted] at hsent
    · rename_i m' request hrequest
      intro octets hsent
      have hencode := (congrArg Prod.snd hrequest : _ = Except.ok request)
      simp only [emitted, List.mem_cons, List.not_mem_nil, or_false, reduceCtorEq, false_or, Action.sendPacket.injEq] at hsent
      rcases hsent with rfl | rfl
      · exact ⟨.configureRequest, by simp, head_encode hencode⟩
      · exact hresponded
  · exact plain_silent (by simp)
  · exact plain_silent (by simp)
  · exact plain_silent (by simp)

lemma plain_afterNegativeResponse (nowMs : ℕ) : Plain (m.afterNegativeResponse nowMs).2 :=
  plain_sendNewRequest (not_mem_down (m := m)) _ _

lemma plain_receiveConfigureAck (packet : Packet) (nowMs : ℕ) : Plain (m.receiveConfigureAck packet nowMs).2 := by
  unfold receiveConfigureAck
  split
  · exact plain_silent (by simp [invalidResponse])
  dsimp only
  split
  · exact plain_silent (by simp)
  · exact plain_silent (by simp)
  · exact plain_sendNewRequest (by simp) _ _
  · exact plain_sendNewRequest (by simp) _ _
  · exact plain_silent (by simp)
  · exact plain_silent (by simp)
  · exact plain_silent (by simp)

lemma plain_receiveConfigureNak (packet : Packet) (nowMs : ℕ) : Plain (m.receiveConfigureNak packet nowMs).2 := by
  unfold receiveConfigureNak
  split
  · exact plain_silent (by simp [invalidResponse])
  split
  · exact plain_silent (by simp)
  split
  · exact plain_silent (by simp [invalidResponse])
  · exact plain_afterNegativeResponse _

lemma plain_receiveConfigureReject (packet : Packet) (nowMs : ℕ) : Plain (m.receiveConfigureReject packet nowMs).2 := by
  unfold receiveConfigureReject
  split
  · exact plain_silent (by simp [invalidResponse])
  split
  · exact plain_silent (by simp)
  split
  · exact plain_silent (by simp [invalidResponse])
  · exact plain_afterNegativeResponse _

/-- A packet that is received leads to a plain packet, to an Echo-Reply or to a Code-Reject. -/
lemma sent_receive {input : List UInt8} {nowMs : ℕ} {policy : SfcPolicy} {packet : List UInt8}
    (h : .sendPacket packet ∈ emitted (m.receive input nowMs policy).2) :
    Plain (m.receive input nowMs policy).2 ∨ ∃ received, Packet.parse input = .ok received ∧
      (knownCode received = some .echoRequest ∧ .sendPacket packet ∈ emitted (m.receiveEchoRequest received).2 ∨
        knownCode received = none ∧ .sendPacket packet ∈ emitted (m.receiveUnknownCode input received).2) := by
  unfold receive at h ⊢
  split at h
  · simp [emitted] at h
  rename_i hstate
  rw [if_neg hstate]
  cases hparse : Packet.parse input with
  | error error => simp [hparse, emitted] at h
  | ok received =>
    rw [hparse] at h
    dsimp only at h ⊢
    split at h
    · simp [emitted] at h
    rename_i hclosing
    rw [if_neg hclosing]
    cases hcode : knownCode received with
    | none =>
      rw [hcode] at h
      exact Or.inr ⟨received, rfl, Or.inr ⟨hcode, h⟩⟩
    | some code =>
      rw [hcode] at h
      cases code with
      | configureRequest => exact Or.inl (plain_receiveConfigureRequest _ _ _)
      | configureAck => exact Or.inl (plain_receiveConfigureAck _ _)
      | configureNak => exact Or.inl (plain_receiveConfigureNak _ _)
      | configureReject => exact Or.inl (plain_receiveConfigureReject _ _)
      | terminateRequest => exact Or.inl (plain_receiveTerminateRequest _)
      | terminateAck => exact Or.inl (plain_receiveTerminateAck _)
      | echoRequest => exact Or.inr ⟨received, rfl, Or.inl ⟨hcode, h⟩⟩
      | echoReply | discardRequest =>
        dsimp only at h
        split at h <;> simp [emitted] at h
      | codeReject | protocolReject => simp [emitted] at h

end Plain

/-! ### Every packet -/

section Sent

variable (m : Machine) (call : Call) (packet : List UInt8)

/-- The packet answers an Echo-Request: its identifier, the local magic, and what fits of its data. -/
def AnswersEcho : Prop :=
  ∃ input nowMs policy request, call = .receive input nowMs policy ∧ Packet.parse input = .ok request ∧
    knownCode request = some .echoRequest ∧
    Truncated (m.peerMru 8) .echoReply request.identifier (magicOctets (m.acknowledgedLocalMagic.getD 0))
      (request.data.drop 4) packet

/-- The packet rejects one of an unknown code: what fits of it, up to its declared Length. -/
def RejectsCode : Prop :=
  ∃ input nowMs policy received, call = .receive input nowMs policy ∧ Packet.parse input = .ok received ∧
    knownCode received = none ∧
    Truncated (m.peerMru 8) .codeReject (m.nextIdentifier + 1) [] (input.take (declaredLength input)) packet

/-- The packet rejects a protocol: the protocol, and what fits of the information. -/
def RejectsProtocol : Prop :=
  ∃ protocol information, call = .rejectProtocol protocol information ∧
    Truncated (m.peerMru 6) .protocolReject (m.nextIdentifier + 1) (BigEndian.octets 2 protocol.toNat) information packet

variable {m call packet}

/-- What any call of any machine sends. -/
lemma sent_cases (hsent : .sendPacket packet ∈ actions m call) :
    Plain (call.outcome m).2 ∨ AnswersEcho m call packet ∨ RejectsCode m call packet ∨ RejectsProtocol m call packet := by
  cases call with
  | doOpen nowMs => exact Or.inl (plain_doOpen nowMs)
  | doClose nowMs => exact Or.inl (plain_doClose nowMs)
  | lowerDown => exact Or.inl (plain_silent not_mem_down)
  | pollTimeout nowMs => exact Or.inl (plain_pollTimeout nowMs)
  | receive input nowMs policy =>
    rcases sent_receive hsent with h | ⟨received, hparse, ⟨hcode, h⟩ | ⟨hcode, h⟩⟩
    · exact Or.inl h
    · exact Or.inr (Or.inl ⟨input, nowMs, policy, received, rfl, hparse, hcode, sent_receiveEchoRequest h⟩)
    · exact Or.inr (Or.inr (Or.inl ⟨input, nowMs, policy, received, rfl, hparse, hcode, sent_receiveUnknownCode hparse h⟩))
  | rejectProtocol protocol information =>
    exact Or.inr (Or.inr (Or.inr ⟨protocol, information, rfl, sent_rejectProtocol hsent⟩))

/-- A packet has one code. -/
lemma head_ne {code code' : Code} (hhead : packet.head? = some code.octet) (hne : code.octet ≠ code'.octet) :
    packet.head? ≠ some code'.octet := by
  rw [hhead]
  exact mt Option.some.inj hne

lemma Plain.head_ne {result : Except MachineError Transition} (h : Plain result)
    (hsent : .sendPacket packet ∈ emitted result) : packet.head? ≠ some Code.echoReply.octet ∧
      packet.head? ≠ some Code.codeReject.octet ∧ packet.head? ≠ some Code.protocolReject.octet := by
  obtain ⟨code, hcode, hhead⟩ := h packet hsent
  simp only [List.mem_cons, List.not_mem_nil, or_false] at hcode
  rcases hcode with rfl | rfl | rfl | rfl | rfl | rfl <;>
    exact ⟨TruncatedReplies.head_ne hhead (by decide), TruncatedReplies.head_ne hhead (by decide),
      TruncatedReplies.head_ne hhead (by decide)⟩

lemma AnswersEcho.head (h : AnswersEcho m call packet) : packet.head? = some Code.echoReply.octet := by
  obtain ⟨_, _, _, _, -, -, -, htruncated⟩ := h
  exact htruncated.head

lemma RejectsCode.head (h : RejectsCode m call packet) : packet.head? = some Code.codeReject.octet := by
  obtain ⟨_, _, _, _, -, -, -, htruncated⟩ := h
  exact htruncated.head

lemma RejectsProtocol.head (h : RejectsProtocol m call packet) : packet.head? = some Code.protocolReject.octet := by
  obtain ⟨_, _, -, htruncated⟩ := h
  exact htruncated.head

end Sent

/-- **Every packet that carries back what was received fits**, whatever the machine, its call and the peer's MRU. -/
theorem replies_fit (m : Machine) (call : Call) (packet : List UInt8) (hsent : .sendPacket packet ∈ actions m call) :
    (packet.head? = some Code.echoReply.octet → AnswersEcho m call packet) ∧
    (packet.head? = some Code.codeReject.octet → RejectsCode m call packet) ∧
    (packet.head? = some Code.protocolReject.octet → RejectsProtocol m call packet) := by
  rcases sent_cases hsent with h | h | h | h
  · obtain ⟨hreply, hcode, hprotocol⟩ := h.head_ne hsent
    exact ⟨fun hhead => absurd hhead hreply, fun hhead => absurd hhead hcode, fun hhead => absurd hhead hprotocol⟩
  · exact ⟨fun _ => h, fun hhead => absurd hhead (head_ne h.head (by decide)),
      fun hhead => absurd hhead (head_ne h.head (by decide))⟩
  · exact ⟨fun hhead => absurd hhead (head_ne h.head (by decide)), fun _ => h,
      fun hhead => absurd hhead (head_ne h.head (by decide))⟩
  · exact ⟨fun hhead => absurd hhead (head_ne h.head (by decide)),
      fun hhead => absurd hhead (head_ne h.head (by decide)), fun _ => h⟩

/-- A machine that is open towards a peer with an MRU of nine octets. -/
def narrow : Machine where
  state := .opened
  settings := ⟨3000, 10, 2⟩
  localOptions := []
  requestIdentifier := 1
  terminateIdentifier := 0
  nextIdentifier := 1
  restartRemaining := 10
  restartDeadlineMs := none
  peerConfiguration := some { transmitMru := 9 }
  acknowledgedLocalMagic := some 0x01020304

/-- One octet of an Echo-Request, five of an unknown packet and three of an information fit. -/
theorem replies_fit_narrow :
    AnswersEcho narrow (.receive [9, 5, 0, 10, 0, 0, 0, 0, 7, 8, 0xff] 0 {}) [10, 5, 0, 9, 1, 2, 3, 4, 7] ∧
      RejectsCode narrow (.receive [14, 5, 0, 6, 7, 8, 0xff] 0 {}) [7, 2, 0, 9, 14, 5, 0, 6, 7] ∧
      RejectsProtocol narrow (.rejectProtocol 0x80fd [1, 2, 3, 4]) [8, 2, 0, 9, 0x80, 0xfd, 1, 2, 3] :=
  ⟨(replies_fit _ _ _ (by decide)).1 rfl, (replies_fit _ _ _ (by decide)).2.1 rfl,
    (replies_fit _ _ _ (by decide)).2.2 rfl⟩

end SnesModem.Rust.TruncatedReplies
