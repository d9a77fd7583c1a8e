import SnesModem.Lib.Run
import SnesModem.Rust.MagicNumber
import SnesModem.Rust.NegotiationSteps

/-!
# An LCP machine on a looped-back line

One machine of the reference crate that receives its own packets, in the order in which it has sent them, but for
those that the line loses.

* `Queued`, `InOrder`: the packets on the line, those of the current request and of the one before, and their order;
* `Looping`: the invariant, with `looping_deliver` for the packet that arrives;
* `loopback_never_opens`: a machine that was opened once never gets to `Opened`.
-/

namespace SnesModem.Rust.LcpLoopback

open SnesModem.Lib SnesModem.Rust.ControlPacket SnesModem.Rust.Lcp SnesModem.Rust.Negotiation
open SnesModem.Rust.NegotiationSteps SnesModem.Rust.Negotiation.Machine SnesModem.Rust.MagicNumber

/-! ### The line -/

structure Loopback where
  machine : Machine
  /-- The actions that the machine has emitted. -/
  log : List Action
  /-- The packets that it has sent and the line still holds, the oldest first. -/
  line : List (List UInt8)

/-- A call of the machine: the packets it sends go to the end of the line. -/
def Loopback.call (s : Loopback) (outcome : Outcome) : Loopback where
  machine := outcome.1
  log := s.log ++ emitted outcome.2
  line := s.line ++ sentPackets (emitted outcome.2)

inductive Event where
  | doOpen (nowMs : ℕ)
  /-- The machine receives the oldest packet of the line. -/
  | deliver (nowMs : ℕ) (policy : SfcPolicy)
  /-- The line loses a packet. -/
  | drop (index : ℕ)
  | timeout (nowMs : ℕ)
  deriving DecidableEq, Repr

def Event.opens : Event → Bool
  | .doOpen _ => true
  | _ => false

def step (s : Loopback) : Event → Loopback
  | .doOpen nowMs => s.call (s.machine.doOpen nowMs)
  | .deliver nowMs policy =>
    match s.line with
    | [] => s
    | octets :: rest => { s with line := rest }.call (s.machine.receive octets nowMs policy)
  | .drop index => { s with line := s.line.eraseIdx index }
  | .timeout nowMs => s.call (s.machine.pollTimeout nowMs)

/-- The machine before its first call, and an empty line. -/
def start (m : Machine) : Loopback := ⟨m, [], []⟩

/-- The packets on the line. -/
def packetsOn (line : List (List UInt8)) : List Packet := line.filterMap fun octets => (Packet.parse octets).toOption

/-- The packets that a call sends. -/
def sentBy (outcome : Outcome) : List Packet := packetsOn (sentPackets (emitted outcome.2))

lemma packetsOn_append (line line' : List (List UInt8)) : packetsOn (line ++ line') = packetsOn line ++ packetsOn line' :=
  List.filterMap_append

/-- The packet that is encoded is the one that is parsed. -/
lemma parse_encode {code : Code} {identifier : UInt8} {data octets : List UInt8}
    (h : encode code identifier data = .ok octets) : Packet.parse octets = .ok ⟨code.octet, identifier, data⟩ := by
  have hparse := parsePacket_encodePacket parseErrors _ h []
  rw [List.append_nil] at hparse
  exact hparse

lemma packetsOn_encode {code : Code} {identifier : UInt8} {data octets : List UInt8}
    (h : encode code identifier data = .ok octets) : packetsOn [octets] = [⟨code.octet, identifier, data⟩] := by
  unfold packetsOn
  rw [List.filterMap_cons_some (by rw [parse_encode h]; rfl)]
  rfl

/-! ### The invariant -/

def IsRequest (packet : Packet) : Prop := knownCode packet = some .configureRequest

/-- One of the packets of a negotiation. -/
def IsConfigure (packet : Packet) : Prop :=
  ∃ code ∈ [Code.configureRequest, .configureAck, .configureNak, .configureReject], knownCode packet = some code

/-- A packet on the line: it is the current request, a negative answer to it, or has the identifier before. -/
inductive Queued (m : Machine) (packet : Packet) : Prop
  | request (hcode : IsRequest packet) (hid : packet.identifier = m.requestIdentifier)
      (hdata : packet.data = m.localOptions)
  | nak (hcode : knownCode packet = some .configureNak) (hid : packet.identifier = m.requestIdentifier)
      (suggestions : List ConfigurationOption) (hdata : packet.data = suggestions.flatMap Tlv.Item.encoded)
      (hkeeps : KeepsMagic suggestions)
  | reject (hcode : knownCode packet = some .configureReject) (hid : packet.identifier = m.requestIdentifier)
      (rejected : List ConfigurationOption) (hdata : packet.data = rejected.flatMap Tlv.Item.encoded)
      (hspares : SparesMagic rejected)
  | former (hcode : IsConfigure packet) (hid : packet.identifier + 1 = m.requestIdentifier)

/-- The order of two packets on the line: a current request is not followed by a former one, a current answer by
nothing former, and a former request by no current answer. -/
structure InOrder (identifier : UInt8) (earlier later : Packet) : Prop where
  requests : IsRequest earlier → earlier.identifier = identifier → IsRequest later → later.identifier = identifier
  answers : ¬ IsRequest earlier → earlier.identifier = identifier → later.identifier = identifier
  former : IsRequest earlier → earlier.identifier ≠ identifier → ¬ IsRequest later → later.identifier ≠ identifier

/-- The states of a machine that hears itself. -/
def Unopened (m : Machine) : Prop := m.state = .requestSent ∨ m.state = .ackSent ∨ m.state = .stopped

/-- **The invariant** of a machine that hears itself, and of its line. -/
structure Looping (m : Machine) (packets : List Packet) : Prop where
  state : Unopened m
  identifier : m.nextIdentifier = m.requestIdentifier
  options : ∃ options, m.localOptions = options.flatMap Tlv.Item.encoded ∧ UniqueMagic options
  queued : ∀ packet ∈ packets, Queued m packet
  ordered : packets.Pairwise (InOrder m.requestIdentifier)

/-- What a call leaves of the line, and that it opens nothing. -/
structure Goes (rest : List Packet) (outcome : Outcome) : Prop where
  looping : Looping outcome.1 (rest ++ sentBy outcome)
  unreported : reports (emitted outcome.2) = []

section Invariant

variable {m m' : Machine} {packet response : Packet} {packets rest : List Packet}

lemma succ_ne (identifier : UInt8) : identifier ≠ identifier + 1 := by
  intro h
  have hone : (1 : UInt8) = 0 := UInt8.left_eq_add.mp h
  exact absurd hone (by decide)

/-- A former packet does not have the current identifier. -/
lemma former_ne (h : packet.identifier + 1 = m.requestIdentifier) : packet.identifier ≠ m.requestIdentifier := by
  rw [← h]
  exact succ_ne packet.identifier

lemma Queued.configure (h : Queued m packet) : IsConfigure packet := by
  cases h with
  | request hcode _ _ => exact ⟨_, by simp, hcode⟩
  | nak hcode _ _ _ _ => exact ⟨_, by simp, hcode⟩
  | reject hcode _ _ _ _ => exact ⟨_, by simp, hcode⟩
  | former hcode _ => exact hcode

lemma Queued.congr (h : Queued m packet) (hid : m'.requestIdentifier = m.requestIdentifier)
    (hoptions : m'.localOptions = m.localOptions) : Queued m' packet := by
  cases h with
  | request hcode hcurrent hdata => exact .request hcode (hid ▸ hcurrent) (hoptions ▸ hdata)
  | nak hcode hcurrent suggestions hdata hkeeps => exact .nak hcode (hid ▸ hcurrent) suggestions hdata hkeeps
  | reject hcode hcurrent rejected hdata hspares => exact .reject hcode (hid ▸ hcurrent) rejected hdata hspares
  | former hcode hbefore => exact .former hcode (hid ▸ hbefore)

/-- A step of the machine within one request. -/
lemma Looping.congr (h : Looping m packets) (hstate : Unopened m') (hid : m'.requestIdentifier = m.requestIdentifier)
    (hnext : m'.nextIdentifier = m.nextIdentifier) (hoptions : m'.localOptions = m.localOptions) :
    Looping m' packets where
  state := hstate
  identifier := hnext.trans (h.identifier.trans hid.symm)
  options := hoptions ▸ h.options
  queued packet hmem := (h.queued packet hmem).congr hid hoptions
  ordered := hid ▸ h.ordered

/-- The line loses packets. -/
lemma Looping.sublist (h : Looping m packets) (hsublist : rest.Sublist packets) : Looping m rest :=
  ⟨h.state, h.identifier, h.options, fun packet hmem => h.queued packet (hsublist.subset hmem),
    h.ordered.sublist hsublist⟩

lemma Looping.tail (h : Looping m (packet :: rest)) : Looping m rest := h.sublist (List.sublist_cons_self _ _)

/-- A packet is put at the end of the line. -/
lemma Looping.append (h : Looping m packets) (hqueued : Queued m packet)
    (hordered : ∀ earlier ∈ packets, InOrder m.requestIdentifier earlier packet) : Looping m (packets ++ [packet]) where
  state := h.state
  identifier := h.identifier
  options := h.options
  queued := by
    intro other hmem
    rcases List.mem_append.mp hmem with hmem | hmem
    · exact h.queued other hmem
    · rw [List.mem_singleton.mp hmem]
      exact hqueued
  ordered := by
    rw [List.pairwise_append]
    refine ⟨h.ordered, List.pairwise_singleton _ _, ?_⟩
    intro earlier hearlier later hlater
    rw [List.mem_singleton.mp hlater]
    exact hordered earlier hearlier

/-- The current request may follow everything. -/
lemma Looping.append_request (h : Looping m packets) (hcode : IsRequest packet)
    (hid : packet.identifier = m.requestIdentifier) (hdata : packet.data = m.localOptions) :
    Looping m (packets ++ [packet]) := by
  apply h.append (.request hcode hid hdata)
  intro earlier _
  exact ⟨fun _ _ _ => hid, fun _ _ => hid, fun _ _ hnot => absurd hcode hnot⟩

/-- The answer to a request follows what the request was before. -/
lemma Looping.answer (h : Looping m (packet :: rest)) (hrequest : IsRequest packet) (hqueued : Queued m response)
    (hid : response.identifier = packet.identifier) (hcode : ¬ IsRequest response) : Looping m (rest ++ [response]) := by
  apply h.tail.append hqueued
  intro earlier hearlier
  have hafter := (List.pairwise_cons.mp h.ordered).1 earlier hearlier
  constructor
  · intro _ _ hresponse
    exact absurd hresponse hcode
  · intro hearlierCode hcurrent
    by_contra hne
    exact hafter.former hrequest (hid ▸ hne) hearlierCode hcurrent
  · intro hearlierCode hbefore _ hcurrent
    exact hbefore (hafter.requests hrequest (hid.symm.trans hcurrent) hearlierCode)

/-- The answer to the current request begins a new one: what follows on the line is all of the request before. -/
lemma Looping.advance (h : Looping m (packet :: rest)) (hcode : ¬ IsRequest packet)
    (hid : packet.identifier = m.requestIdentifier) (hstate : Unopened m')
    (hnew : m'.requestIdentifier = m.requestIdentifier + 1) (hnext : m'.nextIdentifier = m'.requestIdentifier)
    (hoptions : ∃ options, m'.localOptions = options.flatMap Tlv.Item.encoded ∧ UniqueMagic options) :
    Looping m' rest := by
  have hcurrent : ∀ other ∈ rest, other.identifier = m.requestIdentifier := by
    intro other hmem
    exact ((List.pairwise_cons.mp h.ordered).1 other hmem).answers hcode hid
  have hne : ∀ other ∈ rest, other.identifier ≠ m'.requestIdentifier := by
    intro other hmem
    rw [hcurrent other hmem, hnew]
    exact succ_ne _
  refine ⟨hstate, hnext, hoptions, ?_, ?_⟩
  · intro other hmem
    exact .former (h.tail.queued other hmem).configure (by rw [hcurrent other hmem, hnew])
  · apply List.Pairwise.imp_of_mem _ h.tail.ordered
    intro earlier later hearlier hlater _
    exact ⟨fun _ heq => absurd heq (hne earlier hearlier), fun _ heq => absurd heq (hne earlier hearlier),
      fun _ _ _ => hne later hlater⟩

end Invariant

/-! ### The calls -/

section Calls

variable {m m' : Machine} {packet : Packet} {packets rest : List Packet}

/-- A call that sends nothing. -/
lemma Goes.silent (h : Looping m' rest) (transition : Transition) (hpackets : sentPackets transition.actions = [])
    (hreports : reports transition.actions = []) : Goes rest (m', .ok transition) where
  looping := by
    unfold sentBy emitted
    rw [hpackets]
    simpa [packetsOn] using h
  unreported := hreports

lemma Goes.ignored (h : Looping m rest) (reason : Option IgnoreReason) : Goes rest (m, .ok { ignored := reason }) :=
  .silent h _ rfl rfl

/-- A call that ends with the current request. -/
lemma Goes.request (h : Looping m' rest) : Goes rest (m', sending [] m'.encodeRequest) where
  looping := by
    unfold sentBy Machine.encodeRequest
    cases hencode : encode .configureRequest m'.requestIdentifier m'.localOptions with
    | error error => simpa [sending, Except.map, emitted, sentPackets, packetsOn] using h
    | ok octets =>
      have hsent : sentPackets (emitted (sending [] (.ok octets))) = [octets] := rfl
      rw [hsent, packetsOn_encode hencode]
      exact h.append_request (Code.fromOctet_octet .configureRequest) rfl rfl
  unreported := reports_sending rfl _

/-- What a new request changes. -/
lemma sendNewRequest_eq (m : Machine) (nowMs : ℕ) (resetCounter : Bool) : ∃ m', m.sendNewRequest nowMs resetCounter =
    (m', m'.encodeRequest) ∧ m'.state = m.state ∧ m'.localOptions = m.localOptions ∧
      m'.requestIdentifier = m.nextIdentifier + 1 ∧ m'.nextIdentifier = m.nextIdentifier + 1 :=
  ⟨_, rfl, rfl, rfl, rfl, rfl⟩

/-- **The answer to the current request** is followed by a new one. -/
lemma goes_afterNegativeResponse (h : Looping m (packet :: rest)) (hcode : ¬ IsRequest packet)
    (hid : packet.identifier = m.requestIdentifier) (hactive : m.state = .requestSent ∨ m.state = .ackSent)
    (hstate : m'.state = m.state) (hnext : m'.nextIdentifier = m.nextIdentifier)
    (hoptions : ∃ options, m'.localOptions = options.flatMap Tlv.Item.encoded ∧ UniqueMagic options) (nowMs : ℕ) :
    Goes rest (m'.afterNegativeResponse nowMs) := by
  have hunopened : m'.state ≠ .opened := by
    rw [hstate]
    rcases hactive with hsent | hsent
    · simp [hsent]
    · simp [hsent]
  unfold Machine.afterNegativeResponse
  dsimp only
  rw [if_neg hunopened]
  obtain ⟨new, hsend, hnewState, hnewOptions, hnewId, hnewNext⟩ := sendNewRequest_eq
    { m' with state := if m'.state = .ackSent then .ackSent else .requestSent } nowMs
    (decide (m'.state = .requestSent ∨ m'.state = .ackSent))
  rw [hsend]
  apply Goes.request
  apply h.advance hcode hid
  · unfold Unopened
    rw [hnewState]
    dsimp only
    split
    · exact Or.inr (Or.inl rfl)
    · exact Or.inl rfl
  · rw [hnewId, ← h.identifier]
    exact congrArg (· + 1) hnext
  · rw [hnewNext, hnewId]
  · rw [hnewOptions]
    exact hoptions

lemma goes_receiveConfigureNak (h : Looping m (packet :: rest)) (hcode : knownCode packet = some .configureNak)
    (hactive : m.state = .requestSent ∨ m.state = .ackSent) (nowMs : ℕ) :
    Goes rest (m.receiveConfigureNak packet nowMs) := by
  have hnot : ¬ IsRequest packet := by simp [IsRequest, hcode]
  unfold Machine.receiveConfigureNak
  cases h.queued packet List.mem_cons_self with
  | request hrequest _ _ => exact absurd hrequest hnot
  | reject hreject _ _ _ _ =>
    rw [hcode] at hreject
    contradiction
  | former _ hbefore =>
    rw [if_pos (former_ne hbefore)]
    exact .ignored h.tail _
  | nak _ hid suggestions hdata hkeeps =>
    rw [if_neg (not_not.mpr hid), hdata, collectOptions_flatMap]
    dsimp only
    split
    · exact .ignored h.tail _
    · obtain ⟨options, hoptions, hunique⟩ := h.options
      obtain ⟨updated, happly, hupdated⟩ := uniqueMagic_applyNak hunique hkeeps
      apply goes_afterNegativeResponse h hnot hid hactive
      · rfl
      · rfl
      · exact ⟨updated, by rw [← happly, ← hoptions], hupdated⟩

lemma goes_receiveConfigureReject (h : Looping m (packet :: rest)) (hcode : knownCode packet = some .configureReject)
    (hactive : m.state = .requestSent ∨ m.state = .ackSent) (nowMs : ℕ) :
    Goes rest (m.receiveConfigureReject packet nowMs) := by
  have hnot : ¬ IsRequest packet := by simp [IsRequest, hcode]
  unfold Machine.receiveConfigureReject
  cases h.queued packet List.mem_cons_self with
  | request hrequest _ _ => exact absurd hrequest hnot
  | nak hnak _ _ _ _ =>
    rw [hcode] at hnak
    contradiction
  | former _ hbefore =>
    rw [if_pos (former_ne hbefore)]
    exact .ignored h.tail _
  | reject _ hid rejected hdata hspares =>
    rw [if_neg (not_not.mpr hid), hdata, collectOptions_flatMap]
    dsimp only
    split
    · exact .ignored h.tail _
    · rename_i updated happly
      obtain ⟨options, hoptions, hunique⟩ := h.options
      rw [hoptions] at happly
      obtain ⟨remaining, hupdated, hremaining⟩ := uniqueMagic_applyReject hunique hspares happly
      apply goes_afterNegativeResponse h hnot hid hactive
      · rfl
      · rfl
      · exact ⟨remaining, hupdated, hremaining⟩

/-- An Ack on the line is that of a request before. -/
lemma goes_receiveConfigureAck (h : Looping m (packet :: rest)) (hcode : knownCode packet = some .configureAck)
    (nowMs : ℕ) : Goes rest (m.receiveConfigureAck packet nowMs) := by
  have hformer : packet.identifier ≠ m.requestIdentifier := by
    cases h.queued packet List.mem_cons_self with
    | request hrequest _ _ =>
      unfold IsRequest at hrequest
      rw [hcode] at hrequest
      contradiction
    | nak hnak _ _ _ _ =>
      rw [hcode] at hnak
      contradiction
    | reject hreject _ _ _ _ =>
      rw [hcode] at hreject
      contradiction
    | former _ hbefore => exact former_ne hbefore
  unfold Machine.receiveConfigureAck
  rw [if_pos (by simp [exactlyAcknowledges, hformer])]
  exact .ignored h.tail _

/-- A call that answers a request with one packet. -/
lemma Goes.answer {code : Code} {octets data : List UInt8} (h : Looping m (packet :: rest)) (hrequest : IsRequest packet)
    (hencode : encode code packet.identifier data = .ok octets)
    (hqueued : Queued m ⟨code.octet, packet.identifier, data⟩) (hcode : code ≠ .configureRequest)
    (hstate : Unopened m') (hid : m'.requestIdentifier = m.requestIdentifier)
    (hnext : m'.nextIdentifier = m.nextIdentifier) (hoptions : m'.localOptions = m.localOptions) :
    Goes rest (m', .ok { actions := [.sendPacket octets] }) where
  looping := by
    have hsent : sentBy (m', .ok { actions := [.sendPacket octets] }) = packetsOn [octets] := rfl
    rw [hsent, packetsOn_encode hencode]
    refine (h.answer hrequest hqueued rfl ?_).congr hstate hid hnext hoptions
    unfold IsRequest knownCode
    rw [Code.fromOctet_octet]
    exact fun heq => hcode (Option.some_inj.mp heq)
  unreported := rfl

/-- The answer to a request on the line, the current one or one before. -/
lemma queued_evaluation {policy : SfcPolicy} {evaluation : PeerEvaluation} (h : Looping m (packet :: rest))
    (hrequest : IsRequest packet)
    (hevaluation : evaluatePeerRequest packet policy (localMagic m.localOptions) = .ok evaluation) :
    Queued m ⟨evaluation.code.octet, packet.identifier, evaluation.data⟩ := by
  have hcode (code : Code) : knownCode ⟨code.octet, packet.identifier, evaluation.data⟩ = some code :=
    Code.fromOctet_octet code
  cases h.queued packet List.mem_cons_self with
  | nak hnak _ _ _ _ =>
    unfold IsRequest at hrequest
    rw [hrequest] at hnak
    contradiction
  | reject hreject _ _ _ _ =>
    unfold IsRequest at hrequest
    rw [hrequest] at hreject
    contradiction
  | former _ hbefore =>
    refine .former ⟨evaluation.code, ?_, hcode _⟩ hbefore
    rcases PeerRequest.evaluatePeerRequest_code hevaluation with h | h | h
    · simp [h]
    · simp [h]
    · simp [h]
  | request _ hid hdata =>
    obtain ⟨options, hoptions, hunique⟩ := h.options
    rw [← hdata] at hevaluation hoptions
    rcases (evaluatePeerRequest_own hunique hoptions hevaluation).negative with
      ⟨hnak, suggestions, hsuggested, hkeeps⟩ | ⟨hreject, rejected, hrejected, hspares⟩
    · exact .nak (by rw [hcode, hnak]) hid suggestions hsuggested hkeeps
    · exact .reject (by rw [hcode, hreject]) hid rejected hrejected hspares

lemma goes_receiveConfigureRequest (h : Looping m (packet :: rest)) (hrequest : IsRequest packet)
    (hactive : m.state = .requestSent ∨ m.state = .ackSent) (nowMs : ℕ) (policy : SfcPolicy) :
    Goes rest (m.receiveConfigureRequest packet nowMs policy) := by
  unfold Machine.receiveConfigureRequest
  cases hevaluation : evaluatePeerRequest packet policy (localMagic m.localOptions) with
  | error error => exact .ignored h.tail _
  | ok evaluation =>
    dsimp only
    cases hencode : encode evaluation.code packet.identifier evaluation.data with
    | error error =>
      refine ⟨?_, rfl⟩
      simpa [sentBy, emitted, sentPackets, packetsOn] using h.tail
    | ok response =>
      dsimp only
      have hqueued := queued_evaluation h hrequest hevaluation
      have hcode : evaluation.code ≠ .configureRequest := by
        rcases PeerRequest.evaluatePeerRequest_code hevaluation with h | h | h
        · simp [h]
        · simp [h]
        · simp [h]
      have hunopened (acceptable : Bool) : Unopened { m with state := if acceptable then .ackSent else .requestSent } := by
        cases acceptable
        · exact Or.inl rfl
        · exact Or.inr (Or.inl rfl)
      by_cases hack : evaluation.code = .configureAck
      · rw [if_pos (decide_eq_true hack)]
        rcases hactive with hstate | hstate
        · rw [hstate]
          exact .answer h hrequest hencode hqueued hcode (hunopened _) rfl rfl rfl
        · rw [hstate]
          exact .answer h hrequest hencode hqueued hcode (hunopened _) rfl rfl rfl
      · rw [if_neg (by simpa using hack)]
        rcases hactive with hstate | hstate
        · rw [hstate]
          exact .answer h hrequest hencode hqueued hcode (hunopened _) rfl rfl rfl
        · rw [hstate]
          exact .answer h hrequest hencode hqueued hcode (hunopened _) rfl rfl rfl

/-- **The packet that arrives** leaves the invariant. -/
theorem looping_deliver {octets : List UInt8} (h : Looping m (packet :: rest))
    (hparse : Packet.parse octets = .ok packet) (nowMs : ℕ) (policy : SfcPolicy) :
    Goes rest (m.receive octets nowMs policy) := by
  by_cases hactive : m.state = .requestSent ∨ m.state = .ackSent
  · have hnot : ¬ (m.state = .closed ∨ m.state = .stopped) := by
      rcases hactive with hstate | hstate
      · simp [hstate]
      · simp [hstate]
    have hclosing : ¬ (m.state = .closing ∧ (knownCode packet).any closingIgnores) := by
      rcases hactive with hstate | hstate
      · simp [hstate]
      · simp [hstate]
    unfold Machine.receive
    rw [if_neg hnot, hparse]
    dsimp only
    rw [if_neg hclosing]
    obtain ⟨code, hmem, hcode⟩ := (h.queued packet List.mem_cons_self).configure
    rw [hcode]
    simp only [List.mem_cons, List.not_mem_nil, or_false] at hmem
    rcases hmem with rfl | rfl | rfl | rfl
    · exact goes_receiveConfigureRequest h hcode hactive nowMs policy
    · exact goes_receiveConfigureAck h hcode nowMs
    · exact goes_receiveConfigureNak h hcode hactive nowMs
    · exact goes_receiveConfigureReject h hcode hactive nowMs
  · have hstopped : m.state = .stopped := by
      rcases h.state with hstate | hstate | hstate
      · exact absurd (Or.inl hstate) hactive
      · exact absurd (Or.inr hstate) hactive
      · exact hstate
    unfold Machine.receive
    rw [if_pos (Or.inr hstopped)]
    exact .ignored h.tail _

lemma looping_timeout (h : Looping m packets) (nowMs : ℕ) : Goes packets (m.pollTimeout nowMs) := by
  have hclosing : m.state ≠ .closing := by
    rcases h.state with hstate | hstate | hstate
    · simp [hstate]
    · simp [hstate]
    · simp [hstate]
  unfold Machine.pollTimeout
  split
  · exact .ignored h none
  · rename_i deadline _
    dsimp only
    by_cases hearly : nowMs < deadline
    · rw [if_pos hearly]
      exact .ignored h none
    rw [if_neg hearly, if_neg hclosing]
    split
    · apply Goes.silent _ {} rfl rfl
      exact h.congr h.state rfl rfl rfl
    split
    · apply Goes.silent _ { actions := [.thisLayerFinished] } rfl rfl
      exact h.congr (Or.inr (Or.inr rfl)) rfl rfl rfl
    · apply Goes.request
      refine h.congr ?_ rfl rfl rfl
      unfold Unopened
      dsimp only
      split
      · exact Or.inl rfl
      · exact h.state

end Calls

/-! ### Runs -/

/-- The machine hears itself, and has not reported a configuration. -/
structure Hears (s : Loopback) : Prop where
  looping : Looping s.machine (packetsOn s.line)
  unreported : reports s.log = []

section Runs

variable {s : Loopback} {m : Machine} {localOptions : List UInt8} {settings : Settings}

lemma Goes.hears {outcome : Outcome} (h : Goes (packetsOn s.line) outcome) (hlog : reports s.log = []) :
    Hears (s.call outcome) where
  looping := by
    change Looping outcome.1 (packetsOn (s.line ++ sentPackets (emitted outcome.2)))
    rw [packetsOn_append]
    exact h.looping
  unreported := by
    change reports (s.log ++ emitted outcome.2) = []
    unfold reports
    rw [List.filterMap_append]
    exact List.append_eq_nil_iff.mpr ⟨hlog, h.unreported⟩

/-- **The step lemma.** -/
theorem hears_step (s : Loopback) (event : Event) (h : Hears s) (hevent : event.opens = false) : Hears (step s event) := by
  cases event with
  | doOpen nowMs => contradiction
  | drop index =>
    exact ⟨h.looping.sublist ((List.eraseIdx_sublist _ _).filterMap _), h.unreported⟩
  | timeout nowMs => exact (looping_timeout h.looping nowMs).hears h.unreported
  | deliver nowMs policy =>
    unfold step
    dsimp only
    split
    · exact h
    · rename_i octets rest hline
      have hlooping := h.looping
      rw [hline] at hlooping
      unfold packetsOn at hlooping
      cases hparse : Packet.parse octets with
      | ok packet =>
        rw [List.filterMap_cons_some (by rw [hparse]; rfl)] at hlooping
        exact Goes.hears (s := { s with line := rest }) (looping_deliver hlooping hparse nowMs policy) h.unreported
      | error error =>
        -- Octets that are no packet are never sent, and would be ignored.
        rw [List.filterMap_cons_none (by rw [hparse]; rfl)] at hlooping
        have hignored : ∃ reason, s.machine.receive octets nowMs policy = (s.machine, .ok { ignored := reason }) := by
          unfold Machine.receive
          split
          · exact ⟨_, rfl⟩
          · rw [hparse]
            exact ⟨_, rfl⟩
        obtain ⟨reason, hignored⟩ := hignored
        rw [hignored]
        exact Goes.hears (s := { s with line := rest }) (.ignored hlooping reason) h.unreported

/-- A new machine is closed and has no deadline, and its options can be read. -/
lemma new_eq (h : Machine.new localOptions settings = .ok m) : m.state = .closed ∧ m.restartDeadlineMs = none ∧
    m.localOptions = (Tlv.items localOptions).1.flatMap Tlv.Item.encoded := by
  unfold Machine.new collectOptions at h
  cases hitems : Tlv.items localOptions with
  | mk options fault =>
    have hread := Tlv.flatMap_items localOptions
    rw [hitems] at h hread
    cases fault with
    | some fault => contradiction
    | none =>
      cases h
      exact ⟨rfl, rfl, (hread rfl).symm⟩

/-- Nothing happens before the machine is opened. -/
lemma step_start (h : m.restartDeadlineMs = none) {event : Event} (hevent : event.opens = false) :
    step (start m) event = start m := by
  cases event with
  | doOpen nowMs => contradiction
  | deliver nowMs policy => rfl
  | drop index => rfl
  | timeout nowMs =>
    unfold step Machine.pollTimeout
    dsimp only [start]
    rw [h]
    rfl

lemma hears_open {options : List ConfigurationOption} (hstate : m.state = .closed)
    (hoptions : m.localOptions = options.flatMap Tlv.Item.encoded) (hunique : UniqueMagic options) (nowMs : ℕ) : Hears (step (start m) (.doOpen nowMs)) := by
  have hgoes : Goes [] (m.doOpen nowMs) := by
    unfold Machine.doOpen
    rw [if_neg (by simp [hstate])]
    obtain ⟨new, hsend, hnewState, hnewOptions, hnewId, hnewNext⟩ := sendNewRequest_eq
      { m with state := .requestSent, peerConfiguration := none, acknowledgedLocalMagic := none } nowMs true
    rw [hsend]
    apply Goes.request
    refine ⟨Or.inl hnewState, hnewNext.trans hnewId.symm, ⟨options, hnewOptions.trans hoptions, hunique⟩, nofun, ?_⟩
    exact List.Pairwise.nil
  exact Goes.hears (s := start m) hgoes rfl

lemma hears_run {events : List Event} (h : Hears s) (hevents : ∀ event ∈ events, event.opens = false) :
    Hears (Run.run step s events) := by
  induction events generalizing s with
  | nil => exact h
  | cons event events ih =>
    rw [Run.run_cons]
    apply ih (hears_step s event h (hevents event List.mem_cons_self))
    intro later hlater
    exact hevents later (List.mem_cons_of_mem _ hlater)

/-- A run in which the machine is opened at most once: it has not been opened, or it hears itself. -/
lemma run_cases (hnew : Machine.new localOptions settings = .ok m) (hunique : UniqueMagic (Tlv.items localOptions).1)
    {events : List Event} (honce : events.countP Event.opens ≤ 1) :
    Run.run step (start m) events = start m ∨ Hears (Run.run step (start m) events) := by
  obtain ⟨hstate, hdeadline, hlocal⟩ := new_eq hnew
  induction events with
  | nil => exact Or.inl rfl
  | cons event events ih =>
    rw [Run.run_cons]
    cases hopens : event.opens with
    | false =>
      rw [List.countP_cons_of_neg (by simp [hopens])] at honce
      rw [step_start hdeadline hopens]
      exact ih honce
    | true =>
      rw [List.countP_cons_of_pos hopens] at honce
      have hnone : events.countP Event.opens = 0 := by omega
      cases event with
      | doOpen nowMs =>
        refine Or.inr (hears_run (hears_open hstate hlocal hunique nowMs) ?_)
        intro later hlater
        rw [List.countP_eq_zero] at hnone
        simpa using hnone later hlater
      | deliver nowMs policy => contradiction
      | drop index => contradiction
      | timeout nowMs => contradiction

end Runs

/-- **A machine on a looped-back line never opens**, whatever is lost and however late it is. -/
theorem loopback_never_opens {localOptions : List UInt8} {settings : Settings} {m : Machine}
    (hnew : Machine.new localOptions settings = .ok m) (hunique : UniqueMagic (Tlv.items localOptions).1)
    (events : List Event) (honce : events.countP Event.opens ≤ 1) :
    (Run.run step (start m) events).machine.state ≠ .opened ∧
      ∀ configuration, Action.thisLayerUp configuration ∉ (Run.run step (start m) events).log := by
  rcases run_cases hnew hunique honce with hstart | hhears
  · rw [hstart]
    refine ⟨?_, nofun⟩
    change m.state ≠ .opened
    simp [(new_eq hnew).1]
  · constructor
    · rcases hhears.looping.state with hstate | hstate | hstate
      · simp [hstate]
      · simp [hstate]
      · simp [hstate]
    · intro configuration hmem
      have hreported : configuration ∈ reports (Run.run step (start m) events).log :=
        List.mem_filterMap.mpr ⟨_, hmem, rfl⟩
      rw [hhears.unreported] at hreported
      contradiction

/-- The machine hears its request, then its own Nak, and requests the Magic-Number that it has suggested. -/
theorem loopback_never_opens_naked : ∃ m, Machine.new [5, 6, 1, 2, 3, 4] ⟨3000, 10, 2⟩ = .ok m ∧
    let s := Run.run step (start m) [.doOpen 0, .timeout 3000, .deliver 3001 {}, .deliver 3002 {}, .deliver 3003 {}]
    s.machine.requestIdentifier = 2 ∧ s.machine.state ≠ .opened := by
  refine ⟨_, rfl, by decide +kernel, ?_⟩
  have hnew : Machine.new [5, 6, 1, 2, 3, 4] ⟨3000, 10, 2⟩ = .ok _ := rfl
  exact (loopback_never_opens hnew (by decide +kernel) _ (by decide)).1

end SnesModem.Rust.LcpLoopback
