import SnesModem.Rust.NegotiationSteps

/-!
# Two LCP machines over lossy channels

Two machines of the reference crate, each sending into a channel of its own that keeps the order of what it
does not lose, and every interleaving of their calls with deliveries and losses.

* `Pair`, `step`, `run`: the system;
* `Direction`: what holds of one machine's requests and the other's answers, kept by every step of either
  side as long as identifiers are not used twice (`run_directions`);
* `opened_agree`: two opened machines hold the configurations that they encode for each other.
-/

namespace SnesModem.Rust.LcpPair

open SnesModem.Lib SnesModem.Rust.ControlPacket SnesModem.Rust.Lcp SnesModem.Rust.Negotiation
open SnesModem.Rust.PeerRequest SnesModem.Rust.NegotiationSteps

/-! ### The system -/

inductive Side where
  | left | right
  deriving DecidableEq, Repr

def Side.other : Side → Side
  | .left => .right
  | .right => .left

/-- A machine with its history. -/
structure Endpoint where
  machine : Machine
  /-- The actions it has emitted. -/
  log : List Action
  /-- How many identifiers it has allocated. -/
  allocated : ℕ
  deriving DecidableEq

structure Pair where
  endpoint : Side → Endpoint
  /-- The packets that a side has sent and the channel still holds, oldest first. -/
  sent : Side → List (List UInt8)

/-- The endpoint after a call of its machine. A call allocates one identifier at most. -/
def Endpoint.settle (e : Endpoint) (outcome : Machine.Outcome) : Endpoint where
  machine := outcome.1
  log := e.log ++ emitted outcome.2
  allocated := e.allocated + (outcome.1.nextIdentifier - e.machine.nextIdentifier).toNat

/-- A call of one side's machine: the packets it sends go to the end of the side's channel. -/
def Pair.call (p : Pair) (side : Side) (outcome : Machine.Outcome) : Pair where
  endpoint := Function.update p.endpoint side ((p.endpoint side).settle outcome)
  sent := Function.update p.sent side (p.sent side ++ sentPackets (emitted outcome.2))

inductive Event where
  | doOpen (side : Side) (nowMs : ℕ)
  /-- The side receives the oldest packet that the other side has sent. -/
  | deliver (side : Side) (nowMs : ℕ) (policy : SfcPolicy)
  /-- The side's channel loses a packet. -/
  | drop (side : Side) (index : ℕ)
  | timeout (side : Side) (nowMs : ℕ)
  deriving DecidableEq, Repr

def step (p : Pair) : Event → Pair
  | .doOpen side nowMs => p.call side ((p.endpoint side).machine.doOpen nowMs)
  | .deliver side nowMs policy =>
    match p.sent side.other with
    | [] => p
    | octets :: rest =>
      { p with sent := Function.update p.sent side.other rest }.call side
        ((p.endpoint side).machine.receive octets nowMs policy)
  | .drop side index => { p with sent := Function.update p.sent side ((p.sent side).eraseIdx index) }
  | .timeout side nowMs => p.call side ((p.endpoint side).machine.pollTimeout nowMs)

def run (p : Pair) (events : List Event) : Pair := events.foldl step p

/-- Two machines before their first call, and empty channels. -/
def start (left right : Machine) : Pair where
  endpoint
    | .left => ⟨left, [], 0⟩
    | .right => ⟨right, [], 0⟩
  sent _ := []

/-- The configuration of the side's latest report to the layer above. -/
def Endpoint.reported (e : Endpoint) : Option PeerConfiguration := (reports e.log).getLast?

/-- The side's latest Configure-Ack. -/
def Endpoint.lastAck (e : Endpoint) : Option Packet := (packetsIn .configureAck e.log).getLast?

/-- The packets of one code in a channel. -/
def inFlight (code : Code) (channel : List (List UInt8)) : List Packet := channel.filterMap (packetOf code)

section Histories

@[simp] lemma other_other (side : Side) : side.other.other = side := by cases side <;> rfl

@[simp] lemma other_ne (side : Side) : side.other ≠ side := by cases side <;> simp [Side.other]

@[simp] lemma ne_other (side : Side) : side ≠ side.other := by cases side <;> simp [Side.other]

variable (e : Endpoint) (outcome : Machine.Outcome)

lemma lastAck_settle_of_nil (h : packetsIn .configureAck (emitted outcome.2) = []) :
    (e.settle outcome).lastAck = e.lastAck := by
  simp [Endpoint.lastAck, Endpoint.settle, packetsIn_append, h]

lemma lastAck_settle {packet : Packet} (h : packetsIn .configureAck (emitted outcome.2) = [packet]) :
    (e.settle outcome).lastAck = some packet := by
  simp [Endpoint.lastAck, Endpoint.settle, packetsIn_append, h]

lemma reported_settle_of_nil (h : reports (emitted outcome.2) = []) :
    (e.settle outcome).reported = e.reported := by
  have : reports (e.log ++ emitted outcome.2) = reports e.log ++ reports (emitted outcome.2) := by simp [reports]
  simp [Endpoint.reported, Endpoint.settle, this, h]

lemma reported_settle {configuration : PeerConfiguration}
    (h : (reports (emitted outcome.2)).getLast? = some configuration) :
    (e.settle outcome).reported = some configuration := by
  have : reports (e.log ++ emitted outcome.2) = reports e.log ++ reports (emitted outcome.2) := by simp [reports]
  simp [Endpoint.reported, Endpoint.settle, this, List.getLast?_append, h]

end Histories

/-! ### One direction of the exchange -/

/-- The packet is of the machine's own request or of an older one. -/
def Stands (m : Machine) (packet : Packet) : Prop :=
  packet.identifier.toNat ≤ m.requestIdentifier.toNat ∧
    (packet.identifier = m.requestIdentifier → packet.data = m.localOptions)

/-- **One direction**: the requests of `q`, of which `requests` are in flight, and the answers of `p`, of
which the acknowledgements `acks` are in flight. -/
structure Direction (q p : Endpoint) (requests acks : List Packet) : Prop where
  short : Short q.machine
  counted : q.machine.nextIdentifier.toNat = q.allocated
  own : q.machine.requestIdentifier.toNat ≤ q.allocated
  stands : ∀ request ∈ requests, Stands q.machine request
  sorted : requests.Pairwise fun earlier later => earlier.identifier.toNat ≤ later.identifier.toNat
  acked : ∀ ack ∈ p.lastAck, Stands q.machine ack ∧
    ∀ request ∈ requests, ack.identifier.toNat ≤ request.identifier.toNat
  acks : ∀ ack ∈ acks, ∃ last ∈ p.lastAck, ack.identifier.toNat ≤ last.identifier.toNat
  /-- A request that is held acknowledged is the one that was acknowledged last. -/
  matched : Acknowledged q.machine → ∃ last ∈ p.lastAck, last.identifier = q.machine.requestIdentifier
  /-- The configuration kept is that of the request acknowledged last. -/
  peer : Answered p.machine → ∃ last ∈ p.lastAck,
    p.machine.peerConfiguration = some (encodedConfiguration last.data)
  reported : p.machine.state = .opened → p.reported = p.machine.peerConfiguration

section Direction

variable {q p : Endpoint} {requests acks requests' acks' : List Packet}

lemma Direction.sublist (h : Direction q p requests acks) (hrequests : requests'.Sublist requests)
    (hacks : acks'.Sublist acks) : Direction q p requests' acks' where
  short := h.short
  counted := h.counted
  own := h.own
  stands request hmem := h.stands request (hrequests.subset hmem)
  sorted := h.sorted.sublist hrequests
  acked ack hack := ⟨(h.acked ack hack).1, fun request hmem => (h.acked ack hack).2 request (hrequests.subset hmem)⟩
  acks ack hmem := h.acks ack (hacks.subset hmem)
  matched := h.matched
  peer := h.peer
  reported := h.reported

/-- A call does not take identifiers back. -/
lemma allocated_le_settle (e : Endpoint) (outcome : Machine.Outcome) :
    e.allocated ≤ (e.settle outcome).allocated := Nat.le_add_right _ _

/-- What a packet of the former request is to the machine with a new one. -/
lemma stands_of_newer {m m' : Machine} (hnew : m'.requestIdentifier ≠ m.requestIdentifier →
      m.requestIdentifier.toNat < m'.requestIdentifier.toNat)
    (hsame : m'.requestIdentifier = m.requestIdentifier → m'.localOptions = m.localOptions) {packet : Packet}
    (h : Stands m packet) : Stands m' packet := by
  by_cases hid : m'.requestIdentifier = m.requestIdentifier
  · unfold Stands
    rw [hid, hsame hid]
    exact h
  · have hlt := hnew hid
    refine ⟨by have := h.1; omega, fun heq => ?_⟩
    have := congrArg UInt8.toNat heq
    have := h.1
    omega

/-- The identifiers after a call of the requester: they do not wrap, and a request with a new identifier is newer. -/
structure Numbered (e : Endpoint) (outcome : Machine.Outcome) : Prop where
  counted : outcome.1.nextIdentifier.toNat = (e.settle outcome).allocated
  own : outcome.1.requestIdentifier.toNat ≤ (e.settle outcome).allocated
  newer : outcome.1.requestIdentifier ≠ e.machine.requestIdentifier →
    e.machine.requestIdentifier.toNat < outcome.1.requestIdentifier.toNat
  kept : outcome.1.requestIdentifier = e.machine.requestIdentifier → outcome.1.localOptions = e.machine.localOptions

/-- **The identifiers of a requester** are those that it has allocated, as long as there are at most 255 of them. -/
lemma numbered {e : Endpoint} {input : Option Packet} {outcome : Machine.Outcome}
    (hstep : RequesterStep e.machine input outcome.1 (emitted outcome.2))
    (hcounted : e.machine.nextIdentifier.toNat = e.allocated) (hown : e.machine.requestIdentifier.toNat ≤ e.allocated)
    (hbound : (e.settle outcome).allocated ≤ 255) : Numbered e outcome := by
  have hnextlt := e.machine.nextIdentifier.toNat_lt
  have hcount : (e.settle outcome).allocated =
      e.allocated + (outcome.1.nextIdentifier - e.machine.nextIdentifier).toNat := rfl
  have hone : (e.machine.nextIdentifier + 1 - e.machine.nextIdentifier).toNat = 1 := by
    rw [show e.machine.nextIdentifier + 1 - e.machine.nextIdentifier = 1 by grind]
    rfl
  have hsucc : outcome.1.nextIdentifier = e.machine.nextIdentifier + 1 →
      outcome.1.nextIdentifier.toNat = e.allocated + 1 ∧ (e.settle outcome).allocated = e.allocated + 1 := by
    intro heq
    rw [heq, hone] at hcount
    refine ⟨?_, hcount⟩
    rw [heq, UInt8.toNat_add, hcounted]
    simp
    omega
  have hsame : outcome.1.nextIdentifier = e.machine.nextIdentifier →
      (e.settle outcome).allocated = e.allocated := by
    intro heq
    rw [hcount, heq]
    simp
  exact {
    counted := by
      rcases hstep.identifiers with ⟨-, -, hnext | hnext⟩ | ⟨-, hnext⟩
      · rw [hsame hnext, hnext, hcounted]
      · rw [(hsucc hnext).2]
        exact (hsucc hnext).1
      · rw [(hsucc hnext).2]
        exact (hsucc hnext).1
    own := by
      rcases hstep.identifiers with ⟨hid, -⟩ | ⟨hid, hnext⟩
      · rw [hid]
        exact hown.trans (allocated_le_settle e outcome)
      · rw [hid, ← hnext, (hsucc hnext).1, (hsucc hnext).2]
    newer := by
      intro hne
      rcases hstep.identifiers with ⟨hid, -⟩ | ⟨hid, hnext⟩
      · exact absurd hid hne
      · rw [hid, ← hnext, (hsucc hnext).1]
        omega
    kept := by
      intro heq
      rcases hstep.identifiers with ⟨-, hoptions, -⟩ | ⟨hid, hnext⟩
      · exact hoptions
      · have := (hsucc hnext).1
        rw [hnext, ← hid, heq] at this
        omega }

/-- **A call of the requester** keeps the direction. -/
theorem Direction.requester (h : Direction q p requests acks) {input : Option Packet} {outcome : Machine.Outcome}
    (hstep : RequesterStep q.machine input outcome.1 (emitted outcome.2))
    (hinput : ∀ packet ∈ input, knownCode packet = some .configureAck → packet ∈ acks)
    (hbound : (q.settle outcome).allocated ≤ 255) :
    Direction (q.settle outcome) p (requests ++ packetsIn .configureRequest (emitted outcome.2)) acks := by
  have hnumbered := numbered hstep h.counted h.own hbound
  have hstands {packet : Packet} : Stands q.machine packet → Stands outcome.1 packet :=
    stands_of_newer hnumbered.newer hnumbered.kept
  have hle : q.machine.requestIdentifier.toNat ≤ outcome.1.requestIdentifier.toNat := by
    by_cases heq : outcome.1.requestIdentifier = q.machine.requestIdentifier
    · rw [heq]
    · exact (hnumbered.newer heq).le
  have hfresh := hstep.fresh
  exact {
    short := hstep.short
    counted := hnumbered.counted
    own := hnumbered.own
    stands := by
      intro request hmem
      rcases List.mem_append.mp hmem with hmem | hmem
      · exact hstands (h.stands request hmem)
      · obtain ⟨hid, hdata⟩ := hfresh request hmem
        exact ⟨by rw [hid]; rfl, fun _ => hdata⟩
    sorted := by
      refine List.pairwise_append.mpr ⟨h.sorted, ?_, ?_⟩
      · refine List.Pairwise.imp_of_mem (R := fun _ _ => True) ?_ (List.pairwise_of_forall fun _ _ => trivial)
        intro earlier later hearlier hlater _
        rw [(hfresh _ hearlier).1, (hfresh _ hlater).1]
      · intro earlier hearlier later hlater
        rw [(hfresh _ hlater).1]
        exact (h.stands _ hearlier).1.trans hle
    acked := by
      intro ack hack
      refine ⟨hstands (h.acked ack hack).1, fun request hmem => ?_⟩
      rcases List.mem_append.mp hmem with hmem | hmem
      · exact (h.acked ack hack).2 request hmem
      · rw [(hfresh _ hmem).1]
        exact (h.acked ack hack).1.1.trans hle
    acks := h.acks
    matched := by
      intro hacknowledged
      obtain ⟨hid, hbefore | ⟨packet, hpacket, hcode, hmatch⟩⟩ := hstep.matched hacknowledged
      · obtain ⟨last, hlast, heq⟩ := h.matched hbefore
        exact ⟨last, hlast, heq.trans hid.symm⟩
      · -- The acknowledgement is no newer than the last one, and that one no newer than the request.
        obtain ⟨last, hlast, hge⟩ := h.acks packet (hinput packet hpacket hcode)
        refine ⟨last, hlast, ?_⟩
        have hupper := (h.acked last hlast).1.1
        rw [hmatch] at hge
        show last.identifier = outcome.1.requestIdentifier
        rw [hid]
        exact UInt8.toNat_inj.mp (by omega)
    peer := h.peer
    reported := h.reported }

/-- **A call of the responder** keeps the direction. -/
theorem Direction.responder (h : Direction q p requests acks) {input : Option Packet} {outcome : Machine.Outcome}
    (hstep : ResponderStep p.machine input outcome.1 (emitted outcome.2)) (hrest : requests'.Sublist requests)
    (hinput : ∀ packet ∈ input, knownCode packet = some .configureRequest →
      packet ∈ requests ∧ ∀ request ∈ requests', packet.identifier.toNat ≤ request.identifier.toNat) :
    Direction q (p.settle outcome) requests' (acks ++ packetsIn .configureAck (emitted outcome.2)) := by
  have hsub := h.sublist hrest (List.Sublist.refl acks)
  cases hstep with
  | acknowledge request hmem hcode hacks hpeer hreport =>
    obtain ⟨hrequest, hbefore⟩ := hinput request hmem hcode
    have hlast := lastAck_settle p outcome hacks
    have hstands := h.stands request hrequest
    rw [hacks]
    exact {
      short := h.short
      counted := h.counted
      own := h.own
      stands := hsub.stands
      sorted := hsub.sorted
      acked := by
        rw [hlast]
        rintro _ ⟨⟩
        exact ⟨hstands, hbefore⟩
      acks := by
        rw [hlast]
        intro ack hack
        refine ⟨_, rfl, ?_⟩
        rcases List.mem_append.mp hack with hack | hack
        · obtain ⟨last, hl, hle⟩ := h.acks ack hack
          exact hle.trans ((h.acked last hl).2 request hrequest)
        · rw [List.mem_singleton.mp hack]
      matched := by
        intro hacknowledged
        rw [hlast]
        refine ⟨_, rfl, ?_⟩
        obtain ⟨last, hl, hid⟩ := h.matched hacknowledged
        have hlower := (h.acked last hl).2 request hrequest
        have hupper := hstands.1
        rw [hid] at hlower
        exact UInt8.toNat_inj.mp (by simp only; omega)
      peer := by
        intro _
        rw [hlast]
        exact ⟨_, rfl, hpeer⟩
      reported := by
        intro hopened
        have hlog := hreport hopened
        rw [hpeer] at hlog
        rw [reported_settle p outcome hlog]
        exact hpeer.symm }
  | keep hacks hpeer hreport =>
    have hlast := lastAck_settle_of_nil p outcome hacks
    rw [hacks, List.append_nil]
    exact {
      short := h.short
      counted := h.counted
      own := h.own
      stands := hsub.stands
      sorted := hsub.sorted
      acked := by rw [hlast]; exact hsub.acked
      acks := by rw [hlast]; exact h.acks
      matched := by rw [hlast]; exact h.matched
      peer := by
        intro hanswered
        obtain ⟨hbefore, hsame⟩ := hpeer hanswered
        obtain ⟨last, hl, heq⟩ := h.peer hbefore
        rw [hlast]
        exact ⟨last, hl, hsame.trans heq⟩
      reported := by
        intro hopened
        obtain ⟨hbefore, hsame⟩ := hpeer (Or.inr hopened)
        obtain ⟨last, -, heq⟩ := h.peer hbefore
        rcases hreport hopened with ⟨hstate, hnone⟩ | hlog
        · rw [reported_settle_of_nil p outcome hnone, h.reported hstate]
          exact hsame.symm
        · have hsome : outcome.1.peerConfiguration = some (encodedConfiguration last.data) := hsame.trans heq
          rw [reported_settle p outcome hlog]
          show some (outcome.1.peerConfiguration.getD {}) = outcome.1.peerConfiguration
          rw [hsome]
          rfl }

end Direction

/-! ### Both directions along a run -/

/-- Both directions of the exchange. -/
def Directions (p : Pair) : Prop :=
  ∀ side, Direction (p.endpoint side) (p.endpoint side.other)
    (inFlight .configureRequest (p.sent side)) (inFlight .configureAck (p.sent side.other))

section Run

variable {p : Pair}

lemma inFlight_append (code : Code) (channel channel' : List (List UInt8)) :
    inFlight code (channel ++ channel') = inFlight code channel ++ inFlight code channel' := by
  simp [inFlight]

/-- A call of one side, whose input was the head of the other side's channel if it had one. -/
theorem Directions.call (h : Directions p) (side : Side) {input : Option Packet} {rest : List (List UInt8)}
    {outcome : Machine.Outcome} (hsteps : Steps (p.endpoint side).machine input outcome)
    (hrest : rest.Sublist (p.sent side.other))
    (hacks : ∀ packet ∈ input, knownCode packet = some .configureAck →
      packet ∈ inFlight .configureAck (p.sent side.other))
    (hrequests : ∀ packet ∈ input, knownCode packet = some .configureRequest →
      packet ∈ inFlight .configureRequest (p.sent side.other) ∧
      ∀ request ∈ inFlight .configureRequest rest, packet.identifier.toNat ≤ request.identifier.toNat)
    (hbound : ((p.endpoint side).settle outcome).allocated ≤ 255) :
    Directions ({ p with sent := Function.update p.sent side.other rest }.call side outcome) := by
  have hsub (code : Code) : (inFlight code rest).Sublist (inFlight code (p.sent side.other)) :=
    hrest.filterMap _
  intro s
  have hcases : s = side ∨ s = side.other := by cases s <;> cases side <;> simp [Side.other]
  rcases hcases with rfl | rfl
  · -- The side that is called requests.
    have hdirection := (h s).requester hsteps.requester hacks hbound
    have hkept := hdirection.sublist (List.Sublist.refl _) (hsub .configureAck)
    simpa [Pair.call, Function.update_of_ne, inFlight_append, packetsIn, inFlight] using hkept
  · -- The side that is called responds.
    have hdirection := h side.other
    rw [other_other] at hdirection
    have hkept := hdirection.responder hsteps.responder (hsub .configureRequest) hrequests
    simpa [Pair.call, Function.update_of_ne, inFlight_append, packetsIn, inFlight] using hkept

lemma Directions.drop (h : Directions p) (side : Side) (index : ℕ) :
    Directions { p with sent := Function.update p.sent side ((p.sent side).eraseIdx index) } := by
  intro s
  have hsub (code : Code) (s : Side) :
      (inFlight code (Function.update p.sent side ((p.sent side).eraseIdx index) s)).Sublist
        (inFlight code (p.sent s)) := by
    by_cases hs : s = side
    · subst hs
      rw [Function.update_self]
      exact (List.eraseIdx_sublist _ _).filterMap _
    · rw [Function.update_of_ne hs]
  exact (h s).sublist (hsub _ _) (hsub _ _)

/-- No step takes identifiers back. -/
lemma allocated_le_step (event : Event) (side : Side) :
    (p.endpoint side).allocated ≤ ((step p event).endpoint side).allocated := by
  have hcall (p : Pair) (s : Side) (outcome : Machine.Outcome) :
      (p.endpoint side).allocated ≤ ((p.call s outcome).endpoint side).allocated := by
    by_cases hs : side = s
    · subst hs
      simpa [Pair.call] using allocated_le_settle (p.endpoint side) outcome
    · simp [Pair.call, Function.update_of_ne hs]
  cases event with
  | doOpen s nowMs => exact hcall _ _ _
  | timeout s nowMs => exact hcall _ _ _
  | drop s index => exact le_rfl
  | deliver s nowMs policy =>
    simp only [step]
    split
    · exact le_rfl
    · exact hcall _ _ _

/-- **Every event keeps both directions**, as long as the identifiers last. -/
theorem Directions.step (h : Directions p) (event : Event)
    (hbound : ∀ side, ((LcpPair.step p event).endpoint side).allocated ≤ 255) :
    Directions (LcpPair.step p event) := by
  -- A call without input leaves the other side's channel alone.
  have hcall (side : Side) (outcome : Machine.Outcome) (hsteps : Steps (p.endpoint side).machine none outcome)
      (hallocated : ((p.call side outcome).endpoint side).allocated ≤ 255) : Directions (p.call side outcome) := by
    have hsettle : ((p.endpoint side).settle outcome).allocated ≤ 255 := by simpa [Pair.call] using hallocated
    have := h.call side hsteps (List.Sublist.refl (p.sent side.other)) (by simp) (by simp) hsettle
    rwa [Function.update_eq_self] at this
  cases event with
  | doOpen side nowMs => exact hcall side _ (doOpen_steps (h side).short nowMs) (hbound side)
  | timeout side nowMs => exact hcall side _ (pollTimeout_steps (h side).short nowMs) (hbound side)
  | drop side index => exact h.drop side index
  | deliver side nowMs policy =>
    simp only [LcpPair.step] at hbound ⊢
    cases hchannel : p.sent side.other with
    | nil => exact h
    | cons octets rest =>
      simp only [hchannel] at hbound
      have hsorted := (h side.other).sorted
      have hpacket (code : Code) : ∀ packet ∈ (Packet.parse octets).toOption, knownCode packet = some code →
          inFlight code (octets :: rest) = packet :: inFlight code rest := by
        intro packet hmem hcode
        have hof : packetOf code octets = some packet := by
          unfold packetOf
          cases hparse : Packet.parse octets with
          | error error => simp [hparse, Except.toOption] at hmem
          | ok found =>
            obtain rfl : found = packet := by simpa [hparse, Except.toOption] using hmem
            simp [hcode]
        simp [inFlight, hof]
      refine h.call side (receive_steps (h side).short octets nowMs policy) ?_ ?_ ?_ ?_
      · rw [hchannel]
        exact List.sublist_cons_self octets rest
      · intro packet hmem hcode
        rw [hchannel, hpacket _ packet hmem hcode]
        simp
      · intro packet hmem hcode
        rw [hchannel, hpacket _ packet hmem hcode] at hsorted ⊢
        exact ⟨by simp, (List.pairwise_cons.mp hsorted).1⟩
      · simpa [Pair.call] using hbound side

lemma allocated_le_run (events : List Event) (side : Side) :
    (p.endpoint side).allocated ≤ ((run p events).endpoint side).allocated := by
  induction events generalizing p with
  | nil => exact le_rfl
  | cons event events ih => exact (allocated_le_step event side).trans ih

theorem run_directions (h : Directions p) (events : List Event)
    (hbound : ∀ side, ((run p events).endpoint side).allocated ≤ 255) : Directions (run p events) := by
  induction events generalizing p with
  | nil => exact h
  | cons event events ih =>
    refine ih (h.step event fun side => ?_) hbound
    exact (allocated_le_run events side).trans (hbound side)

/-- New machines have sent and acknowledged nothing. -/
lemma start_directions {left right : Machine} {leftOptions rightOptions : List UInt8}
    {leftSettings rightSettings : Settings} (hleft : Machine.new leftOptions leftSettings = .ok left)
    (hright : Machine.new rightOptions rightSettings = .ok right) : Directions (start left right) := by
  have hnew {m : Machine} {options : List UInt8} {settings : Settings}
      (h : Machine.new options settings = .ok m) :
      m.state = .closed ∧ m.nextIdentifier = 0 ∧ m.requestIdentifier = 0 := by
    unfold Machine.new at h
    split at h <;> cases h
    exact ⟨rfl, rfl, rfl⟩
  have hendpoint (side : Side) : ((start left right).endpoint side).machine.state = .closed ∧
      ((start left right).endpoint side).machine.nextIdentifier = 0 ∧
      ((start left right).endpoint side).machine.requestIdentifier = 0 ∧
      ((start left right).endpoint side).allocated = 0 ∧ ((start left right).endpoint side).log = [] := by
    cases side with
    | left => exact ⟨(hnew hleft).1, (hnew hleft).2.1, (hnew hleft).2.2, rfl, rfl⟩
    | right => exact ⟨(hnew hright).1, (hnew hright).2.1, (hnew hright).2.2, rfl, rfl⟩
  intro side
  obtain ⟨hstate, hnext, hrequest, hallocated, -⟩ := hendpoint side
  obtain ⟨hstate', -, -, -, hlog⟩ := hendpoint side.other
  have hlast : ((start left right).endpoint side.other).lastAck = none := by simp [Endpoint.lastAck, hlog]
  exact {
    short := by simp [Short, Acknowledged, hstate]
    counted := by simp [hnext, hallocated]
    own := by simp [hrequest, hallocated]
    stands := by simp [start, inFlight]
    sorted := by simp [start, inFlight]
    acked := by simp [hlast]
    acks := by simp [start, inFlight]
    matched := by simp [Acknowledged, hstate]
    peer := by simp [Answered, hstate']
    reported := by simp [hstate'] }

end Run

/-- **Opened machines agree**: each has reported the configuration that the other one's local options encode,
in flight packets or not, however often the machines are opened. -/
theorem opened_agree {left right : Machine} {leftOptions rightOptions : List UInt8}
    {leftSettings rightSettings : Settings} (hleft : Machine.new leftOptions leftSettings = .ok left)
    (hright : Machine.new rightOptions rightSettings = .ok right) (events : List Event)
    (hallocated : ∀ side, ((run (start left right) events).endpoint side).allocated ≤ 255)
    (hopened : ∀ side, ((run (start left right) events).endpoint side).machine.state = .opened) (side : Side) :
    ((run (start left right) events).endpoint side).reported =
      some (encodedConfiguration ((run (start left right) events).endpoint side.other).machine.localOptions) := by
  have h := run_directions (start_directions hleft hright) events hallocated side.other
  rw [other_other] at h
  obtain ⟨last, hlast, hid⟩ := h.matched (Or.inr (hopened side.other))
  obtain ⟨last', hlast', hpeer⟩ := h.peer (Or.inr (hopened side))
  obtain rfl : last' = last := by
    rw [Option.mem_def] at hlast hlast'
    exact Option.some.inj (hlast'.symm.trans hlast)
  rw [h.reported (hopened side), hpeer, (h.acked last' hlast).1.2 hid]

/-- A side that asks for an MRU of 1400 and a side that asks for nothing, opened without a loss. -/
theorem opened_agree_mru : ∃ left right, Machine.new [1, 4, 0x05, 0x78] ⟨3000, 10, 2⟩ = .ok left ∧
    Machine.new [] ⟨3000, 10, 2⟩ = .ok right ∧
    ((run (start left right) [.doOpen .left 0, .doOpen .right 0, .deliver .right 1 {}, .deliver .left 1 {},
      .deliver .left 2 {}, .deliver .right 2 {}]).endpoint .right).reported = some { transmitMru := 1400 } := by
  refine ⟨_, _, rfl, rfl, ?_⟩
  rw [opened_agree (show Machine.new [1, 4, 0x05, 0x78] ⟨3000, 10, 2⟩ = .ok _ from rfl)
    (show Machine.new [] ⟨3000, 10, 2⟩ = .ok _ from rfl) _ (fun side => by cases side <;> decide +kernel)
    (fun side => by cases side <;> decide +kernel) .right]
  decide +kernel

end SnesModem.Rust.LcpPair
