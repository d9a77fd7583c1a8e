import SnesModem.Lib.BoundedQueue
import SnesModem.Asm.Modem

/-!
# The rings are queues of 255 octets

The calls of `buffer.asm` on the receive ring and on the transmit ring, in any order.

* `Ring.contents`: the octets from the read index up to the write index;
* `receiveRing_represents`, `transmitRing_represents`: a ring is a bounded queue, whether the consumer leaves the octet
  behind or clears it;
* `rings_fifo`: the two rings under interleaved calls.
-/

namespace SnesModem.Asm

open SnesModem.Lib.Octets SnesModem.Lib.BoundedQueue SnesModem.Lib.Run

namespace Ring

/-- How many octets the ring holds. -/
def held (r : Ring) : ℕ := (r.writeIndex - r.readIndex).toNat

/-- The octets that the ring holds, in the order in which they came. -/
def contents (r : Ring) : List UInt8 := (List.range r.held).map fun i => r.storage ((r.readIndex.toNat + i) % 256)

/-- `modemPeekTransmitByte`; `none` stands for the carry. -/
def peek (r : Ring) : Option UInt8 := if r.isEmpty then none else some (r.storage r.readIndex.toNat)

section Contents

variable {r : Ring} {octet : UInt8}

@[simp] lemma length_contents : r.contents.length = r.held := by simp [contents]

lemma held_lt (r : Ring) : r.held < 256 := UInt8.toNat_lt _

lemma held_eq (r : Ring) : r.held = (256 - r.readIndex.toNat + r.writeIndex.toNat) % 256 := UInt8.toNat_sub _ _

lemma held_eq_zero_iff : r.held = 0 ↔ r.isEmpty = true := by
  have hread := r.readIndex.toNat_lt
  have hwrite := r.writeIndex.toNat_lt
  rw [held_eq]
  simp only [isEmpty, decide_eq_true_eq, ← UInt8.toNat_inj]
  omega

lemma held_eq_iff_full : r.held = 255 ↔ r.writeIndex + 1 = r.readIndex := by
  have hread := r.readIndex.toNat_lt
  have hwrite := r.writeIndex.toNat_lt
  have hone : (1 : UInt8).toNat = 1 := rfl
  rw [held_eq, ← UInt8.toNat_inj, UInt8.toNat_add, hone]
  omega

lemma contents_eq_nil_iff : r.contents = [] ↔ r.isEmpty = true := by
  rw [← held_eq_zero_iff, ← length_contents, List.length_eq_zero_iff]

/-- The slot at the write index is the one behind the octets that the ring holds. -/
lemma writeIndex_eq (r : Ring) : r.writeIndex.toNat = (r.readIndex.toNat + r.held) % 256 := by
  have hread := r.readIndex.toNat_lt
  have hwrite := r.writeIndex.toNat_lt
  have hheld := held_eq r
  omega

/-- A slot in use is not another one. -/
lemma slot_ne {i j : ℕ} (hij : i < j) (hj : j < 256) : (r.readIndex.toNat + i) % 256 ≠ (r.readIndex.toNat + j) % 256 := by
  intro heq
  omega

/-- A refused octet leaves the ring as it is. -/
lemma push_of_full (octet : UInt8) (hfull : r.held = 255) : r.push octet = (r, true) :=
  if_pos (held_eq_iff_full.mp hfull)

/-- An octet for which there is room is stored behind the others. -/
lemma contents_push (octet : UInt8) (hroom : r.held < 255) :
    (r.push octet).2 = false ∧ (r.push octet).1.contents = r.contents ++ [octet] := by
  have hnotFull : r.writeIndex + 1 ≠ r.readIndex := fun hfull => by
    rw [← held_eq_iff_full] at hfull
    omega
  rw [push, if_neg hnotFull]
  refine ⟨rfl, ?_⟩
  set r' : Ring := { r with
    storage := Function.update r.storage r.writeIndex.toNat octet
    writeIndex := r.writeIndex + 1 } with hr'
  have hheld : r'.held = r.held + 1 := by
    have hread := r.readIndex.toNat_lt
    have hwrite := r.writeIndex.toNat_lt
    have hone : (1 : UInt8).toNat = 1 := rfl
    rw [held_eq] at hroom
    rw [held_eq, held_eq, hr']
    simp only [UInt8.toNat_add, hone]
    omega
  unfold contents
  rw [hheld, List.range_succ, List.map_append, List.map_singleton]
  congr 1
  · refine List.map_congr_left fun i hi => ?_
    have hslot : (r.readIndex.toNat + i) % 256 ≠ r.writeIndex.toNat := by
      rw [writeIndex_eq]
      exact slot_ne (List.mem_range.mp hi) (held_lt r)
    exact Function.update_of_ne hslot _ _
  · have hslot : (r'.readIndex.toNat + r.held) % 256 = r.writeIndex.toNat := (writeIndex_eq r).symm
    rw [hslot]
    exact congrArg (fun octet => [octet]) (Function.update_self _ _ _)

/-- What the ring holds once it has given its first octet. -/
lemma contents_advance (storage : Buffer) (hsome : r.isEmpty = false)
    (hstorage : ∀ i < 256, i ≠ r.readIndex.toNat → storage i = r.storage i) :
    r.storage r.readIndex.toNat :: ({ r with storage := storage, readIndex := r.readIndex + 1 } : Ring).contents =
      r.contents := by
  have hread := r.readIndex.toNat_lt
  have hwrite := r.writeIndex.toNat_lt
  have hone : (1 : UInt8).toNat = 1 := rfl
  have hpositive : r.held ≠ 0 := by rw [ne_eq, held_eq_zero_iff, hsome]; simp
  have hlt := held_lt r
  set r' : Ring := { r with storage := storage, readIndex := r.readIndex + 1 } with hr'
  have hheld : r.held = r'.held + 1 := by
    rw [held_eq] at hpositive
    rw [held_eq, held_eq, hr']
    simp only [UInt8.toNat_add, hone]
    omega
  unfold contents
  rw [hheld, List.range_succ_eq_map, List.map_cons, List.map_map, Nat.add_zero, Nat.mod_eq_of_lt hread]
  congr 1
  refine List.map_congr_left fun i hi => ?_
  rw [List.mem_range] at hi
  have hslot : (r'.readIndex.toNat + i) % 256 = (r.readIndex.toNat + (i + 1)) % 256 := by
    simp only [hr', UInt8.toNat_add, hone]
    omega
  have hother : (r.readIndex.toNat + (i + 1)) % 256 ≠ r.readIndex.toNat := by omega
  rw [hslot]
  exact hstorage _ (Nat.mod_lt _ (by omega)) hother

/-- The octet that is taken is the first. -/
lemma contents_of_pop {r' : Ring} (h : r.pop = some (octet, r')) : r.contents = octet :: r'.contents := by
  unfold pop at h
  split at h
  · cases h
  · rename_i hsome
    obtain ⟨rfl, rfl⟩ := Prod.mk.inj (Option.some_inj.mp h)
    exact (contents_advance r.storage (by simpa using hsome) fun _ _ _ => rfl).symm

lemma contents_of_pop_none (h : r.pop = none) : r.contents = [] := by
  rw [contents_eq_nil_iff]
  unfold pop at h
  split at h
  · assumption
  · cases h

end Contents

end Ring

/-! ### The two consumers -/

/-- The receive ring, whose consumer leaves the octet where it is. -/
def receiveRing : Interface Ring UInt8 where
  enqueue := Ring.push
  dequeue r := match r.pop with
    | none => (r, none)
    | some (octet, r) => (r, some octet)

/-- The transmit ring, whose consumer clears the octet that has been looked at. -/
def transmitRing : Interface Ring UInt8 where
  enqueue := Ring.push
  dequeue r := (r.consume, r.peek)

theorem receiveRing_represents : Represents receiveRing 255 Ring.contents where
  bounded r := by
    rw [Ring.length_contents]
    exact Nat.le_of_lt_succ r.held_lt
  enqueue_full r octet hfull := Ring.push_of_full octet (by rwa [Ring.length_contents] at hfull)
  enqueue_room r octet hroom := Ring.contents_push octet (by rwa [Ring.length_contents] at hroom)
  dequeue_empty r hempty := by
    rw [Ring.contents_eq_nil_iff] at hempty
    simp [receiveRing, Ring.pop, hempty]
  dequeue_head r hsome := by
    rw [ne_eq, Ring.contents_eq_nil_iff, Bool.not_eq_true] at hsome
    have hadvance := Ring.contents_advance r.storage hsome fun _ _ _ => rfl
    refine ⟨r.storage r.readIndex.toNat, ?_, ?_⟩
    · simp [receiveRing, Ring.pop, hsome]
    · simpa [receiveRing, Ring.pop, hsome] using hadvance

theorem transmitRing_represents : Represents transmitRing 255 Ring.contents where
  bounded := receiveRing_represents.bounded
  enqueue_full := receiveRing_represents.enqueue_full
  enqueue_room := receiveRing_represents.enqueue_room
  dequeue_empty r hempty := by
    rw [Ring.contents_eq_nil_iff] at hempty
    simp [transmitRing, Ring.consume, Ring.peek, hempty]
  dequeue_head r hsome := by
    rw [ne_eq, Ring.contents_eq_nil_iff, Bool.not_eq_true] at hsome
    have hadvance := Ring.contents_advance (Function.update r.storage r.readIndex.toNat 0) hsome
      fun _ _ hother => Function.update_of_ne hother _ _
    refine ⟨r.storage r.readIndex.toNat, ?_, ?_⟩
    · simp [transmitRing, Ring.peek, hsome]
    · simpa [transmitRing, Ring.consume, hsome] using hadvance

/-! ### The two rings of the driver -/

/-- The calls of `buffer.asm`. -/
inductive RingCall where
  | storeReceivedByte (octet : UInt8)
  | readByte
  | queueByte (octet : UInt8)
  | peekTransmitByte
  | consumeTransmitByte

/-- The octet is stored unless the carry is set. -/
def modemStoreReceivedByte (octet : UInt8) (m : Modem) : Modem × Bool :=
  ({ m with receive := (m.receive.push octet).1 }, (m.receive.push octet).2)

def modemReadByte (m : Modem) : Modem × Option UInt8 :=
  match m.receive.pop with
  | none => (m, none)
  | some (octet, receive) => ({ m with receive := receive }, some octet)

/-- The octet is queued unless the carry is set. -/
def modemQueueByte (octet : UInt8) (m : Modem) : Modem × Bool :=
  ({ m with transmit := (m.transmit.push octet).1 }, (m.transmit.push octet).2)

def modemPeekTransmitByte (m : Modem) : Option UInt8 := m.transmit.peek

def modemConsumeTransmitByte (m : Modem) : Modem := { m with transmit := m.transmit.consume }

namespace RingCall

def step (m : Modem) : RingCall → Modem
  | .storeReceivedByte octet => (modemStoreReceivedByte octet m).1
  | .readByte => (modemReadByte m).1
  | .queueByte octet => (modemQueueByte octet m).1
  | .peekTransmitByte => m
  | .consumeTransmitByte => modemConsumeTransmitByte m

/-- The octets that the call puts into the receive ring and takes out of it. -/
def received (m : Modem) : RingCall → List UInt8 × List UInt8
  | .storeReceivedByte octet => (if (modemStoreReceivedByte octet m).2 then [] else [octet], [])
  | .readByte => ([], (modemReadByte m).2.toList)
  | _ => ([], [])

/-- The octets that the call puts into the transmit ring and takes out of it. -/
def transmitted (m : Modem) : RingCall → List UInt8 × List UInt8
  | .queueByte octet => (if (modemQueueByte octet m).2 then [] else [octet], [])
  | .consumeTransmitByte => ([], (modemPeekTransmitByte m).toList)
  | _ => ([], [])

/-- What the calls put in and take out, one after the other. -/
def log (observe : Modem → RingCall → List UInt8 × List UInt8) : Modem → List RingCall → List UInt8 × List UInt8
  | _, [] => ([], [])
  | m, c :: calls => ((observe m c).1 ++ (log observe (step m c) calls).1, (observe m c).2 ++ (log observe (step m c) calls).2)

/-- The call of the receive ring that it is. -/
def onReceive : RingCall → Option (Call UInt8)
  | .storeReceivedByte octet => some (.enqueue octet)
  | .readByte => some .dequeue
  | _ => none

/-- The call of the transmit ring that it is. -/
def onTransmit : RingCall → Option (Call UInt8)
  | .queueByte octet => some (.enqueue octet)
  | .consumeTransmitByte => some .dequeue
  | _ => none

variable (m : Modem) (c : RingCall) (calls : List RingCall)

/-- A call acts on the receive ring as the queue does, and leaves it alone if it is not of it. -/
lemma receive_step : (step m c).receive = (c.onReceive.elim m.receive (receiveRing.step m.receive)) := by
  cases c with
  | readByte =>
    simp only [step, modemReadByte, onReceive, Option.elim_some, Interface.step, receiveRing]
    cases m.receive.pop <;> rfl
  | _ => rfl

lemma transmit_step : (step m c).transmit = (c.onTransmit.elim m.transmit (transmitRing.step m.transmit)) := by
  cases c with
  | readByte =>
    simp only [step, modemReadByte, onTransmit, Option.elim_none]
    cases m.receive.pop <;> rfl
  | _ => rfl

lemma received_eq : received m c =
    c.onReceive.elim ([], []) fun q => (receiveRing.accepts m.receive q, receiveRing.delivers m.receive q) := by
  cases c with
  | readByte =>
    simp only [received, modemReadByte, onReceive, Option.elim_some, Interface.accepts, Interface.delivers, receiveRing]
    cases m.receive.pop <;> rfl
  | _ => rfl

lemma transmitted_eq : transmitted m c =
    c.onTransmit.elim ([], []) fun q => (transmitRing.accepts m.transmit q, transmitRing.delivers m.transmit q) := by
  cases c <;> rfl

lemma receive_run : (run step m calls).receive = run receiveRing.step m.receive (calls.filterMap onReceive) := by
  induction calls generalizing m with
  | nil => rfl
  | cons c calls ih =>
    rw [run_cons, ih, receive_step]
    cases hcall : c.onReceive with
    | none => rw [List.filterMap_cons_none hcall, Option.elim_none]
    | some q => rw [List.filterMap_cons_some hcall, Option.elim_some, run_cons]

lemma transmit_run : (run step m calls).transmit = run transmitRing.step m.transmit (calls.filterMap onTransmit) := by
  induction calls generalizing m with
  | nil => rfl
  | cons c calls ih =>
    rw [run_cons, ih, transmit_step]
    cases hcall : c.onTransmit with
    | none => rw [List.filterMap_cons_none hcall, Option.elim_none]
    | some q => rw [List.filterMap_cons_some hcall, Option.elim_some, run_cons]

/-- The octets of the receive ring are those of the queue under the calls of it. -/
lemma log_received : log received m calls =
    (receiveRing.accepted m.receive (calls.filterMap onReceive),
      receiveRing.delivered m.receive (calls.filterMap onReceive)) := by
  induction calls generalizing m with
  | nil => rfl
  | cons c calls ih =>
    rw [log, ih, receive_step, received_eq]
    cases hcall : c.onReceive with
    | none => simp [List.filterMap_cons_none hcall]
    | some q => simp [List.filterMap_cons_some hcall, Interface.accepted, Interface.delivered]

lemma log_transmitted : log transmitted m calls =
    (transmitRing.accepted m.transmit (calls.filterMap onTransmit),
      transmitRing.delivered m.transmit (calls.filterMap onTransmit)) := by
  induction calls generalizing m with
  | nil => rfl
  | cons c calls ih =>
    rw [log, ih, transmit_step, transmitted_eq]
    cases hcall : c.onTransmit with
    | none => simp [List.filterMap_cons_none hcall]
    | some q => simp [List.filterMap_cons_some hcall, Interface.accepted, Interface.delivered]

/-- **First in, first out**: from empty rings on, whatever the calls are, each ring gives its octets in the order in
which it took them, the next one as long as there is one, refuses an octet exactly when it holds 255, and is left as it
is by a call that it refuses. -/
theorem rings_fifo (hreceive : m.receive.isEmpty = true) (htransmit : m.transmit.isEmpty = true) :
    ((log received m calls).2 <+: (log received m calls).1 ∧
      (modemReadByte (run step m calls)).2 = (log received m calls).1[(log received m calls).2.length]? ∧
      (∀ octet, (modemStoreReceivedByte octet (run step m calls)).2 = true ↔
        (log received m calls).1.length = (log received m calls).2.length + 255) ∧
      (∀ octet, (modemStoreReceivedByte octet (run step m calls)).2 = true →
        (modemStoreReceivedByte octet (run step m calls)).1 = run step m calls) ∧
      ((modemReadByte (run step m calls)).2 = none → (modemReadByte (run step m calls)).1 = run step m calls)) ∧
    ((log transmitted m calls).2 <+: (log transmitted m calls).1 ∧
      modemPeekTransmitByte (run step m calls) = (log transmitted m calls).1[(log transmitted m calls).2.length]? ∧
      (∀ octet, (modemQueueByte octet (run step m calls)).2 = true ↔
        (log transmitted m calls).1.length = (log transmitted m calls).2.length + 255) ∧
      (∀ octet, (modemQueueByte octet (run step m calls)).2 = true →
        (modemQueueByte octet (run step m calls)).1 = run step m calls) ∧
      (modemPeekTransmitByte (run step m calls) = none → modemConsumeTransmitByte (run step m calls) = run step m calls)) := by
  rw [log_received, log_transmitted]
  constructor
  · have hempty := Ring.contents_eq_nil_iff.mpr hreceive
    refine ⟨receiveRing_represents.prefix_of_empty hempty _, ?_, fun octet => ?_, fun octet hrefused => ?_,
      fun hnone => ?_⟩
    · rw [← receiveRing_represents.next_of_empty hempty, ← receive_run, modemReadByte]
      cases hpop : (run step m calls).receive.pop with
      | none => simp [receiveRing, hpop]
      | some popped => simp [receiveRing, hpop]
    · have hrefused := receiveRing_represents.refused_iff_of_empty hempty (calls.filterMap onReceive) octet
      rwa [← receive_run] at hrefused
    · have hfull := (receiveRing_represents.refused_iff _ octet).mp hrefused
      rw [modemStoreReceivedByte, Ring.push_of_full octet (by rwa [Ring.length_contents] at hfull)]
    · rw [modemReadByte] at hnone ⊢
      cases hpop : (run step m calls).receive.pop with
      | none => rfl
      | some popped =>
        rw [hpop] at hnone
        exact absurd hnone (Option.some_ne_none _)
  · have hempty := Ring.contents_eq_nil_iff.mpr htransmit
    refine ⟨transmitRing_represents.prefix_of_empty hempty _, ?_, fun octet => ?_, fun octet hrefused => ?_,
      fun hnone => ?_⟩
    · rw [← transmitRing_represents.next_of_empty hempty, ← transmit_run]
      rfl
    · have hrefused := transmitRing_represents.refused_iff_of_empty hempty (calls.filterMap onTransmit) octet
      rwa [← transmit_run] at hrefused
    · have hfull := (transmitRing_represents.refused_iff _ octet).mp hrefused
      rw [modemQueueByte, Ring.push_of_full octet (by rwa [Ring.length_contents] at hfull)]
    · rw [modemPeekTransmitByte, Ring.peek] at hnone
      rw [modemConsumeTransmitByte, Ring.consume]
      split_ifs at hnone ⊢ with hisEmpty
      rfl

end RingCall

theorem rings_fifo_reset :
    modemInitializeDiagnostics.receive.isEmpty = true ∧ modemInitializeDiagnostics.transmit.isEmpty = true ∧
      (RingCall.log RingCall.transmitted modemInitializeDiagnostics
          [.queueByte 1, .queueByte 2, .consumeTransmitByte]).2 <+:
        (RingCall.log RingCall.transmitted modemInitializeDiagnostics
          [.queueByte 1, .queueByte 2, .consumeTransmitByte]).1 :=
  ⟨by decide, by decide, (RingCall.rings_fifo modemInitializeDiagnostics
    [.queueByte 1, .queueByte 2, .consumeTransmitByte] (by decide) (by decide)).2.1⟩

end SnesModem.Asm
