import SnesModem.Asm.Trace

/-!
# What the host recovers from the trace

A run records events into the ring; the host reads the ring and tells by the numbers which slots are in use.

* `Logged`: what a run leaves in the block and in the ring, and `Logged.performAll`: every run keeps it;
* `Logged.recover`: the host recovers the last events if no unused slot carries the number of a recorded event;
* `Logged.exact`: and else it returns more.
-/

namespace SnesModem.Asm.Trace

open SnesModem.Lib SnesModem.Lib.Octets SnesModem.Lib.OctetWords SnesModem.Asm.Diagnostic SnesModem.Rust.TraceEvents

/-- The trace after these events, from the memory before the first of them. -/
structure Logged (m₀ m : Memory) (events : List TraceEvent) : Prop where
  next : (dwordAt m.block traceNextSequence).toNat = events.length
  overwritten : dwordAt m.block traceOverwrittenCount =
    dwordAt m₀.block traceOverwrittenCount + UInt32.ofNat (events.length - 256)
  slots : slotAt m.ring = LogRing.after 256 (slotAt m₀.ring) events
  numbers : ∀ (i : ℕ) (h : i < events.length), events[i].sequence.toNat = i

namespace Logged

variable {m₀ m : Memory} {events : List TraceEvent}

lemma start (hnext : dwordAt m.block traceNextSequence = 0) : Logged m m [] where
  next := by rw [hnext]; rfl
  overwritten := (UInt32.add_zero _).symm
  slots := rfl
  numbers := fun _ h => absurd h (Nat.not_lt_zero _)

/-- What leaves the trace alone. -/
lemma congr (h : Logged m₀ m events) {m' : Memory} (hring : m'.ring = m.ring)
    (hblock : ∀ i, traceNextSequence ≤ i → traceVariable i → m'.block i = m.block i) : Logged m₀ m' events where
  next := by
    rw [← h.next]
    congr 1
    refine dwordAt_congr fun x hx => hblock _ (by omega) ?_
    simp [traceVariable, hx]
  overwritten := by
    rw [← h.overwritten]
    refine dwordAt_congr fun x hx => hblock _ ?_ ?_
    · exact Nat.le_add_right_of_le (by decide)
    · simp [traceVariable, hx]
  slots := by rw [hring, h.slots]
  numbers := h.numbers

/-- One record. -/
lemma record (h : Logged m₀ m events) (hfrozen : m.block traceFrozen = 0) (kind : UInt8) (frameCounter : UInt32)
    (hcount : events.length + 1 < 2 ^ 32) :
    Logged m₀ (modemRecordTrace kind frameCounter m) (events ++ [eventOf kind frameCounter m.block]) where
  next := by
    have hone : (1 : UInt32).toNat = 1 := rfl
    have hsum := UInt32.toNat_add (dwordAt m.block traceNextSequence) 1
    rw [h.next, hone, Nat.mod_eq_of_lt hcount] at hsum
    rw [(modemRecordTrace_spec hfrozen kind frameCounter).1, hsum, List.length_append, List.length_singleton]
  overwritten := by
    rw [(modemRecordTrace_spec hfrozen kind frameCounter).2.1, h.overwritten, h.next, List.length_append,
      List.length_singleton, UInt32.add_assoc]
    by_cases hlap : events.length < 256
    · have hsame : events.length + 1 - 256 = events.length - 256 := by omega
      rw [if_pos hlap, UInt32.add_zero, hsame]
    · have hsucc : events.length + 1 - 256 = events.length - 256 + 1 := by omega
      have hone : UInt32.ofNat 1 = 1 := rfl
      rw [if_neg hlap, hsucc, UInt32.ofNat_add, hone]
  slots := by
    rw [(modemRecordTrace_spec hfrozen kind frameCounter).2.2, h.slots, h.next, LogRing.after_append]
  numbers := by
    intro i hi
    rw [List.length_append, List.length_singleton] at hi
    by_cases hnew : i = events.length
    · subst hnew
      rw [List.getElem_concat_length rfl]
      exact h.next
    · rw [List.getElem_append_left (by omega)]
      exact h.numbers i (by omega)

/-- **One operation.** -/
theorem perform (h : Logged m₀ m events) (operation : Operation)
    (hcount : (events ++ recorded m operation).length < 2 ^ 32) :
    Logged m₀ (Trace.perform m operation) (events ++ recorded m operation) := by
  have hoffset : traceFrozen < traceNextSequence := by decide
  have hupdate (octet : UInt8) : Logged m₀ { m with block := Function.update m.block traceFrozen octet } events :=
    h.congr rfl fun i hi _ => Function.update_of_ne (by omega) _ _
  cases operation with
  | record kind frameCounter =>
    by_cases hfrozen : m.block traceFrozen = 0
    · have hrecorded : recorded m (.record kind frameCounter) = [eventOf kind frameCounter m.block] :=
        if_neg (not_not.mpr hfrozen)
      rw [hrecorded] at hcount ⊢
      rw [List.length_append, List.length_singleton] at hcount
      exact h.record hfrozen kind frameCounter hcount
    · have hrecorded : recorded m (.record kind frameCounter) = [] := if_pos hfrozen
      have hsame : Trace.perform m (.record kind frameCounter) = m := if_pos hfrozen
      rw [hrecorded, hsame, List.append_nil]
      exact h
  | freeze =>
    rw [show recorded m .freeze = [] from rfl, List.append_nil]
    exact hupdate 1
  | resume =>
    rw [show recorded m .resume = [] from rfl, List.append_nil]
    exact hupdate 0
  | other values =>
    rw [show recorded m (.other values) = [] from rfl, List.append_nil]
    exact h.congr rfl fun i _ hi => if_pos hi

/-- **Every run.** -/
theorem performAll (h : Logged m₀ m events) (operations : List Operation)
    (hcount : (events ++ recordedAll m operations).length < 2 ^ 32) :
    Logged m₀ (Trace.performAll m operations) (events ++ recordedAll m operations) := by
  induction operations generalizing m events with
  | nil =>
    rw [recordedAll, List.append_nil]
    exact h
  | cons operation operations ih =>
    rw [recordedAll, ← List.append_assoc] at hcount ⊢
    refine ih (h.perform operation ?_) hcount
    rw [List.length_append] at hcount
    omega

end Logged

/-! ### The host -/

section Host

lemma chunksExact_read (ring : Buffer) :
    chunksExact traceEventSize (read ring 0 4096) = (List.range 256).map fun k => read ring (16 * k) 16 := by
  have hsize : traceEventSize = 16 := rfl
  rw [chunksExact, length_read, hsize]
  refine List.map_congr_left fun k hk => ?_
  have hlt : k < 256 := List.mem_range.mp hk
  rw [drop_read _ _ (by omega), take_read _ _ (by omega), Nat.zero_add]

/-- The events that the host finds in the ring. -/
lemma readTraceEvents_read (next : UInt32) (ring : Buffer) :
    readTraceEvents next (read ring 0 4096) =
      some ((((List.range 256).map (slotAt ring)).filter (retained next)).insertionSort
        fun a b => a.sequence ≤ b.sequence) := by
  have hdecode (list : List ℕ) : (list.map fun k => read ring (16 * k) 16).mapM TraceEvent.decode =
      some (list.map (slotAt ring)) := by
    induction list with
    | nil => rfl
    | cons k list ih => simp [List.mapM_cons, decode_read, ih]
  rw [readTraceEvents, chunksExact_read, hdecode]
  rfl

variable {next : UInt32} {event : TraceEvent}

/-- The host sorts by number. -/
lemma sequence_le_iff (a b : TraceEvent) : a.sequence ≤ b.sequence ↔ a.sequence.toNat ≤ b.sequence.toNat :=
  UInt32.le_iff_toNat_le

/-- The test of the host, in numbers. -/
lemma retained_iff :
    retained next event ↔ 1 ≤ (2 ^ 32 - event.sequence.toNat + next.toNat) % 2 ^ 32 ∧
      (2 ^ 32 - event.sequence.toNat + next.toNat) % 2 ^ 32 ≤ min next.toNat 256 := by
  have hone : (1 : UInt32).toNat = 1 := rfl
  have hmin : (min next 256).toNat = min next.toNat 256 := by
    have hcapacity : (256 : UInt32).toNat = 256 := rfl
    show (if next ≤ 256 then next else 256).toNat = _
    split_ifs with hle <;> rw [UInt32.le_iff_toNat_le, hcapacity] at hle <;> omega
  unfold retained
  rw [Bool.and_eq_true, decide_eq_true_eq, decide_eq_true_eq, UInt32.le_iff_toNat_le, UInt32.le_iff_toNat_le,
    UInt32.toNat_sub, hone, hmin]

/-- An event that is not overwritten. -/
lemma retained_of_recorded (hlt : event.sequence.toNat < next.toNat) (hlast : next.toNat ≤ event.sequence.toNat + 256) :
    retained next event := by
  have hnext := next.toNat_lt
  rw [retained_iff]
  omega

/-- In the first lap, the numbers of the recorded events are retained, and no others. -/
lemma retained_iff_lt (hlap : next.toNat ≤ 256) : retained next event ↔ event.sequence.toNat < next.toNat := by
  have hnext := next.toNat_lt
  have hsequence := event.sequence.toNat_lt
  rw [retained_iff]
  omega

end Host

namespace Logged

variable {m₀ m : Memory} {events : List TraceEvent}

/-- The last events, which the ring holds. -/
def lastEvents (events : List TraceEvent) : List TraceEvent := events.drop (events.length - 256)

/-- The numbers of the last events are consecutive, and the host retains the events. -/
lemma pairwise_lastEvents (h : Logged m₀ m events) :
    (lastEvents events).Pairwise fun a b => a.sequence.toNat < b.sequence.toNat := by
  rw [List.pairwise_iff_getElem]
  intro i j hi hj hlt
  have hi' : events.length - 256 + i < events.length := by
    rw [lastEvents, List.length_drop] at hi
    omega
  have hj' : events.length - 256 + j < events.length := by
    rw [lastEvents, List.length_drop] at hj
    omega
  simp only [lastEvents, List.getElem_drop]
  rw [h.numbers _ hi', h.numbers _ hj']
  omega

lemma retained_lastEvents (h : Logged m₀ m events) {event : TraceEvent} (hevent : event ∈ lastEvents events) :
    retained (dwordAt m.block traceNextSequence) event := by
  obtain ⟨i, hi, rfl⟩ := List.mem_iff_getElem.mp hevent
  rw [lastEvents, List.length_drop] at hi
  have hnumber := h.numbers (events.length - 256 + i) (by omega)
  simp only [lastEvents, List.getElem_drop]
  apply retained_of_recorded <;> rw [hnumber, h.next] <;> omega

/-- **A full ring** is recovered. -/
theorem recover_full (h : Logged m₀ m events) (hfull : 256 ≤ events.length) :
    readTraceEvents (dwordAt m.block traceNextSequence) (read m.ring 0 4096) = some (lastEvents events) := by
  have hperm : ((List.range 256).map (slotAt m.ring)).Perm (lastEvents events) := by
    rw [h.slots, lastEvents, ← LogRing.range_map_after 256 (slotAt m₀.ring) hfull]
    exact (List.rotate_perm _ _).symm
  have hall : ((List.range 256).map (slotAt m.ring)).filter (retained (dwordAt m.block traceNextSequence)) =
      (List.range 256).map (slotAt m.ring) :=
    List.filter_eq_self.mpr fun event hevent => h.retained_lastEvents (hperm.mem_iff.mp hevent)
  rw [readTraceEvents_read, hall, LogRing.insertionSort_of_perm sequence_le_iff hperm h.pairwise_lastEvents]

/-- The slots of a ring that is not full: the recorded events, and what the other slots held before. -/
lemma map_slots (h : Logged m₀ m events) (hlap : events.length ≤ 256) :
    (List.range 256).map (slotAt m.ring) =
      lastEvents events ++ (List.range (256 - events.length)).map fun i => slotAt m₀.ring (events.length + i) := by
  have hlast : lastEvents events = events := by rw [lastEvents, Nat.sub_eq_zero_of_le hlap, List.drop_zero]
  have hrange : List.range 256 =
      List.range events.length ++ (List.range (256 - events.length)).map (events.length + ·) := by
    rw [← List.range_add, Nat.add_sub_cancel' hlap]
  have hrecorded : (List.range events.length).map (LogRing.after 256 (slotAt m₀.ring) events) = events := by
    refine List.ext_getElem (by simp) fun i hi hi' => ?_
    have hslot := LogRing.after_mod 256 (slotAt m₀.ring) events hi' (by omega)
    rw [Nat.mod_eq_of_lt (by omega)] at hslot
    rw [List.getElem_map, List.getElem_range, hslot]
  have hunused : (List.range (256 - events.length)).map
      (LogRing.after 256 (slotAt m₀.ring) events ∘ fun i => events.length + i) =
        (List.range (256 - events.length)).map fun i => slotAt m₀.ring (events.length + i) := by
    refine List.map_congr_left fun i hi => ?_
    have hlt := List.mem_range.mp hi
    exact LogRing.after_of_le 256 (slotAt m₀.ring) events (show events.length + i < 256 by omega) (Nat.le_add_right _ _)
  rw [hrange, List.map_append, List.map_map, hlast, h.slots, hrecorded, hunused]

/-- The slots that no event has reached carry no number of a recorded event. -/
def Distinguished (m₀ : Memory) (events : List TraceEvent) : Prop :=
  ∀ k, events.length ≤ k → k < 256 → events.length ≤ (slotAt m₀.ring k).sequence.toNat

/-- **The host recovers the last events** exactly if it can tell the unused slots by their numbers. -/
theorem recover_iff (h : Logged m₀ m events) :
    readTraceEvents (dwordAt m.block traceNextSequence) (read m.ring 0 4096) = some (lastEvents events) ↔
      Distinguished m₀ events := by
  by_cases hfull : 256 ≤ events.length
  · exact iff_of_true (h.recover_full hfull) fun k hk hlt => by omega
  have hlap : events.length ≤ 256 := by omega
  have hnext := h.next
  have hrecorded : (lastEvents events).filter (retained (dwordAt m.block traceNextSequence)) = lastEvents events :=
    List.filter_eq_self.mpr fun event hevent => h.retained_lastEvents hevent
  have hdistinguished : Distinguished m₀ events ↔
      ((List.range (256 - events.length)).map fun i => slotAt m₀.ring (events.length + i)).filter
        (retained (dwordAt m.block traceNextSequence)) = [] := by
    rw [List.filter_eq_nil_iff, List.forall_mem_map]
    simp only [retained_iff_lt (hnext.trans_le hlap), hnext, not_lt, List.mem_range]
    constructor
    · intro hall i hi
      exact hall _ (by omega) (by omega)
    · intro hall k hk hlt
      have hslot := hall (k - events.length) (by omega)
      rwa [Nat.add_sub_cancel' hk] at hslot
  rw [readTraceEvents_read, h.map_slots hlap, List.filter_append, hrecorded, hdistinguished]
  constructor
  · intro heq
    have hlength := congrArg List.length (Option.some.inj heq)
    rw [List.length_insertionSort, List.length_append] at hlength
    exact List.eq_nil_of_length_eq_zero (by omega)
  · intro hnil
    rw [hnil, List.append_nil, LogRing.insertionSort_of_perm sequence_le_iff (List.Perm.refl _) h.pairwise_lastEvents]

/-- A ring that was full before tells its slots: the number of a slot is not below its place. -/
theorem distinguished_of_full {m₁ : Memory} {before : List TraceEvent} (h : Logged m₁ m₀ before)
    (hfull : 256 ≤ before.length) (events : List TraceEvent) : Distinguished m₀ events := by
  intro k hk hlt
  -- the last number up to the end of the log that goes to this slot
  have hplace : ∃ j, j < before.length ∧ before.length ≤ j + 256 ∧ j % 256 = k :=
    ⟨before.length - 1 - (before.length - 1 - k) % 256, by omega, by omega, by omega⟩
  obtain ⟨j, hj, hlast, hmod⟩ := hplace
  have hslot := LogRing.after_mod 256 (slotAt m₁.ring) before hj hlast
  rw [hmod] at hslot
  rw [h.slots, hslot, h.numbers j hj]
  omega

end Logged

/-! ### Runs from the start of a trace -/

/-- Where a trace starts. -/
inductive Start where
  | initialization
  | clear

def Start.memory : Start → Memory → Memory
  | .initialization => modemInitializeDiagnostics
  | .clear => modemClearTrace

/-- What a trace is kept for: the ring holds the last events under consecutive numbers, the counter tells how many are
lost, and the host reads these events in their order and nothing else. -/
structure Kept (m₀ m : Memory) (events : List TraceEvent) : Prop where
  ring : ∀ (j : ℕ) (h : j < events.length), events.length ≤ j + 256 →
    slotAt m.ring (j % 256) = events[j] ∧ events[j].sequence.toNat = j
  overwritten : dwordAt m.block traceOverwrittenCount =
    dwordAt m₀.block traceOverwrittenCount + UInt32.ofNat (events.length - 256)
  host : readTraceEvents (dwordAt m.block traceNextSequence) (read m.ring 0 4096) = some (Logged.lastEvents events)

section Start

lemma next_start (start : Start) (m : Memory) : dwordAt (start.memory m).block traceNextSequence = 0 := by
  have hzero : dwordAt (start.memory m).block traceNextSequence = dwordAt (fun _ => 0) traceNextSequence := by
    refine dwordAt_congr fun x hx => ?_
    cases start <;> interval_cases x <;> rfl
  rw [hzero]
  rfl

lemma ring_start (start : Start) (m : Memory) : (start.memory m).ring = m.ring := by
  cases start <;> rfl

/-- **The trace is kept** in every run from its start, exactly if the unused slots do not carry the numbers of recorded
events. -/
theorem kept_iff (start : Start) (m₀ : Memory) (operations : List Operation)
    (hcount : (recordedAll (start.memory m₀) operations).length < 2 ^ 32) :
    Kept (start.memory m₀) (performAll (start.memory m₀) operations) (recordedAll (start.memory m₀) operations) ↔
      Logged.Distinguished m₀ (recordedAll (start.memory m₀) operations) := by
  have hlogged := (Logged.start (next_start start m₀)).performAll operations hcount
  have hdistinguished : Logged.Distinguished (start.memory m₀) (recordedAll (start.memory m₀) operations) ↔
      Logged.Distinguished m₀ (recordedAll (start.memory m₀) operations) := by
    unfold Logged.Distinguished
    rw [ring_start]
  rw [List.nil_append] at hlogged
  rw [← hdistinguished, ← hlogged.recover_iff]
  constructor
  · exact Kept.host
  · intro hhost
    refine ⟨fun j hj hlast => ⟨?_, hlogged.numbers j hj⟩, hlogged.overwritten, hhost⟩
    rw [hlogged.slots, LogRing.after_mod 256 _ _ hj hlast]

/-- Every slot carries a number that no run reaches: the one event is recovered. -/
theorem kept_iff_marked :
    Kept (modemClearTrace ⟨fun _ => 0, fun _ => 0xff⟩)
      (performAll (modemClearTrace ⟨fun _ => 0, fun _ => 0xff⟩) [.record 6 1])
      (recordedAll (modemClearTrace ⟨fun _ => 0, fun _ => 0xff⟩) [.record 6 1]) := by
  refine (kept_iff .clear ⟨fun _ => 0, fun _ => 0xff⟩ [.record 6 1] (by decide)).mpr ?_
  intro k _ _
  show 1 ≤ (Md5.leWord [0xff, 0xff, 0xff, 0xff]).toNat
  decide

/-- After the memory has been zeroed, the unused slots look like the first event: the host returns 256 events for one. -/
theorem not_kept_zeroed :
    (recordedAll (modemInitializeDiagnostics ⟨fun _ => 0, fun _ => 0⟩) [.record 6 1]).length = 1 ∧
      ¬ Kept (modemInitializeDiagnostics ⟨fun _ => 0, fun _ => 0⟩)
        (performAll (modemInitializeDiagnostics ⟨fun _ => 0, fun _ => 0⟩) [.record 6 1])
        (recordedAll (modemInitializeDiagnostics ⟨fun _ => 0, fun _ => 0⟩) [.record 6 1]) := by
  refine ⟨by decide, fun hkept => ?_⟩
  have hlength := congrArg (Option.map List.length) hkept.host
  rw [readTraceEvents_read, Option.map_some, List.length_insertionSort] at hlength
  revert hlength
  decide +kernel

end Start

end SnesModem.Asm.Trace
