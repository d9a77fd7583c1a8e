import Mathlib.Data.List.Rotate
import Mathlib.Data.List.Sort
import Mathlib.Tactic

/-!
# A ring that logs events

A log of events is kept in the slots of a ring: event number `n` goes to slot `n % capacity`.

* `after`: the slots behind a log;
* `after_mod`, `after_of_le`: a slot holds the last event of its number, or what it held before;
* `range_map_after`: the slots of a full ring are the last events, turned;
* `insertionSort_of_perm`: sorting by number restores the order of the log.
-/

namespace SnesModem.Lib.LogRing

variable {α : Type*}

/-- The slots after a log. -/
def after (capacity : ℕ) (slots : ℕ → α) (events : List α) : ℕ → α :=
  events.zipIdx.foldl (fun slots event => Function.update slots (event.2 % capacity) event.1) slots

section Slots

variable (capacity : ℕ) (slots : ℕ → α)

@[simp] lemma after_nil : after capacity slots [] = slots := rfl

/-- One more event. -/
lemma after_append (events : List α) (event : α) :
    after capacity slots (events ++ [event]) =
      Function.update (after capacity slots events) (events.length % capacity) event := by
  simp [after, List.zipIdx_append]

/-- A slot that no event has reached. -/
lemma after_of_le (events : List α) {k : ℕ} (hk : k < capacity) (hevents : events.length ≤ k) :
    after capacity slots events k = slots k := by
  induction events using List.reverseRecOn with
  | nil => rfl
  | append_singleton events event ih =>
    rw [List.length_append, List.length_singleton] at hevents
    rw [after_append, Nat.mod_eq_of_lt (by omega), Function.update_of_ne (by omega), ih (by omega)]

/-- The slot of an event that is not overwritten. -/
lemma after_mod (events : List α) {j : ℕ} (hj : j < events.length) (hlast : events.length ≤ j + capacity) :
    after capacity slots events (j % capacity) = events[j] := by
  induction events using List.reverseRecOn with
  | nil => simp at hj
  | append_singleton events event ih =>
    rw [List.length_append, List.length_singleton] at hj hlast
    rw [after_append]
    by_cases hnew : j = events.length
    · subst hnew
      simp
    · -- the new event goes elsewhere, for the numbers differ by less than the capacity
      have hne : j % capacity ≠ events.length % capacity := by
        intro h
        have hmod : (events.length - j) % capacity = 0 := Nat.sub_mod_eq_zero_of_mod_eq h.symm
        have hlt : events.length - j < capacity := by omega
        rw [Nat.mod_eq_of_lt hlt] at hmod
        omega
      rw [Function.update_of_ne hne, ih (by omega) (by omega), List.getElem_append_left]

/-- **The slots of a full ring** are the last events, turned. -/
theorem range_map_after {events : List α} (hfull : capacity ≤ events.length) :
    ((List.range capacity).map (after capacity slots events)).rotate events.length =
      events.drop (events.length - capacity) := by
  apply List.ext_getElem
  · simp
    omega
  · intro i hi hi'
    simp only [List.length_rotate, List.length_map, List.length_range] at hi
    have hslot := after_mod capacity slots events (show events.length - capacity + i < events.length by omega)
      (by omega)
    have hmod : (events.length - capacity + i) % capacity = (i + events.length) % capacity := by
      rw [← Nat.add_mod_right (events.length - capacity + i)]
      congr 1
      omega
    rw [List.getElem_rotate, List.getElem_map, List.getElem_range, List.length_map, List.length_range, ← hmod, hslot,
      List.getElem_drop]

end Slots

/-! ### Order -/

/-- **Sorting by number** turns any order of a log back into the log. -/
theorem insertionSort_of_perm {r : α → α → Prop} [DecidableRel r] {number : α → ℕ}
    (hr : ∀ a b, r a b ↔ number a ≤ number b) {list log : List α} (hperm : list.Perm log)
    (hlog : log.Pairwise fun a b => number a < number b) : list.insertionSort r = log := by
  have htotal : Std.Total r := ⟨fun a b => by rw [hr, hr]; exact le_total _ _⟩
  have hsymm : Std.Symm fun a b : α => number a = number b → a = b := ⟨fun _ _ h heq => (h heq.symm).symm⟩
  have htrans : IsTrans α r := ⟨fun a b c hab hbc => by rw [hr] at hab hbc ⊢; exact hab.trans hbc⟩
  have hsorted := List.pairwise_insertionSort r list
  have hsame : (list.insertionSort r).Perm log := (List.perm_insertionSort _ _).trans hperm
  have hinj : log.Pairwise fun a b => number a = number b → a = b := hlog.imp fun h heq => absurd heq h.ne
  refine List.Perm.eq_of_pairwise (fun a b ha hb hab hba => ?_) hsorted (hlog.imp fun h => (hr _ _).mpr h.le) hsame
  rw [hr] at hab hba
  exact hinj.forall_of_forall (fun _ _ _ => rfl) (hsame.mem_iff.mp ha) hb (le_antisymm hab hba)

end SnesModem.Lib.LogRing
