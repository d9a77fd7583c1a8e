import Mathlib.Data.List.Basic

/-!
# The edges of a flag

A flag that each step of a run may change, and the signals that report the changes: `true` where it rises,
`false` where it falls.

* `Tracks`: signals that lead from one value of the flag to another;
* `eq_alternating`, `count_true`: signals that start from a fallen flag alternate, and rises exceed falls by
  one exactly while the flag is raised.
-/

namespace SnesModem.Lib.Edges

/-- What a change of the flag signals. -/
def edge (before after : Bool) : List Bool := if before = after then [] else [after]

/-- Each signal reports a change, and the last one the value that the flag has. -/
def Tracks : Bool → List Bool → Bool → Prop
  | before, [], after => before = after
  | before, signal :: signals, after => signal = !before ∧ Tracks signal signals after

/-- The signals of a flag that starts fallen. -/
def alternating (n : ℕ) : List Bool := (List.range n).map fun k => k % 2 = 0

variable {before between after : Bool} {signals signals' : List Bool}

lemma tracks_edge : Tracks before (edge before after) after := by
  unfold edge
  split_ifs with h
  · exact h
  · exact ⟨by cases before <;> cases after <;> simp at h ⊢, rfl⟩

lemma Tracks.append (h : Tracks before signals between) (h' : Tracks between signals' after) :
    Tracks before (signals ++ signals') after := by
  induction signals generalizing before with
  | nil =>
    obtain rfl : before = between := h
    exact h'
  | cons signal signals ih => exact ⟨h.1, ih h.2⟩

lemma alternating_succ (n : ℕ) : alternating (n + 1) = true :: (alternating n).map (!·) := by
  unfold alternating
  rw [List.range_succ_eq_map, List.map_cons, List.map_map, List.map_map]
  refine congrArg₂ _ rfl (List.map_congr_left fun k _ => ?_)
  have hparity : k % 2 = 0 ∨ k % 2 = 1 := by omega
  rcases hparity with h | h
  · have hnext : (k + 1) % 2 = 1 := by omega
    simp [h, hnext]
  · have hnext : (k + 1) % 2 = 0 := by omega
    simp [h, hnext]

/-- The signals, complemented where the flag starts raised. -/
lemma eq_alternating_or (h : Tracks before signals after) :
    signals = if before then (alternating signals.length).map (!·) else alternating signals.length := by
  induction signals generalizing before with
  | nil => cases before <;> rfl
  | cons signal signals ih =>
    obtain ⟨rfl, hrest⟩ := h
    have htail := ih hrest
    rw [List.length_cons, alternating_succ]
    cases before with
    | false =>
      rw [if_neg Bool.false_ne_true]
      exact congrArg _ (htail.trans (if_pos rfl))
    | true =>
      rw [if_pos rfl, List.map_cons, List.map_map]
      refine congrArg _ (htail.trans ?_)
      simp [Function.comp_def]

/-- **Signals of a flag that starts fallen alternate**, a rise first. -/
theorem eq_alternating (h : Tracks false signals after) : signals = alternating signals.length := eq_alternating_or h

/-- **Rises exceed falls by one** while the flag is raised, and are as many otherwise. -/
theorem count_true (h : Tracks before signals after) :
    signals.count true + before.toNat = signals.count false + after.toNat := by
  induction signals generalizing before with
  | nil =>
    obtain rfl : before = after := h
    rfl
  | cons signal signals ih =>
    obtain ⟨rfl, hrest⟩ := h
    have htail := ih hrest
    cases before with
    | false =>
      simp only [Bool.not_false, List.count_cons_self, Bool.toNat_true, Bool.toNat_false] at htail ⊢
      rw [List.count_cons_of_ne (by decide)]
      omega
    | true =>
      simp only [Bool.not_true, List.count_cons_self, Bool.toNat_true, Bool.toNat_false] at htail ⊢
      rw [List.count_cons_of_ne (by decide)]
      omega

end SnesModem.Lib.Edges
