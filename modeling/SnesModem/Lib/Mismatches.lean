import Mathlib.Data.List.Basic

/-!
# Comparison of two lists

* `mismatches`, `firstMismatch`: how many elements differ from those expected, and where the first one stands;
* `mismatches_concat`, `firstMismatch_concat`: one more pair.
-/

namespace SnesModem.Lib.Mismatches

variable {α : Type*} [DecidableEq α]

/-- How many elements differ from those expected. -/
def mismatches (actual expected : List α) : ℕ := (actual.zip expected).countP fun pair => pair.1 ≠ pair.2

/-- Where the first element stands that differs. -/
def firstMismatch (actual expected : List α) : Option ℕ :=
  (actual.zip expected).findIdx? fun pair => pair.1 ≠ pair.2

variable {actual expected : List α}

lemma mismatches_le : mismatches actual expected ≤ actual.length := by
  apply Nat.le_trans List.countP_le_length
  rw [List.length_zip]
  exact Nat.min_le_left _ _

lemma mismatches_concat (h : actual.length = expected.length) (a b : α) :
    mismatches (actual ++ [a]) (expected ++ [b]) = mismatches actual expected + if a = b then 0 else 1 := by
  unfold mismatches
  rw [List.zip_append h, List.countP_append]
  split_ifs with hsame
  · simp [hsame]
  · simp [hsame]

/-- There is no first mismatch exactly if there is none. -/
lemma firstMismatch_eq_none : firstMismatch actual expected = none ↔ mismatches actual expected = 0 := by
  unfold firstMismatch mismatches
  rw [List.findIdx?_eq_none_iff, List.countP_eq_zero]
  simp

/-- The first one that differs is one of the list. -/
lemma firstMismatch_lt {i : ℕ} (h : firstMismatch actual expected = some i) : i < actual.length := by
  obtain ⟨hi, -⟩ := List.findIdx?_eq_some_iff_getElem.mp h
  rw [List.length_zip] at hi
  exact Nat.lt_of_lt_of_le hi (Nat.min_le_left _ _)

lemma firstMismatch_concat (h : actual.length = expected.length) (a b : α) :
    firstMismatch (actual ++ [a]) (expected ++ [b]) =
      (firstMismatch actual expected).or (if a = b then none else some actual.length) := by
  unfold firstMismatch
  rw [List.zip_append h, List.findIdx?_append, List.length_zip, h, Nat.min_self]
  split_ifs with hsame
  · simp [hsame]
  · simp [hsame]

end SnesModem.Lib.Mismatches
