import Mathlib.Algebra.Order.Ring.Nat
import Mathlib.Data.Nat.ModEq

/-!
# Sums with an end-around carry

Words below `m + 1`, whose carry is added at the low end: the sums are those modulo `m`, except that only the sum of
zeros is zero.

* `fold`: the word of a sum;
* `fold_fold_add`: the words of a sum can be added in any order and in any groups;
* `fold_complement`: a sum and its complement give the word of ones.
-/

namespace SnesModem.Lib.OnesComplement

/-- The word of a sum. -/
def fold (m n : ℕ) : ℕ := if n = 0 then 0 else (n - 1) % m + 1

section Fold

variable {m n k : ℕ}

@[simp] lemma fold_zero : fold m 0 = 0 := rfl

lemma fold_of_pos (h : 0 < n) : fold m n = (n - 1) % m + 1 := if_neg (by omega)

lemma fold_pos_iff : 0 < fold m n ↔ 0 < n := by
  constructor
  · intro h
    by_contra hn
    obtain rfl : n = 0 := by omega
    simp at h
  · intro h
    rw [fold_of_pos h]
    omega

/-- A word is its own. -/
lemma fold_of_le (h : n ≤ m) : fold m n = n := by
  rcases Nat.eq_zero_or_pos n with rfl | hn
  · rfl
  · rw [fold_of_pos hn, Nat.mod_eq_of_lt (by omega)]
    omega

lemma fold_le (hm : 0 < m) : fold m n ≤ m := by
  rcases Nat.eq_zero_or_pos n with rfl | hn
  · simp
  · have hlt := Nat.mod_lt (n - 1) hm
    rw [fold_of_pos hn]
    omega

lemma fold_modEq : fold m n ≡ n [MOD m] := by
  rcases Nat.eq_zero_or_pos n with rfl | hn
  · rfl
  · rw [fold_of_pos hn]
    have h := (Nat.mod_modEq (n - 1) m).add_right 1
    rwa [Nat.sub_add_cancel hn] at h

/-- The word of a positive sum is known by its residue. -/
lemma fold_eq_of_modEq (hn : 0 < n) (hk : 0 < k) (h : n ≡ k [MOD m]) : fold m n = fold m k := by
  have hpred : n - 1 ≡ k - 1 [MOD m] := by
    apply Nat.ModEq.add_right_cancel' 1
    rwa [Nat.sub_add_cancel hn, Nat.sub_add_cancel hk]
  rw [fold_of_pos hn, fold_of_pos hk, hpred]

/-- **The carry may be taken at any time.** -/
theorem fold_fold_add : fold m (fold m n + k) = fold m (n + k) := by
  rcases Nat.eq_zero_or_pos n with rfl | hn
  · simp
  · have hpos := fold_pos_iff (m := m).mpr hn
    apply fold_eq_of_modEq (by omega) (by omega)
    exact fold_modEq.add_right k

/-- The sum of two words, with the carry that goes around. -/
lemma fold_add_of_le (hn : n ≤ m) (hk : k ≤ m) : fold m (n + k) = if m < n + k then n + k - m else n + k := by
  split_ifs with hcarry
  · rw [fold_of_pos (by omega), Nat.mod_eq_sub_mod (by omega), Nat.mod_eq_of_lt (by omega)]
    omega
  · exact fold_of_le (by omega)

/-- **A sum and the complement of its word** give the word of ones. -/
theorem fold_complement (hm : 0 < m) : fold m (n + (m - fold m n)) = m := by
  rw [← fold_fold_add, Nat.add_sub_cancel' (fold_le hm)]
  exact fold_of_le le_rfl

end Fold

end SnesModem.Lib.OnesComplement
