import Mathlib.Data.List.TakeDrop

/-!
# Incremental search for a pattern

A matcher keeps the length of the longest prefix of its pattern that the text read so far ends with.  For a
pattern that has no borders, a mismatch leaves nothing but a new start.

* `Longest`: what the matcher knows of the text;
* `Longest.advance`: it knows it one symbol later;
* `Longest.complete_iff`: the pattern has just been read.
-/

namespace SnesModem.Lib.Matcher

variable {α : Type*}

/-- The length of the longest prefix of the pattern that the text ends with. -/
structure Longest (pattern text : List α) (k : ℕ) : Prop where
  le : k ≤ pattern.length
  ends : pattern.take k <:+ text
  maximal : ∀ j ≤ pattern.length, pattern.take j <:+ text → j ≤ k

/-- No proper prefix of the pattern ends with a shorter one. -/
def Borderless (pattern : List α) : Prop :=
  ∀ k < pattern.length, ∀ i < k, 0 < i → ¬ pattern.take i <:+ pattern.take k

/-- The length after one more symbol. -/
def advance [DecidableEq α] (pattern : List α) (k : ℕ) (symbol : α) : ℕ :=
  if pattern[k]? = some symbol then k + 1 else if pattern[0]? = some symbol then 1 else 0

section Longest

variable {pattern text : List α} {k : ℕ} {symbol : α}

lemma longest_nil (pattern : List α) : Longest pattern [] 0 where
  le := Nat.zero_le _
  ends := by simp
  maximal := by
    intro j hj hsuffix
    have hempty : pattern.take j = [] := List.suffix_nil.mp hsuffix
    rw [List.take_eq_nil_iff] at hempty
    rcases hempty with rfl | rfl
    · exact Nat.le_refl 0
    · exact hj

/-- A prefix ends a text if its last symbol does, behind the shorter prefix. -/
lemma take_succ_suffix {j : ℕ} (hj : j < pattern.length) :
    pattern.take (j + 1) <:+ text ++ [symbol] ↔ pattern[j]? = some symbol ∧ pattern.take j <:+ text := by
  rw [List.take_add_one, List.getElem?_eq_getElem hj, Option.toList_some, List.suffix_concat_iff]
  constructor
  · rintro (hnil | ⟨rest, hrest, hsuffix⟩)
    · exact absurd hnil (List.append_ne_nil_of_right_ne_nil _ (List.cons_ne_nil _ _))
    · obtain ⟨htake, hlast⟩ := List.append_inj' hrest rfl
      rw [htake]
      exact ⟨by simpa using hlast, hsuffix⟩
  · rintro ⟨hsymbol, hsuffix⟩
    rw [Option.some_inj.mp hsymbol]
    exact Or.inr ⟨_, rfl, hsuffix⟩

/-- A mismatch leaves no other prefix to go on with than the empty one. -/
lemma Longest.eq_zero_of_mismatch (hborderless : Borderless pattern) (h : Longest pattern text k)
    (hk : k < pattern.length) (hmismatch : pattern[k]? ≠ some symbol) {j : ℕ} (hj : j < pattern.length)
    (hsymbol : pattern[j]? = some symbol) (hends : pattern.take j <:+ text) : j = 0 := by
  have hjk := h.maximal j (by omega) hends
  have hne : j ≠ k := by
    rintro rfl
    exact hmismatch hsymbol
  by_contra hpositive
  -- Both prefixes end the text, so that the shorter one is a border of the longer one.
  apply hborderless k hk j (by omega) (by omega)
  apply List.suffix_of_suffix_length_le hends h.ends
  rw [List.length_take, List.length_take]
  omega

/-- **The matcher keeps the longest prefix**, as long as the pattern is not complete. -/
theorem Longest.advance [DecidableEq α] (hborderless : Borderless pattern) (h : Longest pattern text k)
    (hk : k < pattern.length) (symbol : α) : Longest pattern (text ++ [symbol]) (advance pattern k symbol) := by
  unfold Matcher.advance
  split_ifs with hnext hfirst
  · refine ⟨hk, (take_succ_suffix hk).mpr ⟨hnext, h.ends⟩, fun j hj hsuffix => ?_⟩
    cases j with
    | zero => omega
    | succ j =>
      have := h.maximal j (by omega) ((take_succ_suffix hj).mp hsuffix).2
      omega
  · refine ⟨by omega, (take_succ_suffix (by omega)).mpr ⟨hfirst, by simp⟩, fun j hj hsuffix => ?_⟩
    cases j with
    | zero => omega
    | succ j =>
      obtain ⟨hsymbol, hshorter⟩ := (take_succ_suffix hj).mp hsuffix
      have := h.eq_zero_of_mismatch hborderless hk hnext hj hsymbol hshorter
      omega
  · refine ⟨Nat.zero_le _, by simp, fun j hj hsuffix => ?_⟩
    cases j with
    | zero => omega
    | succ j =>
      obtain ⟨hsymbol, hshorter⟩ := (take_succ_suffix hj).mp hsuffix
      obtain rfl := h.eq_zero_of_mismatch hborderless hk hnext hj hsymbol hshorter
      exact absurd hsymbol hfirst

/-- **The text ends with the pattern** exactly when the matcher has come to its end. -/
theorem Longest.complete_iff (h : Longest pattern text k) : k = pattern.length ↔ pattern <:+ text := by
  constructor
  · rintro rfl
    simpa using h.ends
  · intro hsuffix
    have := h.maximal pattern.length (Nat.le_refl _) (by simpa using hsuffix)
    exact Nat.le_antisymm h.le this

end Longest

end SnesModem.Lib.Matcher
