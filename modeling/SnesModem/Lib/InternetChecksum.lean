import Mathlib.Algebra.Group.Even
import Mathlib.Data.List.GetD
import Mathlib.Data.UInt
import SnesModem.Lib.OnesComplement

/-!
# The sum of the words of a string of octets

* `wordSum`: the sum, with all its carries;
* `fold_filled`: a string with its checksum sums to the word of ones;
* `fold_of_alters`: after a change of one word it does not.
-/

namespace SnesModem.Lib.InternetChecksum

open SnesModem.Lib.OnesComplement

/-- The sum of the words of the octets, with all its carries. -/
def wordSum : List UInt8 → ℕ
  | [] => 0
  | [octet] => 256 * octet.toNat
  | a :: b :: octets => 256 * a.toNat + b.toNat + wordSum octets

section Sum

variable (octets octets' : List UInt8)

lemma wordSum_append (heven : Even octets.length) : wordSum (octets ++ octets') = wordSum octets + wordSum octets' := by
  induction octets using wordSum.induct with
  | case1 => simp [wordSum]
  | case2 octet => exact absurd heven (by simp)
  | case3 a b octets ih =>
    have hrest : Even octets.length := by
      simp only [List.length_cons] at heven
      obtain ⟨k, hk⟩ := heven
      exact ⟨k - 1, by omega⟩
    simp only [List.cons_append, wordSum]
    rw [ih hrest]
    omega

/-- A field that lies at a word. -/
lemma wordSum_field (heven : Even octets.length) (a b : UInt8) : wordSum (octets ++ [a, b] ++ octets') =
    wordSum octets + wordSum octets' + (256 * a.toNat + b.toNat) := by
  rw [List.append_assoc, wordSum_append _ _ heven]
  simp only [List.cons_append, List.nil_append, wordSum]
  omega

/-- The sum of so many words. -/
lemma wordSum_le : 2 * wordSum octets ≤ 65535 * (octets.length + 1) := by
  induction octets using wordSum.induct with
  | case1 => simp [wordSum]
  | case2 octet =>
    have hoctet := octet.toNat_lt
    simp only [wordSum, List.length_singleton]
    omega
  | case3 a b octets ih =>
    have ha := a.toNat_lt
    have hb := b.toNat_lt
    simp only [wordSum, List.length_cons]
    omega

end Sum

/-! ### Checksums -/

section Filled

variable (octets octets' : List UInt8) {n : ℕ} {a b : UInt8}

/-- **A string with its checksum** sums to the word of ones, together with whatever else is summed.  The word of ones
may stand for a checksum of zero. -/
theorem fold_filled (heven : Even octets.length) {checksum : ℕ}
    (hchecksum : checksum = 65535 - fold 65535 (n + wordSum (octets ++ [0, 0] ++ octets')))
    (hfield : 256 * a.toNat + b.toNat = checksum ∨ checksum = 0 ∧ 256 * a.toNat + b.toNat = 65535) :
    fold 65535 (n + wordSum (octets ++ [a, b] ++ octets')) = 65535 := by
  have hzero : (0 : UInt8).toNat = 0 := rfl
  have hle := fold_le (m := 65535) (n := n + wordSum (octets ++ [0, 0] ++ octets')) (by omega)
  have hempty := wordSum_field octets octets' heven 0 0
  have hfilled : n + wordSum (octets ++ [a, b] ++ octets') =
      n + wordSum (octets ++ [0, 0] ++ octets') + (256 * a.toNat + b.toNat) := by
    rw [wordSum_field _ _ heven, hempty, hzero]
    omega
  rw [hfilled]
  rcases hfield with hvalue | ⟨hnone, hones⟩
  · rw [hvalue, hchecksum]
    exact fold_complement (by omega)
  · have hfold : fold 65535 (n + wordSum (octets ++ [0, 0] ++ octets')) = 65535 := by omega
    rw [← fold_fold_add, hfold, hones]
    rfl

end Filled

/-! ### Changes -/

/-- The word with the number `k`, padded if it is the last one and odd. -/
def wordOf (octets : List UInt8) (k : ℕ) : ℕ := 256 * (octets.getD (2 * k) 0).toNat + (octets.getD (2 * k + 1) 0).toNat

/-- Only the word `k` is changed, and not from one of the two zeros to the other. -/
structure Alters (k : ℕ) (octets octets' : List UInt8) : Prop where
  length : octets'.length = octets.length
  others : ∀ i, i / 2 ≠ k → octets'.getD i 0 = octets.getD i 0
  changed : octets' ≠ octets
  zero : ¬ (wordOf octets k = 0 ∧ wordOf octets' k = 65535)
  ones : ¬ (wordOf octets k = 65535 ∧ wordOf octets' k = 0)

section Changes

variable {k : ℕ} {octets octets' : List UInt8}

lemma wordOf_lt (octets : List UInt8) (k : ℕ) : wordOf octets k < 65536 := by
  have hhigh := (octets.getD (2 * k) 0).toNat_lt
  have hlow := (octets.getD (2 * k + 1) 0).toNat_lt
  unfold wordOf
  omega

@[simp] lemma wordOf_nil (k : ℕ) : wordOf [] k = 0 := rfl

@[simp] lemma wordOf_succ (a b : UInt8) (octets : List UInt8) (k : ℕ) :
    wordOf (a :: b :: octets) (k + 1) = wordOf octets k := rfl

lemma eq_of_getD (hlength : octets'.length = octets.length) (h : ∀ i, octets'.getD i 0 = octets.getD i 0) :
    octets' = octets := by
  refine List.ext_getElem hlength fun i hi hi' => ?_
  have hget := h i
  rwa [List.getD_eq_getElem _ _ hi, List.getD_eq_getElem _ _ hi'] at hget

/-- The sums of two strings that differ in one word differ as the words do. -/
lemma wordSum_add_wordOf (hlength : octets'.length = octets.length)
    (hothers : ∀ i, i / 2 ≠ k → octets'.getD i 0 = octets.getD i 0) :
    wordSum octets' + wordOf octets k = wordSum octets + wordOf octets' k := by
  induction octets using wordSum.induct generalizing octets' k with
  | case1 =>
    obtain rfl : octets' = [] := List.eq_nil_of_length_eq_zero hlength
    rfl
  | case2 octet =>
    obtain ⟨octet', rfl⟩ := List.length_eq_one_iff.mp hlength
    cases k with
    | zero =>
      show 256 * octet'.toNat + (256 * octet.toNat + 0) = 256 * octet.toNat + (256 * octet'.toNat + 0)
      omega
    | succ k =>
      have hsame : octet' = octet := hothers 0 (by omega)
      rw [hsame]
  | case3 a b octets ih =>
    match octets', hlength with
    | a' :: b' :: octets', hlength =>
      have hrest : octets'.length = octets.length := by simpa using hlength
      simp only [wordSum]
      cases k with
      | zero =>
        have hsame : octets' = octets := eq_of_getD hrest fun i => hothers (i + 2) (by omega)
        show 256 * a'.toNat + b'.toNat + wordSum octets' + (256 * a.toNat + b.toNat) =
          256 * a.toNat + b.toNat + wordSum octets + (256 * a'.toNat + b'.toNat)
        rw [hsame]
        omega
      | succ k =>
        have ha : a' = a := hothers 0 (by omega)
        have hb : b' = b := hothers 1 (by omega)
        have hih := ih (k := k) hrest fun i hi => hothers (i + 2) (by omega)
        rw [ha, hb, wordOf_succ, wordOf_succ]
        omega

lemma Alters.wordOf_ne (h : Alters k octets octets') : wordOf octets' k ≠ wordOf octets k := by
  intro hword
  refine h.changed (eq_of_getD h.length fun i => ?_)
  by_cases hi : i / 2 = k
  · have hhigh := (octets.getD (2 * k) 0).toNat_lt
    have hlow := (octets.getD (2 * k + 1) 0).toNat_lt
    have hhigh' := (octets'.getD (2 * k) 0).toNat_lt
    have hlow' := (octets'.getD (2 * k + 1) 0).toNat_lt
    unfold wordOf at hword
    apply UInt8.toNat_inj.mp
    obtain rfl | rfl : i = 2 * k ∨ i = 2 * k + 1 := by omega
    · omega
    · omega
  · exact h.others i hi

/-- One octet is changed. -/
lemma alters_set {i : ℕ} {octet : UInt8} (hi : i < octets.length) (hne : octets.getD i 0 ≠ octet)
    (hzero : ¬ (wordOf octets (i / 2) = 0 ∧ wordOf (octets.set i octet) (i / 2) = 65535))
    (hones : ¬ (wordOf octets (i / 2) = 65535 ∧ wordOf (octets.set i octet) (i / 2) = 0)) :
    Alters (i / 2) octets (octets.set i octet) := by
  refine ⟨List.length_set, fun j hj => ?_, fun heq => ?_, hzero, hones⟩
  · rw [List.getD_eq_getElem?_getD, List.getD_eq_getElem?_getD, List.getElem?_set_ne]
    rintro rfl
    exact hj rfl
  · rw [← heq, List.getD_eq_getElem?_getD, List.getElem?_set_self hi] at hne
    exact hne rfl

lemma getD_take {n i : ℕ} (hi : i < n) (octets : List UInt8) : (octets.take n).getD i 0 = octets.getD i 0 := by
  rw [List.getD_eq_getElem?_getD, List.getD_eq_getElem?_getD, List.getElem?_take_of_lt hi]

/-- A change that lies before the place where both are cut off. -/
lemma Alters.take (h : Alters k octets octets') {n : ℕ} (hk : 2 * k + 2 ≤ n) :
    Alters k (octets.take n) (octets'.take n) := by
  have hword (string : List UInt8) : wordOf (string.take n) k = wordOf string k := by
    unfold wordOf
    rw [getD_take (by omega), getD_take (by omega)]
  refine ⟨by rw [List.length_take, List.length_take, h.length], fun i hi => ?_, fun heq => ?_, ?_, ?_⟩
  · by_cases hin : i < n
    · rw [getD_take hin, getD_take hin]
      exact h.others i hi
    · rw [List.getD_eq_default _ _ (by rw [List.length_take]; omega),
        List.getD_eq_default _ _ (by rw [List.length_take]; omega)]
  · refine h.changed (eq_of_getD h.length fun i => ?_)
    by_cases hi : i / 2 = k
    · rw [← getD_take (n := n) (by omega), heq, getD_take (by omega)]
    · exact h.others i hi
  · rw [hword, hword]
    exact h.zero
  · rw [hword, hword]
    exact h.ones

/-- **A change of one word is seen.** -/
theorem fold_of_alters (h : Alters k octets octets') {n : ℕ} (hsum : fold 65535 (n + wordSum octets) = 65535) :
    fold 65535 (n + wordSum octets') ≠ 65535 := by
  intro hsum'
  have hmod (s : ℕ) (hs : fold 65535 s = 65535) : s % 65535 = 0 := by
    have hcongr : fold 65535 s % 65535 = s % 65535 := fold_modEq
    rw [← hcongr, hs]
  have hbefore := hmod _ hsum
  have hafter := hmod _ hsum'
  have hdiffer := wordSum_add_wordOf h.length h.others
  have hword := wordOf_lt octets k
  have hword' := wordOf_lt octets' k
  have hne := h.wordOf_ne
  have hzero := h.zero
  have hones := h.ones
  omega

end Changes

end SnesModem.Lib.InternetChecksum
