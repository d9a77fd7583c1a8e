import Mathlib.Data.BitVec
import Mathlib.Data.List.Basic
import Mathlib.Logic.Function.Iterate

/-!
# Reflected cyclic redundancy checks

A register of `w` bits that is shifted right, one bit a step, and takes the polynomial in when the bit
that leaves is set (`shift`).  A word of `n` bits is absorbed by `n` steps from its exclusive or with the
register (`absorb`).

* `absorb_xor`: absorbing is linear in exclusive or, register and word together;
* `absorb_own_low`: a register that absorbs its own low bits only moves down;
* `absorb_not_own_low`: what it absorbs of its complement adds a constant to that;
* `absorbBits_eq_absorb`: bits that are taken in one by one are a word that is taken in at once;
* `absorbBits_burst`: bits set within one width of the register do not go unseen.
-/

namespace SnesModem.Lib.ReflectedCrc

variable {w : ℕ} (poly : BitVec w)

/-- One step of the register. -/
def shift (c : BitVec w) : BitVec w :=
  if c.getLsbD 0 then (c >>> 1) ^^^ poly else c >>> 1

/-- The word `d` of `n` bits, taken into the register. -/
def absorb (n : ℕ) (c d : BitVec w) : BitVec w := (shift poly)^[n] (c ^^^ d)

/-- The low `n` bits of a register, as a word. -/
def low (n : ℕ) (c : BitVec w) : BitVec w := c &&& ~~~((BitVec.allOnes w) <<< n)

/-! ### Linearity -/

lemma xor_cancel_right (a b p : BitVec w) : a ^^^ p ^^^ (b ^^^ p) = a ^^^ b := by
  rw [BitVec.xor_assoc, ← BitVec.xor_assoc p b p, BitVec.xor_comm p b, BitVec.xor_assoc b p p,
    BitVec.xor_self, BitVec.xor_zero]

theorem shift_xor (a b : BitVec w) : shift poly (a ^^^ b) = shift poly a ^^^ shift poly b := by
  unfold shift
  simp only [BitVec.getLsbD_xor, BitVec.ushiftRight_xor_distrib]
  cases a.getLsbD 0 <;> cases b.getLsbD 0
  · simp
  · simp [BitVec.xor_assoc]
  · simp only [Bool.xor_false, if_true, Bool.false_eq_true, if_false]
    ac_rfl
  · simp [xor_cancel_right]

theorem iterate_shift_xor (n : ℕ) (a b : BitVec w) :
    (shift poly)^[n] (a ^^^ b) = (shift poly)^[n] a ^^^ (shift poly)^[n] b := by
  induction n generalizing a b with
  | zero => rfl
  | succ n ih => simp only [Function.iterate_succ_apply, shift_xor, ih]

theorem absorb_xor (n : ℕ) (c c' d d' : BitVec w) :
    absorb poly n (c ^^^ c') (d ^^^ d') = absorb poly n c d ^^^ absorb poly n c' d' := by
  unfold absorb
  rw [← iterate_shift_xor]
  congr 1
  ac_rfl

/-! ### A register that absorbs its own bits -/

lemma getLsbD_low (n : ℕ) (c : BitVec w) (i : ℕ) :
    (low n c).getLsbD i = (decide (i < n) && c.getLsbD i) := by
  unfold low
  by_cases hw : i < w
  · by_cases hn : i < n
    · simp [hn, hw]
    · simp [hn, hw]
  · rw [BitVec.getLsbD_of_ge _ i (by omega), BitVec.getLsbD_of_ge c i (by omega)]
    simp

/-- A register whose low `n` bits are clear only moves down through `n` steps. -/
theorem iterate_shift_of_low_clear (n : ℕ) (c : BitVec w) (h : ∀ i < n, c.getLsbD i = false) :
    (shift poly)^[n] c = c >>> n := by
  induction n with
  | zero => simp
  | succ n ih =>
    have hn : (c >>> n).getLsbD 0 = false := by simpa using h n (by omega)
    rw [Function.iterate_succ_apply', ih fun i hi => h i (by omega)]
    unfold shift
    rw [hn, if_neg (by simp), BitVec.shiftRight_add]

/-- **A register that absorbs its own low bits only moves down.** -/
theorem absorb_own_low (n : ℕ) (c : BitVec w) : absorb poly n c (low n c) = c >>> n := by
  have clear : ∀ i < n, (c ^^^ low n c).getLsbD i = false := by
    intro i hi
    simp [getLsbD_low, hi]
  unfold absorb
  rw [iterate_shift_of_low_clear poly n _ clear]
  apply BitVec.eq_of_getLsbD_eq
  intro i _
  simp [getLsbD_low, show ¬ n + i < n by omega]

/-- **A register that absorbs the low bits of its complement** moves down and takes in a constant. -/
theorem absorb_not_own_low (n : ℕ) (c : BitVec w) :
    absorb poly n c (low n (~~~c)) = (c >>> n) ^^^ absorb poly n 0 (low n (BitVec.allOnes w)) := by
  have split : low n (~~~c) = low n c ^^^ low n (BitVec.allOnes w) := by
    apply BitVec.eq_of_getLsbD_eq
    intro i hi
    simp only [getLsbD_low, BitVec.getLsbD_xor, BitVec.getLsbD_not, BitVec.getLsbD_allOnes]
    cases decide (i < n) <;> cases c.getLsbD i <;> simp [hi]
  calc absorb poly n c (low n (~~~c))
      = absorb poly n (c ^^^ 0) (low n c ^^^ low n (BitVec.allOnes w)) := by
        rw [split, show c ^^^ 0 = c from BitVec.xor_zero]
    _ = absorb poly n c (low n c) ^^^ absorb poly n 0 (low n (BitVec.allOnes w)) :=
        absorb_xor poly n c 0 _ _
    _ = (c >>> n) ^^^ absorb poly n 0 (low n (BitVec.allOnes w)) := by rw [absorb_own_low]

/-- **A register that absorbs the two words of its complement**, low word first, moves down by both and
takes in a constant: the residue, when the two words are all of the register. -/
theorem absorb_not_own_words (n : ℕ) (c : BitVec w) :
    absorb poly n (absorb poly n c (low n (~~~c))) (low n (~~~(c >>> n))) =
      (c >>> n >>> n) ^^^ absorb poly n (absorb poly n 0 (low n (BitVec.allOnes w)))
        (low n (BitVec.allOnes w)) := by
  set k := absorb poly n 0 (low n (BitVec.allOnes w)) with hk
  calc absorb poly n (absorb poly n c (low n (~~~c))) (low n (~~~(c >>> n)))
      = absorb poly n ((c >>> n) ^^^ k) (low n (~~~(c >>> n)) ^^^ 0) := by
        rw [absorb_not_own_low, show ∀ x : BitVec w, x ^^^ 0 = x from fun _ => BitVec.xor_zero]
    _ = absorb poly n (c >>> n) (low n (~~~(c >>> n))) ^^^ absorb poly n k 0 :=
        absorb_xor poly n _ _ _ _
    _ = (c >>> n >>> n) ^^^ (absorb poly n 0 (low n (BitVec.allOnes w)) ^^^ absorb poly n k 0) := by
        rw [absorb_not_own_low, BitVec.xor_assoc]
    _ = (c >>> n >>> n) ^^^ absorb poly n k (low n (BitVec.allOnes w)) := by
        rw [← absorb_xor, show (0 : BitVec w) ^^^ k = k from BitVec.zero_xor,
          show ∀ x : BitVec w, x ^^^ 0 = x from fun _ => BitVec.xor_zero]

/-! ### Bits that are taken in one by one -/

/-- A bit, at the low end of a word. -/
def bit (b : Bool) : BitVec w := (BitVec.ofBool b).setWidth w

/-- The register after the bits, which are taken in one by one. -/
def absorbBits (c : BitVec w) (bits : List Bool) : BitVec w := bits.foldl (fun c b => shift poly (c ^^^ bit b)) c

/-- The word of the bits, the first one at its low end. -/
def wordOf : List Bool → BitVec w
  | [] => 0
  | b :: bits => bit b ^^^ wordOf bits <<< 1

section Bits

lemma getLsbD_bit (b : Bool) (i : ℕ) : (bit b : BitVec w).getLsbD i = (decide (i < w) && decide (i = 0) && b) := by
  unfold bit
  rw [BitVec.getLsbD_setWidth]
  cases i <;> simp

lemma getLsbD_wordOf (bits : List Bool) (i : ℕ) :
    (wordOf bits : BitVec w).getLsbD i = (decide (i < w) && bits.getD i false) := by
  induction bits generalizing i with
  | nil => simp [wordOf]
  | cons b bits ih =>
    unfold wordOf
    rw [BitVec.getLsbD_xor, getLsbD_bit, BitVec.getLsbD_shiftLeft]
    cases i with
    | zero => simp
    | succ i =>
      rw [Nat.add_sub_cancel, ih, List.getD_cons_succ]
      by_cases hi : i + 1 < w
      · simp [hi, show i < w by omega]
      · simp [hi]

/-- A word moved up by one place moves down again. -/
lemma shift_shiftLeft {x : BitVec w} (h : x.getLsbD (w - 1) = false) : shift poly (x <<< 1) = x := by
  have hlow : (x <<< 1).getLsbD 0 = false := by simp
  unfold shift
  rw [hlow, if_neg Bool.false_ne_true]
  apply BitVec.eq_of_getLsbD_eq
  intro i hi
  rw [BitVec.getLsbD_ushiftRight, BitVec.getLsbD_shiftLeft]
  by_cases hlast : i = w - 1
  · rw [hlast, h]
    simp [h]
  · simp [show 1 + i < w by omega]

/-- **Bits are a word**: no more of them than the register has may be taken in at once. -/
theorem absorbBits_eq_absorb (c : BitVec w) {bits : List Bool} (h : bits.length ≤ w) :
    absorbBits poly c bits = absorb poly bits.length c (wordOf bits) := by
  induction bits generalizing c with
  | nil =>
    show c = c ^^^ 0
    rw [show c ^^^ 0 = c from BitVec.xor_zero]
  | cons b bits ih =>
    rw [List.length_cons] at h
    have htop : (wordOf bits : BitVec w).getLsbD (w - 1) = false := by
      rw [getLsbD_wordOf, List.getD_eq_getElem?_getD, List.getElem?_eq_none (by omega)]
      simp
    calc absorbBits poly c (b :: bits)
        = absorb poly bits.length (shift poly (c ^^^ bit b)) (wordOf bits) := ih _ (by omega)
      _ = (shift poly)^[bits.length] (shift poly (c ^^^ bit b) ^^^ shift poly (wordOf bits <<< 1)) := by
          rw [shift_shiftLeft poly htop]
          rfl
      _ = absorb poly (b :: bits).length c (wordOf (b :: bits)) := by
          rw [← shift_xor, BitVec.xor_assoc]
          rfl

lemma absorbBits_append (c : BitVec w) (bits bits' : List Bool) :
    absorbBits poly c (bits ++ bits') = absorbBits poly (absorbBits poly c bits) bits' := List.foldl_append

end Bits

/-! ### Bursts -/

section Bursts

variable {poly} (hpoly : poly.getLsbD (w - 1) = true)

lemma shift_zero : shift poly 0 = 0 := by
  unfold shift
  simp

lemma absorbBits_false {bits : List Bool} (h : ∀ b ∈ bits, b = false) (c : BitVec w) :
    absorbBits poly c bits = (shift poly)^[bits.length] c := by
  induction bits generalizing c with
  | nil => rfl
  | cons b bits ih =>
    obtain ⟨hb, hbits⟩ := List.forall_mem_cons.mp h
    have hbit : c ^^^ bit b = c := by
      rw [hb]
      apply BitVec.eq_of_getLsbD_eq
      intro i _
      rw [BitVec.getLsbD_xor, getLsbD_bit]
      simp
    show absorbBits poly (shift poly (c ^^^ bit b)) bits = _
    rw [hbit, ih hbits]
    rfl

include hpoly

/-- A polynomial with its leading bit loses no register. -/
lemma shift_eq_zero_iff {c : BitVec w} : shift poly c = 0 ↔ c = 0 := by
  refine ⟨fun h => ?_, fun h => by rw [h]; exact shift_zero⟩
  unfold shift at h
  cases hlow : c.getLsbD 0 with
  | true =>
    rw [hlow, if_pos rfl] at h
    have htop := congrArg (fun x => x.getLsbD (w - 1)) h
    have hmoved : (c >>> 1).getLsbD (w - 1) = false := by
      rw [BitVec.getLsbD_ushiftRight]
      exact BitVec.getLsbD_of_ge _ _ (by omega)
    simp only [BitVec.getLsbD_xor, hmoved, hpoly] at htop
    simp at htop
  | false =>
    rw [hlow, if_neg Bool.false_ne_true] at h
    apply BitVec.eq_of_getLsbD_eq
    intro i hi
    cases i with
    | zero => simpa using hlow
    | succ i =>
      have hbit := congrArg (fun x => x.getLsbD i) h
      simp only [BitVec.getLsbD_ushiftRight] at hbit
      rw [Nat.add_comm]
      simpa using hbit

lemma iterate_shift_eq_zero_iff (n : ℕ) {c : BitVec w} : (shift poly)^[n] c = 0 ↔ c = 0 := by
  induction n generalizing c with
  | zero => rfl
  | succ n ih => rw [Function.iterate_succ_apply, ih, shift_eq_zero_iff hpoly]

/-- **A burst is seen**: bits that leave an empty register empty, and of which those that are set lie within one width
of the register, are all clear. -/
theorem absorbBits_burst {bits : List Bool} {start : ℕ}
    (hburst : ∀ i, bits.getD i false = true → start ≤ i ∧ i < start + w) (hzero : absorbBits poly 0 bits = 0) (i : ℕ) :
    bits.getD i false = false := by
  have hsplit : bits = bits.take start ++ ((bits.drop start).take w ++ (bits.drop start).drop w) := by
    rw [List.take_append_drop, List.take_append_drop]
  have hclear {part : List Bool} (offset : ℕ) (hpart : ∀ k, part[k]? = some true → bits.getD (offset + k) false = true)
      (hout : ∀ k, part[k]? = some true → ¬ (start ≤ offset + k ∧ offset + k < start + w)) : ∀ b ∈ part, b = false := by
    intro b hb
    obtain ⟨k, hk⟩ := List.mem_iff_getElem?.mp hb
    cases b with
    | false => rfl
    | true => exact absurd (hburst _ (hpart k hk)) (hout k hk)
  have hbefore : ∀ b ∈ bits.take start, b = false := by
    refine hclear 0 (fun k hk => ?_) (fun k hk => ?_)
    · rw [List.getElem?_take] at hk
      split_ifs at hk
      rw [Nat.zero_add, List.getD_eq_getElem?_getD, hk]
      rfl
    · rw [List.getElem?_take] at hk
      split_ifs at hk
      omega
  have hbehind : ∀ b ∈ (bits.drop start).drop w, b = false := by
    refine hclear (start + w) (fun k hk => ?_) (fun k _ => by omega)
    rw [List.drop_drop, List.getElem?_drop] at hk
    rw [List.getD_eq_getElem?_getD, hk]
    rfl
  have hshort : ((bits.drop start).take w).length ≤ w := by
    rw [List.length_take]
    omega
  -- The register is empty before the burst, and nothing empties it behind the burst.
  rw [hsplit, absorbBits_append, absorbBits_append, absorbBits_false hbefore, absorbBits_false hbehind,
    iterate_shift_eq_zero_iff hpoly, (iterate_shift_eq_zero_iff hpoly _).mpr rfl, absorbBits_eq_absorb _ _ hshort] at hzero
  unfold absorb at hzero
  rw [iterate_shift_eq_zero_iff hpoly, show ∀ x : BitVec w, 0 ^^^ x = x from fun _ => BitVec.zero_xor] at hzero
  by_contra hset
  rw [Bool.not_eq_false] at hset
  obtain ⟨hfrom, hto⟩ := hburst i hset
  have hbit := congrArg (fun x => x.getLsbD (i - start)) hzero
  simp only [getLsbD_wordOf] at hbit
  rw [List.getD_eq_getElem?_getD, List.getElem?_take, if_pos (by omega), List.getElem?_drop,
    Nat.add_sub_cancel' hfrom, ← List.getD_eq_getElem?_getD, hset] at hbit
  simp at hbit
  omega

end Bursts

end SnesModem.Lib.ReflectedCrc
