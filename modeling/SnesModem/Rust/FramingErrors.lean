import SnesModem.Rust.FramingStream

/-!
# Errors that the frame check sequence sees

* `foldl_corrupted`: the check sequence is linear in the octets and the error together;
* `foldl_updateFcs16_bits`: octets are taken in bit by bit, in the order of their transmission;
* `fcs16_sees_bursts`: a frame with its check sequence has the good residue, and loses it to every error within 16
  bits.
-/

namespace SnesModem.Rust.FramingErrors

open SnesModem.Lib SnesModem.Rust.Framing SnesModem.Rust.FramingStream

/-- The bits of octets in the order of their transmission, each octet from its low end. -/
def transmittedBits (octets : List UInt8) : List Bool :=
  octets.flatMap fun octet => (List.range 8).map fun i => octet.toBitVec.getLsbD i

/-- The octets with the bits of the error flipped. -/
def corrupted (octets error : List UInt8) : List UInt8 := List.zipWith (· ^^^ ·) octets error

/-- The bits that are set lie within so many consecutive ones. -/
def Burst (width : ℕ) (bits : List Bool) : Prop :=
  ∃ start, ∀ i, bits[i]? = some true → start ≤ i ∧ i < start + width

section Errors

variable {octets error : List UInt8}

lemma wordOf_octet (octet : UInt8) :
    (ReflectedCrc.wordOf ((List.range 8).map fun i => octet.toBitVec.getLsbD i) : BitVec 16) =
      octet.toBitVec.setWidth 16 := by
  apply BitVec.eq_of_getLsbD_eq
  intro i hi
  rw [ReflectedCrc.getLsbD_wordOf, BitVec.getLsbD_setWidth, List.getD_eq_getElem?_getD]
  by_cases hlow : i < 8
  · simp [hi, hlow]
  · rw [BitVec.getLsbD_of_ge _ i (by omega)]
    simp [hlow]

/-- Octets are taken in bit by bit. -/
lemma foldl_updateFcs16_bits (octets : List UInt8) (c : UInt16) :
    (octets.foldl updateFcs16 c).toBitVec = ReflectedCrc.absorbBits 0x8408#16 c.toBitVec (transmittedBits octets) := by
  induction octets generalizing c with
  | nil => rfl
  | cons octet octets ih =>
    have hbits : transmittedBits (octet :: octets) =
        ((List.range 8).map fun i => octet.toBitVec.getLsbD i) ++ transmittedBits octets := rfl
    have hone : ReflectedCrc.absorbBits 0x8408#16 c.toBitVec ((List.range 8).map fun i => octet.toBitVec.getLsbD i) =
        ReflectedCrc.absorb 0x8408#16 8 c.toBitVec (octet.toBitVec.setWidth 16) := by
      rw [ReflectedCrc.absorbBits_eq_absorb _ _ (by simp), wordOf_octet]
      rfl
    rw [hbits, ReflectedCrc.absorbBits_append, List.foldl_cons, ih, toBitVec_updateFcs16, hone]

/-- **The check sequence is linear**: the error is taken in by a register of its own. -/
lemma foldl_corrupted (h : error.length = octets.length) (c c' : UInt16) :
    (corrupted octets error).foldl updateFcs16 (c ^^^ c') =
      octets.foldl updateFcs16 c ^^^ error.foldl updateFcs16 c' := by
  induction octets generalizing error c c' with
  | nil =>
    rw [List.eq_nil_of_length_eq_zero h]
    rfl
  | cons octet octets ih =>
    cases error with
    | nil => cases h
    | cons e error =>
      have hone : updateFcs16 (c ^^^ c') (octet ^^^ e) = updateFcs16 c octet ^^^ updateFcs16 c' e := by
        rw [← UInt16.toBitVec_inj, UInt16.toBitVec_xor, toBitVec_updateFcs16, toBitVec_updateFcs16,
          toBitVec_updateFcs16, UInt16.toBitVec_xor, UInt8.toBitVec_xor, BitVec.setWidth_xor, ReflectedCrc.absorb_xor]
      show (corrupted octets error).foldl updateFcs16 (updateFcs16 (c ^^^ c') (octet ^^^ e)) = _
      rw [hone, ih (by simpa using h)]
      rfl

/-- An error that a valid frame does not lose its residue to leaves an empty register empty. -/
lemma absorbed_of_valid (h : error.length = octets.length) (hvalid : hasValidFcs16 octets = true)
    (hunseen : hasValidFcs16 (corrupted octets error) = true) :
    ReflectedCrc.absorbBits 0x8408#16 0 (transmittedBits error) = 0 := by
  unfold hasValidFcs16 fcs16 at hvalid hunseen
  rw [beq_iff_eq] at hvalid hunseen
  have hlinear := foldl_corrupted h initialFcs16 0
  rw [show initialFcs16 ^^^ 0 = initialFcs16 from rfl, hvalid, hunseen] at hlinear
  have hzero : error.foldl updateFcs16 0 = 0 := by
    calc error.foldl updateFcs16 0
        = goodFcs16 ^^^ (goodFcs16 ^^^ error.foldl updateFcs16 0) := by
          rw [← UInt16.xor_assoc, UInt16.xor_self, UInt16.zero_xor]
      _ = 0 := by rw [← hlinear, UInt16.xor_self]
  rw [← show (0 : UInt16).toBitVec = 0 from rfl, ← foldl_updateFcs16_bits, hzero]

/-- **The check sequence sees bursts**: every frame with its check sequence has the good residue, and octets that have
it lose it to every error whose flipped bits lie within 16 consecutive ones. -/
theorem fcs16_sees_bursts :
    (∀ frame, fcs16 (appendFcs16 frame) = 0xf0b8) ∧
      ∀ octets error, hasValidFcs16 octets = true → error.length = octets.length → Burst 16 (transmittedBits error) →
        true ∈ transmittedBits error → hasValidFcs16 (corrupted octets error) = false := by
  refine ⟨fcs16_appendFcs16, ?_⟩
  rintro octets error hvalid hlength ⟨start, hburst⟩ hflipped
  by_contra hunseen
  rw [Bool.not_eq_false] at hunseen
  have hzero := absorbed_of_valid hlength hvalid hunseen
  have hwithin (i : ℕ) (hi : (transmittedBits error).getD i false = true) : start ≤ i ∧ i < start + 16 := by
    refine hburst i ?_
    rw [List.getD_eq_getElem?_getD] at hi
    cases hbit : (transmittedBits error)[i]? with
    | none => simp [hbit] at hi
    | some b => simpa [hbit] using hi
  obtain ⟨i, hi⟩ := List.mem_iff_getElem?.mp hflipped
  have hclear := ReflectedCrc.absorbBits_burst (by decide) hwithin hzero i
  rw [List.getD_eq_getElem?_getD, hi] at hclear
  cases hclear

/-- An error across three octets of a short frame, from the last bit of the second one on. -/
theorem fcs16_sees_error_of_16_bits :
    hasValidFcs16 (corrupted (appendFcs16 [0xc0, 0x21]) [0, 0x80, 0xff, 0x40]) = false := by
  refine fcs16_sees_bursts.2 _ _ (by decide +kernel) (length_appendFcs16 _).symm ⟨15, fun i hi => ?_⟩ (by decide)
  have hbits : ∀ i < 32, (transmittedBits [0, 0x80, 0xff, 0x40])[i]? = some true → 15 ≤ i ∧ i < 15 + 16 := by
    decide +kernel
  obtain ⟨hlength, -⟩ := List.getElem?_eq_some_iff.mp hi
  exact hbits i hlength hi

end Errors

end SnesModem.Rust.FramingErrors
