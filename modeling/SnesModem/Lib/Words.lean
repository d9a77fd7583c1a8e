import Mathlib.Data.UInt

/-!
# Numbers of 32 bits in two words

A 65816 adds and subtracts 16 bits at a time; a carry goes from the low word to the high one.

* `adc`, `sbc`: one word, with the carry before and behind it;
* `Long`: a low and a high word, with `add`, `sub`, `inc` and `dec`; `Long.toUInt32` is its number.
-/

namespace SnesModem.Lib.Words

/-! ### Words -/

/-- The sum with the carry, and whether it does not fit. -/
def adc (a b : UInt16) (carry : Bool) : UInt16 × Bool :=
  (a + b + (if carry then 1 else 0), decide (2 ^ 16 ≤ a.toNat + b.toNat + carry.toNat))

/-- The difference; one more is taken off unless the carry is set.  The carry is clear behind a borrow. -/
def sbc (a b : UInt16) (carry : Bool) : UInt16 × Bool :=
  (a - b - (if carry then 0 else 1), decide (b.toNat + (!carry).toNat ≤ a.toNat))

lemma toNat_bit (carry : Bool) : (if carry then 1 else 0 : UInt16).toNat = carry.toNat := by
  cases carry <;> rfl

lemma toNat_adc (a b : UInt16) (carry : Bool) :
    (adc a b carry).1.toNat + 65536 * (adc a b carry).2.toNat = a.toNat + b.toNat + carry.toNat := by
  have ha := a.toNat_lt
  have hb := b.toNat_lt
  have hcarry := Bool.toNat_le carry
  unfold adc
  rw [UInt16.toNat_add, UInt16.toNat_add, toNat_bit]
  by_cases hover : 2 ^ 16 ≤ a.toNat + b.toNat + carry.toNat
  · simp only [hover, decide_true, Bool.toNat_true]
    omega
  · simp only [hover, decide_false, Bool.toNat_false]
    omega

lemma toNat_sbc (a b : UInt16) (carry : Bool) :
    (sbc a b carry).1.toNat + b.toNat + (!carry).toNat = a.toNat + 65536 * (!(sbc a b carry).2).toNat := by
  have ha := a.toNat_lt
  have hb := b.toNat_lt
  have hcarry := Bool.toNat_le (!carry)
  have hborrow : (if carry then 0 else 1 : UInt16).toNat = (!carry).toNat := by
    cases carry <;> rfl
  unfold sbc
  rw [UInt16.toNat_sub, UInt16.toNat_sub, hborrow]
  by_cases hfits : b.toNat + (!carry).toNat ≤ a.toNat
  · simp only [hfits, decide_true, Bool.not_true, Bool.toNat_false]
    omega
  · simp only [hfits, decide_false, Bool.not_false, Bool.toNat_true]
    omega

/-! ### Long words -/

@[ext]
structure Long where
  low : UInt16
  high : UInt16
  deriving DecidableEq, Repr, Inhabited

namespace Long

def toNat (x : Long) : ℕ := 65536 * x.high.toNat + x.low.toNat

def ofNat (n : ℕ) : Long := ⟨UInt16.ofNat n, UInt16.ofNat (n / 65536)⟩

def toUInt32 (x : Long) : UInt32 := UInt32.ofNat x.toNat

/-- The sum, and whether it does not fit. -/
def add (x y : Long) : Long × Bool :=
  let low := adc x.low y.low false
  let high := adc x.high y.high low.2
  (⟨low.1, high.1⟩, high.2)

def sub (x y : Long) : Long × Bool :=
  let low := sbc x.low y.low true
  let high := sbc x.high y.high low.2
  (⟨low.1, high.1⟩, high.2)

/-- `inc` of the low word, and of the high one if the low one has become zero. -/
def inc (x : Long) : Long :=
  if x.low + 1 = 0 then ⟨x.low + 1, x.high + 1⟩ else ⟨x.low + 1, x.high⟩

/-- `dec` of the low word, and of the high one before it if the low one is zero. -/
def dec (x : Long) : Long :=
  if x.low = 0 then ⟨x.low - 1, x.high - 1⟩ else ⟨x.low - 1, x.high⟩

lemma toNat_lt (x : Long) : x.toNat < 2 ^ 32 := by
  have hlow := x.low.toNat_lt
  have hhigh := x.high.toNat_lt
  unfold toNat
  omega

lemma toNat_toUInt32 (x : Long) : x.toUInt32.toNat = x.toNat := UInt32.toNat_ofNat_of_lt' x.toNat_lt

lemma toNat_inj {x y : Long} : x.toNat = y.toNat ↔ x = y := by
  constructor
  · intro h
    have hx := x.low.toNat_lt
    have hy := y.low.toNat_lt
    unfold toNat at h
    apply Long.ext
    · apply UInt16.toNat_inj.mp
      omega
    · apply UInt16.toNat_inj.mp
      omega
  · rintro rfl
    rfl

@[simp] lemma toNat_ofNat {n : ℕ} (h : n < 2 ^ 32) : (ofNat n).toNat = n := by
  simp only [ofNat, toNat, UInt16.toNat_ofNat']
  omega

lemma toNat_add (x y : Long) : (x.add y).1.toNat + 2 ^ 32 * (x.add y).2.toNat = x.toNat + y.toNat := by
  have hlow := toNat_adc x.low y.low false
  have hhigh := toNat_adc x.high y.high (adc x.low y.low false).2
  rw [Bool.toNat_false] at hlow
  simp only [add, toNat]
  omega

/-- The sum, as far as it fits. -/
lemma toNat_add_mod (x y : Long) : (x.add y).1.toNat = (x.toNat + y.toNat) % 2 ^ 32 := by
  have hadd := x.toNat_add y
  have hlt := (x.add y).1.toNat_lt
  omega

lemma toNat_sub {x y : Long} (h : y.toNat ≤ x.toNat) : (x.sub y).1.toNat = x.toNat - y.toNat := by
  have hlow := toNat_sbc x.low y.low true
  have hhigh := toNat_sbc x.high y.high (sbc x.low y.low true).2
  have hresult : (x.sub y).1.toNat = 65536 * (sbc x.high y.high (sbc x.low y.low true).2).1.toNat +
      (sbc x.low y.low true).1.toNat := rfl
  have hlt := (x.sub y).1.toNat_lt
  rw [Bool.not_true, Bool.toNat_false] at hlow
  unfold toNat at h ⊢
  unfold toNat at hresult hlt
  have hborrow : (!(sbc x.high y.high (sbc x.low y.low true).2).2).toNat ≤ 1 := Bool.toNat_le _
  omega

lemma toNat_eq_zero {x : Long} : x.toNat = 0 ↔ x = ⟨0, 0⟩ := by
  rw [← toNat_inj]
  rfl

lemma toNat_dec {x : Long} (h : x.toNat ≠ 0) : x.dec.toNat = x.toNat - 1 := by
  have hlow := x.low.toNat_lt
  have hhigh := x.high.toNat_lt
  have hone : (1 : UInt16).toNat = 1 := rfl
  unfold toNat at h
  unfold dec
  split_ifs with hzero
  · have hlowZero : x.low.toNat = 0 := by
      rw [hzero]
      rfl
    simp only [toNat, UInt16.toNat_sub, hone]
    omega
  · have hlowPos : x.low.toNat ≠ 0 := fun heq => hzero (UInt16.toNat_inj.mp heq)
    simp only [toNat, UInt16.toNat_sub, hone]
    omega

lemma toNat_inc (x : Long) : x.inc.toNat = (x.toNat + 1) % 2 ^ 32 := by
  have hlow := x.low.toNat_lt
  have hhigh := x.high.toNat_lt
  have hone : (1 : UInt16).toNat = 1 := rfl
  unfold inc
  split_ifs with hzero
  · have hfull := congrArg UInt16.toNat hzero
    rw [UInt16.toNat_add, hone, UInt16.toNat_zero] at hfull
    simp only [toNat, UInt16.toNat_add, hone]
    omega
  · have hfits : (x.low.toNat + 1) % 2 ^ 16 ≠ 0 := by
      intro hfull
      apply hzero
      rw [← UInt16.toNat_inj, UInt16.toNat_add, hone, hfull, UInt16.toNat_zero]
    simp only [toNat, UInt16.toNat_add, hone]
    omega

end Long

end SnesModem.Lib.Words
