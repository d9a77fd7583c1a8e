import Mathlib.Logic.Function.Iterate
import SnesModem.Lib.Md5
import SnesModem.Lib.Octets

/-!
# Words of four octets in memory

What an eight-bit machine does to a word of 32 bits, octet by octet.

* `addOctets`: the octets of a word are added with a carry, and `dwordAt_addOctets`: this adds the words;
* `leWord_map₂`: what combines the bits of octets combines the bits of words;
* `rotateOctets`: the octets are shifted in turn, and `dwordAt_iterate_rotateOctets`: this rotates the word.
-/

namespace SnesModem.Lib.OctetWords

open SnesModem.Lib.Octets
open SnesModem.Lib.Md5 (leWord leNat leNat_lt toNat_leWord rotateLeft)

/-- The word at an offset, least significant octet first. -/
def dwordAt (buffer : Buffer) (offset : ℕ) : UInt32 :=
  leWord [buffer offset, buffer (offset + 1), buffer (offset + 2), buffer (offset + 3)]

lemma dwordAt_congr {buffer buffer' : Buffer} {offset : ℕ} (h : ∀ x < 4, buffer (offset + x) = buffer' (offset + x)) :
    dwordAt buffer offset = dwordAt buffer' offset := by
  unfold dwordAt
  rw [show buffer offset = buffer' offset from h 0 (by omega), h 1 (by omega), h 2 (by omega), h 3 (by omega)]

/-! ### Sums -/

/-- `adc`: the sum of two octets and a carry, and the carry out of it. -/
def adc (a value : UInt8) (carry : Bool) : UInt8 × Bool :=
  let sum := a.toNat + value.toNat + carry.toNat
  (UInt8.ofNat sum, decide (256 ≤ sum))

/-- The value is kept in the sum and its carry. -/
lemma adc_spec (a value : UInt8) (carry : Bool) :
    (adc a value carry).1.toNat + 256 * (adc a value carry).2.toNat = a.toNat + value.toNat + carry.toNat := by
  have ha := a.toNat_lt
  have hvalue := value.toNat_lt
  have hcarry := carry.toNat_le
  unfold adc
  dsimp only
  rw [UInt8.toNat_ofNat']
  by_cases h : 256 ≤ a.toNat + value.toNat + carry.toNat
  · rw [decide_eq_true h, Bool.toNat_true]
    omega
  · rw [decide_eq_false h, Bool.toNat_false]
    omega

/-- One turn of a loop that adds octets: the target and the carry. -/
def addTurn (source : ℕ → UInt8) (offset : ℕ) (turn : Buffer × Bool) (x : ℕ) : Buffer × Bool :=
  let (sum, carry) := adc (turn.1 (offset + x)) (source x) turn.2
  (Function.update turn.1 (offset + x) sum, carry)

/-- Four octets are added to those at an offset, the least significant ones first. -/
def addOctets (source : ℕ → UInt8) (offset : ℕ) (target : Buffer) : Buffer :=
  ((List.range 4).foldl (addTurn source offset) (target, false)).1

section Sums

variable (source : ℕ → UInt8) (offset : ℕ) (target : Buffer)

lemma addOctets_of_lt {i : ℕ} (h : i < offset) : addOctets source offset target i = target i := by
  unfold addOctets addTurn
  simp only [show List.range 4 = [0, 1, 2, 3] from rfl, List.foldl]
  rw [Function.update_of_ne (by omega), Function.update_of_ne (by omega), Function.update_of_ne (by omega),
    Function.update_of_ne (by omega)]

lemma addOctets_of_le {i : ℕ} (h : offset + 4 ≤ i) : addOctets source offset target i = target i := by
  unfold addOctets addTurn
  simp only [show List.range 4 = [0, 1, 2, 3] from rfl, List.foldl]
  rw [Function.update_of_ne (by omega), Function.update_of_ne (by omega), Function.update_of_ne (by omega),
    Function.update_of_ne (by omega)]

/-- **The octets of a sum**: a word is added octet by octet. -/
theorem dwordAt_addOctets :
    dwordAt (addOctets source offset target) offset =
      dwordAt target offset + leWord [source 0, source 1, source 2, source 3] := by
  have h₀ := adc_spec (target offset) (source 0) false
  set r₀ := adc (target offset) (source 0) false with hr₀
  have h₁ := adc_spec (target (offset + 1)) (source 1) r₀.2
  set r₁ := adc (target (offset + 1)) (source 1) r₀.2 with hr₁
  have h₂ := adc_spec (target (offset + 2)) (source 2) r₁.2
  set r₂ := adc (target (offset + 2)) (source 2) r₁.2 with hr₂
  have h₃ := adc_spec (target (offset + 3)) (source 3) r₂.2
  set r₃ := adc (target (offset + 3)) (source 3) r₂.2 with hr₃
  have hsum : dwordAt (addOctets source offset target) offset = leWord [r₀.1, r₁.1, r₂.1, r₃.1] := by
    unfold dwordAt addOctets addTurn
    simp [show List.range 4 = [0, 1, 2, 3] from rfl, hr₀, hr₁, hr₂, hr₃]
  rw [hsum, ← UInt32.toNat_inj, UInt32.toNat_add]
  unfold dwordAt
  rw [toNat_leWord, toNat_leWord, toNat_leWord]
  have hlt := leNat_lt r₀.1 r₁.1 r₂.1 r₃.1
  unfold leNat at hlt ⊢
  rw [Bool.toNat_false] at h₀
  omega

end Sums

/-! ### Bits -/

section Bits

variable (a b c d : UInt8)

lemma getLsbD_leWord {i : ℕ} (hi : i < 32) :
    (leWord [a, b, c, d]).toBitVec.getLsbD i =
      if i < 8 then a.toBitVec.getLsbD i
      else if i < 16 then b.toBitVec.getLsbD (i - 8)
      else if i < 24 then c.toBitVec.getLsbD (i - 16)
      else d.toBitVec.getLsbD (i - 24) := by
  have hlow (octet : UInt8) (j : ℕ) (hj : 8 ≤ j) : octet.toBitVec.getLsbD j = false :=
    BitVec.getLsbD_of_ge octet.toBitVec j hj
  have h8 : UInt32.toBitVec 8 % 32 = 8 := rfl
  have h16 : UInt32.toBitVec 16 % 32 = 16 := rfl
  have h24 : UInt32.toBitVec 24 % 32 = 24 := rfl
  show (a.toUInt32 ||| b.toUInt32 <<< 8 ||| c.toUInt32 <<< 16 ||| d.toUInt32 <<< 24).toBitVec.getLsbD i = _
  simp only [UInt32.toBitVec_or, UInt32.toBitVec_shiftLeft, UInt8.toBitVec_toUInt32, BitVec.getLsbD_or, h8, h16, h24]
  split_ifs with h1 h2 h3
  · simp [hi, h1, show i < 16 by omega, show i < 24 by omega]
  · simp [hi, h1, h2, hlow a i (by omega), show i < 24 by omega]
  · simp [hi, h1, h2, h3, hlow a i (by omega), hlow b (i - 8) (by omega)]
  · simp [hi, h1, h2, h3, hlow a i (by omega), hlow b (i - 8) (by omega), hlow c (i - 16) (by omega)]

/-- **Bitwise**: an operation on octets and one on words that do the same to the bits. -/
theorem leWord_map₂ {f : UInt8 → UInt8 → UInt8} {g : UInt32 → UInt32 → UInt32} {p : Bool → Bool → Bool}
    (hf : ∀ x y : UInt8, ∀ i < 8, (f x y).toBitVec.getLsbD i = p (x.toBitVec.getLsbD i) (y.toBitVec.getLsbD i))
    (hg : ∀ x y : UInt32, ∀ i < 32, (g x y).toBitVec.getLsbD i = p (x.toBitVec.getLsbD i) (y.toBitVec.getLsbD i))
    (a' b' c' d' : UInt8) :
    leWord [f a a', f b b', f c c', f d d'] = g (leWord [a, b, c, d]) (leWord [a', b', c', d']) := by
  apply UInt32.eq_of_toBitVec_eq
  refine BitVec.eq_of_getLsbD_eq fun i hi => ?_
  rw [hg _ _ i hi, getLsbD_leWord _ _ _ _ hi, getLsbD_leWord _ _ _ _ hi, getLsbD_leWord _ _ _ _ hi]
  split_ifs
  · exact hf _ _ _ (by omega)
  · exact hf _ _ _ (by omega)
  · exact hf _ _ _ (by omega)
  · exact hf _ _ _ (by omega)

variable (a' b' c' d' : UInt8)

lemma leWord_and : leWord [a &&& a', b &&& b', c &&& c', d &&& d'] = leWord [a, b, c, d] &&& leWord [a', b', c', d'] :=
  leWord_map₂ (p := and) a b c d (by simp) (by simp) a' b' c' d'

lemma leWord_or : leWord [a ||| a', b ||| b', c ||| c', d ||| d'] = leWord [a, b, c, d] ||| leWord [a', b', c', d'] :=
  leWord_map₂ (p := or) a b c d (by simp) (by simp) a' b' c' d'

lemma leWord_xor : leWord [a ^^^ a', b ^^^ b', c ^^^ c', d ^^^ d'] = leWord [a, b, c, d] ^^^ leWord [a', b', c', d'] :=
  leWord_map₂ (p := xor) a b c d (by simp) (by simp) a' b' c' d'

/-- `eor #$ff` of each octet. -/
lemma leWord_not : leWord [a ^^^ 0xff, b ^^^ 0xff, c ^^^ 0xff, d ^^^ 0xff] = ~~~ leWord [a, b, c, d] := by
  have hones : leWord [0xff, 0xff, 0xff, 0xff] = 0xffffffff := by decide
  rw [leWord_xor, hones]
  apply UInt32.eq_of_toBitVec_eq
  rw [UInt32.toBitVec_not, UInt32.toBitVec_xor, show UInt32.toBitVec 0xffffffff = BitVec.allOnes 32 from rfl,
    BitVec.xor_allOnes]

end Bits

/-! ### Rotations -/

/-- `rol`: an octet is shifted by a bit, the carry into it, and its highest bit out of it. -/
def rol (value : UInt8) (carry : Bool) : UInt8 × Bool :=
  (UInt8.ofNat (2 * value.toNat + carry.toNat), decide (128 ≤ value.toNat))

/-- The four octets are shifted in turn, and the carry out of the last one goes into the first. -/
def rotateOctets (buffer : Buffer) : Buffer :=
  let (v₀, carry) := rol (buffer 0) false
  let buffer := Function.update buffer 0 v₀
  let (v₁, carry) := rol (buffer 1) carry
  let buffer := Function.update buffer 1 v₁
  let (v₂, carry) := rol (buffer 2) carry
  let buffer := Function.update buffer 2 v₂
  let (v₃, carry) := rol (buffer 3) carry
  let buffer := Function.update buffer 3 v₃
  if carry then Function.update buffer 0 (buffer 0 + 1) else buffer

section Rotations

lemma rol_spec (value : UInt8) (carry : Bool) :
    (rol value carry).1.toNat + 256 * (rol value carry).2.toNat = 2 * value.toNat + carry.toNat := by
  have hvalue := value.toNat_lt
  have hcarry := carry.toNat_le
  unfold rol
  dsimp only
  rw [UInt8.toNat_ofNat']
  by_cases h : 128 ≤ value.toNat
  · rw [decide_eq_true h, Bool.toNat_true]
    omega
  · rw [decide_eq_false h, Bool.toNat_false]
    omega

lemma toNat_rotateLeft_one (word : UInt32) :
    (rotateLeft word 1).toNat = 2 * word.toNat % 2 ^ 32 + word.toNat / 2 ^ 31 := by
  have hlt := word.toNat_lt
  have htop : word.toNat / 2 ^ 31 < 2 ^ 1 := by omega
  have hlow : word.toNat * 2 % 2 ^ 32 = 2 ^ 1 * (word.toNat % 2 ^ 31) := by omega
  unfold rotateLeft
  rw [UInt32.toNat_or, UInt32.toNat_shiftLeft, UInt32.toNat_shiftRight]
  show word.toNat <<< 1 % 2 ^ 32 ||| word.toNat >>> 31 = _
  rw [Nat.shiftLeft_eq, Nat.shiftRight_eq_div_pow, Nat.pow_one, hlow, ← Nat.two_pow_add_eq_or_of_lt htop]
  omega

lemma getLsbD_rotateLeft (word : UInt32) {n i : ℕ} (hpos : 0 < n) (hn : n < 32) (hi : i < 32) :
    (rotateLeft word n).toBitVec.getLsbD i = word.toBitVec.getLsbD ((i + (32 - n)) % 32) := by
  have hcount (m : ℕ) (hm : m < 32) : (UInt32.toBitVec (UInt32.ofNat m) % 32).toNat = m := by
    rw [BitVec.toNat_umod]
    show m % 2 ^ 32 % 32 = m
    omega
  unfold rotateLeft
  rw [UInt32.toBitVec_or, UInt32.toBitVec_shiftLeft, UInt32.toBitVec_shiftRight, BitVec.getLsbD_or,
    BitVec.shiftLeft_eq', BitVec.ushiftRight_eq', BitVec.getLsbD_shiftLeft, BitVec.getLsbD_ushiftRight,
    hcount n hn, hcount (32 - n) (by omega)]
  by_cases hlow : i < n
  · rw [decide_eq_true hlow, Nat.mod_eq_of_lt (by omega), Nat.add_comm]
    simp
  · have hhigh : word.toBitVec.getLsbD (32 - n + i) = false := BitVec.getLsbD_of_ge _ _ (by omega)
    have hturn : (i + (32 - n)) % 32 = i - n := by omega
    rw [decide_eq_false hlow, decide_eq_true hi, hhigh, hturn]
    simp

/-- A rotation goes on by a bit. -/
lemma rotateLeft_succ (word : UInt32) {n : ℕ} (hpos : 0 < n) (hn : n + 1 < 32) :
    rotateLeft (rotateLeft word n) 1 = rotateLeft word (n + 1) := by
  apply UInt32.eq_of_toBitVec_eq
  refine BitVec.eq_of_getLsbD_eq fun i hi => ?_
  rw [getLsbD_rotateLeft _ (by omega) (by omega) hi, getLsbD_rotateLeft _ hpos (by omega) (Nat.mod_lt _ (by omega)),
    getLsbD_rotateLeft _ (by omega) hn hi]
  congr 1
  omega

lemma dwordAt_rotateOctets (buffer : Buffer) : dwordAt (rotateOctets buffer) 0 = rotateLeft (dwordAt buffer 0) 1 := by
  have h₀ := rol_spec (buffer 0) false
  set r₀ := rol (buffer 0) false with hr₀
  have h₁ := rol_spec (buffer 1) r₀.2
  set r₁ := rol (buffer 1) r₀.2 with hr₁
  have h₂ := rol_spec (buffer 2) r₁.2
  set r₂ := rol (buffer 2) r₁.2 with hr₂
  have h₃ := rol_spec (buffer 3) r₂.2
  set r₃ := rol (buffer 3) r₂.2 with hr₃
  have hword : dwordAt (rotateOctets buffer) 0 = leWord [if r₃.2 then r₀.1 + 1 else r₀.1, r₁.1, r₂.1, r₃.1] := by
    unfold dwordAt rotateOctets
    simp only [Nat.zero_add, Function.update_apply]
    simp only [← hr₀]
    simp only [← hr₁, show (1 : ℕ) ≠ 0 by omega, show (2 : ℕ) ≠ 0 by omega, show (3 : ℕ) ≠ 0 by omega,
      show (2 : ℕ) ≠ 1 by omega, show (3 : ℕ) ≠ 1 by omega, show (3 : ℕ) ≠ 2 by omega, if_false]
    simp only [← hr₂]
    simp only [← hr₃]
    by_cases hcarry : r₃.2 = true
    · simp [hcarry]
    · simp [hcarry]
  rw [Bool.toNat_false] at h₀
  have hdouble : 2 * leNat (buffer 0) (buffer (0 + 1)) (buffer (0 + 2)) (buffer (0 + 3)) =
      leNat r₀.1 r₁.1 r₂.1 r₃.1 + 2 ^ 32 * r₃.2.toNat := by
    unfold leNat
    simp only [Nat.zero_add]
    omega
  have heven : leNat r₀.1 r₁.1 r₂.1 r₃.1 % 2 = 0 := by omega
  have hinc : (if r₃.2 then r₀.1 + 1 else r₀.1).toNat = r₀.1.toNat + r₃.2.toNat := by
    have hlt := r₀.1.toNat_lt
    cases r₃.2
    · rfl
    · show (r₀.1 + 1).toNat = r₀.1.toNat + 1
      rw [UInt8.toNat_add]
      show (r₀.1.toNat + 1) % 256 = _
      omega
  have hnew : leNat (if r₃.2 then r₀.1 + 1 else r₀.1) r₁.1 r₂.1 r₃.1 =
      leNat r₀.1 r₁.1 r₂.1 r₃.1 + r₃.2.toNat := by
    unfold leNat
    omega
  have hlt := leNat_lt r₀.1 r₁.1 r₂.1 r₃.1
  have hcarry := r₃.2.toNat_le
  rw [hword, ← UInt32.toNat_inj, toNat_rotateLeft_one, toNat_leWord, hnew]
  unfold dwordAt
  rw [toNat_leWord]
  obtain hzero | hone : r₃.2.toNat = 0 ∨ r₃.2.toNat = 1 := by omega
  · omega
  · omega

/-- **Rotations**: octets that are shifted so often. -/
theorem dwordAt_iterate_rotateOctets (buffer : Buffer) {n : ℕ} (hpos : 0 < n) (hn : n < 32) :
    dwordAt (rotateOctets^[n] buffer) 0 = rotateLeft (dwordAt buffer 0) n := by
  induction n with
  | zero => omega
  | succ n ih =>
    rw [Function.iterate_succ_apply', dwordAt_rotateOctets]
    obtain rfl | hn' := Nat.eq_zero_or_pos n
    · rfl
    · rw [ih hn' (by omega), rotateLeft_succ _ hn' hn]

end Rotations

end SnesModem.Lib.OctetWords
