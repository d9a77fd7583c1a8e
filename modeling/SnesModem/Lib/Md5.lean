import Mathlib.Data.UInt
import SnesModem.Lib.Blocks

/-!
# The MD5 message digest, as in RFC 1321

* `pad`: the message with its padding and its length;
* `quad`, `Round`, `compress`: a block changes the four registers in four rounds of sixteen operations, which take turns
  in the register that they write;
* `digest`: the registers after the last block, least significant octet first;
* `foldl_roll`: an implementation that moves its registers at each operation, so that it always writes the same one.
-/

namespace SnesModem.Lib.Md5

/-! ### Octets and words, least significant octet first -/

def leOctets (count value : ℕ) : List UInt8 := (List.range count).map fun i => UInt8.ofNat (value / 256 ^ i)

def wordOctets (word : UInt32) : List UInt8 := leOctets 4 word.toNat

/-- The word of four octets. -/
def leWord (octets : List UInt8) : UInt32 :=
  let octet (i : ℕ) := (octets.getD i 0).toUInt32
  octet 0 ||| octet 1 <<< 8 ||| octet 2 <<< 16 ||| octet 3 <<< 24

def rotateLeft (word : UInt32) (count : ℕ) : UInt32 :=
  (word <<< UInt32.ofNat count) ||| (word >>> UInt32.ofNat (32 - count))

@[simp] lemma length_leOctets (count value : ℕ) : (leOctets count value).length = count := by simp [leOctets]

/-- Only so many octets of the value matter. -/
lemma leOctets_mod (count value : ℕ) : leOctets count (value % 256 ^ count) = leOctets count value := by
  unfold leOctets
  refine List.map_congr_left fun i hi => ?_
  have hlt := List.mem_range.mp hi
  have hpower : 256 ^ count = 256 ^ i * 256 ^ (count - i) := by
    rw [← Nat.pow_add]
    congr 1
    omega
  have hdvd : 256 ∣ 256 ^ (count - i) := dvd_pow_self 256 (by omega)
  rw [← UInt8.toNat_inj, UInt8.toNat_ofNat', UInt8.toNat_ofNat', hpower, Nat.mod_mul_right_div_self]
  exact Nat.mod_mod_of_dvd _ hdvd

/-- The number of a word of four octets. -/
def leNat (a b c d : UInt8) : ℕ := a.toNat + 256 * b.toNat + 65536 * c.toNat + 16777216 * d.toNat

section Words

variable (a b c d : UInt8)

lemma leNat_lt : leNat a b c d < 2 ^ 32 := by
  have ha := a.toNat_lt
  have hb := b.toNat_lt
  have hc := c.toNat_lt
  have hd := d.toNat_lt
  unfold leNat
  omega

lemma toNat_leWord : (leWord [a, b, c, d]).toNat = leNat a b c d := by
  have ha := a.toNat_lt
  have hb := b.toNat_lt
  have hc := c.toNat_lt
  have hd := d.toNat_lt
  have hshift (octet : UInt8) (n : ℕ) (hn : n ≤ 24) (hcount : (UInt32.ofNat n).toNat = n) :
      (octet.toUInt32 <<< UInt32.ofNat n).toNat = 2 ^ n * octet.toNat := by
    have hoctet := octet.toNat_lt
    have hpower : 2 ^ n ≤ 2 ^ 24 := Nat.pow_le_pow_right (by omega) hn
    have hle : 2 ^ n * octet.toNat ≤ 2 ^ 24 * 255 := Nat.mul_le_mul hpower (by omega)
    rw [UInt32.toNat_shiftLeft, UInt8.toNat_toUInt32, hcount, Nat.mod_eq_of_lt (show n < 32 by omega), Nat.shiftLeft_eq,
      Nat.mul_comm, Nat.mod_eq_of_lt (by omega)]
  have h8 := hshift b 8 (by omega) rfl
  have h16 := hshift c 16 (by omega) rfl
  have h24 := hshift d 24 (by omega) rfl
  show (a.toUInt32 ||| b.toUInt32 <<< UInt32.ofNat 8 ||| c.toUInt32 <<< UInt32.ofNat 16 |||
    d.toUInt32 <<< UInt32.ofNat 24).toNat = _
  rw [UInt32.toNat_or, UInt32.toNat_or, UInt32.toNat_or, h8, h16, h24, UInt8.toNat_toUInt32]
  -- Each octet lies above those before it.
  rw [Nat.or_comm a.toNat, ← Nat.two_pow_add_eq_or_of_lt ha, Nat.or_comm _ (2 ^ 16 * _),
    ← Nat.two_pow_add_eq_or_of_lt (by omega), Nat.or_comm _ (2 ^ 24 * _), ← Nat.two_pow_add_eq_or_of_lt (by omega)]
  unfold leNat
  omega

end Words

/-! ### The registers -/

structure State where
  a : UInt32
  b : UInt32
  c : UInt32
  d : UInt32
  deriving DecidableEq, Repr

def initial : State := ⟨0x67452301, 0xefcdab89, 0x98badcfe, 0x10325476⟩

def State.add (s t : State) : State := ⟨s.a + t.a, s.b + t.b, s.c + t.c, s.d + t.d⟩

def State.octets (s : State) : List UInt8 := wordOctets s.a ++ wordOctets s.b ++ wordOctets s.c ++ wordOctets s.d

/-! ### Operations and rounds -/

def F (x y z : UInt32) : UInt32 := (x &&& y) ||| (~~~x &&& z)
def G (x y z : UInt32) : UInt32 := (x &&& z) ||| (y &&& ~~~z)
def H (x y z : UInt32) : UInt32 := x ^^^ y ^^^ z
def I (x y z : UInt32) : UInt32 := y ^^^ (x ||| ~~~z)

/-- The word of the block that an operation takes, its shift, and its constant. -/
structure Operation where
  word : ℕ
  shift : ℕ
  constant : UInt32

section Operations

variable (f : UInt32 → UInt32 → UInt32 → UInt32) (block : ℕ → UInt32)

/-- The new value of the register `a`. -/
def operation (o : Operation) (a b c d : UInt32) : UInt32 :=
  b + rotateLeft (a + f b c d + block o.word + o.constant) o.shift

/-- Four operations, `[ABCD]`, `[DABC]`, `[CDAB]` and `[BCDA]`. -/
def quad (o₀ o₁ o₂ o₃ : Operation) (s : State) : State :=
  let a := operation f block o₀ s.a s.b s.c s.d
  let d := operation f block o₁ s.d a s.b s.c
  let c := operation f block o₂ s.c d a s.b
  let b := operation f block o₃ s.b c d a
  ⟨a, b, c, d⟩

/-- An operation that moves the registers, so that the next one writes the same. -/
def roll (o : Operation) (s : State) : State := ⟨s.d, operation f block o s.a s.b s.c s.d, s.b, s.c⟩

/-- Four moves bring the registers back to their places. -/
lemma roll_four (o₀ o₁ o₂ o₃ : Operation) (s : State) :
    roll f block o₃ (roll f block o₂ (roll f block o₁ (roll f block o₀ s))) = quad f block o₀ o₁ o₂ o₃ s := rfl

end Operations

/-- A round of sixteen operations, whose four shifts are taken in turn. -/
structure Round where
  f : UInt32 → UInt32 → UInt32 → UInt32
  words : List ℕ
  shifts : List ℕ
  constants : List UInt32

def Round.operation (r : Round) (j : ℕ) : Operation :=
  ⟨r.words.getD j 0, r.shifts.getD (j % 4) 0, r.constants.getD j 0⟩

def Round.apply (r : Round) (block : ℕ → UInt32) (s : State) : State :=
  (List.range 4).foldl (fun s q => quad r.f block (r.operation (4 * q)) (r.operation (4 * q + 1))
    (r.operation (4 * q + 2)) (r.operation (4 * q + 3)) s) s

/-- The constants are the integer parts of `2 ^ 32` times the sines of 1 to 64, without their signs. -/
def round : ℕ → Round
  | 0 => {
      f := F
      words := [0, 1, 2, 3, 4, 5, 6, 7, 8, 9, 10, 11, 12, 13, 14, 15]
      shifts := [7, 12, 17, 22]
      constants := [0xd76aa478, 0xe8c7b756, 0x242070db, 0xc1bdceee, 0xf57c0faf, 0x4787c62a, 0xa8304613, 0xfd469501,
        0x698098d8, 0x8b44f7af, 0xffff5bb1, 0x895cd7be, 0x6b901122, 0xfd987193, 0xa679438e, 0x49b40821] }
  | 1 => {
      f := G
      words := [1, 6, 11, 0, 5, 10, 15, 4, 9, 14, 3, 8, 13, 2, 7, 12]
      shifts := [5, 9, 14, 20]
      constants := [0xf61e2562, 0xc040b340, 0x265e5a51, 0xe9b6c7aa, 0xd62f105d, 0x02441453, 0xd8a1e681, 0xe7d3fbc8,
        0x21e1cde6, 0xc33707d6, 0xf4d50d87, 0x455a14ed, 0xa9e3e905, 0xfcefa3f8, 0x676f02d9, 0x8d2a4c8a] }
  | 2 => {
      f := H
      words := [5, 8, 11, 14, 1, 4, 7, 10, 13, 0, 3, 6, 9, 12, 15, 2]
      shifts := [4, 11, 16, 23]
      constants := [0xfffa3942, 0x8771f681, 0x6d9d6122, 0xfde5380c, 0xa4beea44, 0x4bdecfa9, 0xf6bb4b60, 0xbebfbc70,
        0x289b7ec6, 0xeaa127fa, 0xd4ef3085, 0x04881d05, 0xd9d4d039, 0xe6db99e5, 0x1fa27cf8, 0xc4ac5665] }
  | _ => {
      f := I
      words := [0, 7, 14, 5, 12, 3, 10, 1, 8, 15, 6, 13, 4, 11, 2, 9]
      shifts := [6, 10, 15, 21]
      constants := [0xf4292244, 0x432aff97, 0xab9423a7, 0xfc93a039, 0x655b59c3, 0x8f0ccc92, 0xffeff47d, 0x85845dd1,
        0x6fa87e4f, 0xfe2ce6e0, 0xa3014314, 0x4e0811a1, 0xf7537e82, 0xbd3af235, 0x2ad7d2bb, 0xeb86d391] }

/-! ### Blocks and messages -/

/-- The words of a block of 64 octets. -/
def words (block : List UInt8) (i : ℕ) : UInt32 := leWord ((block.drop (4 * i)).take 4)

def rounds (block : ℕ → UInt32) (s : State) : State := (List.range 4).foldl (fun s r => (round r).apply block s) s

def compress (s : State) (block : List UInt8) : State := s.add (rounds (words block) s)

/-- The zeros bring the message with its mark to eight octets less than whole blocks. -/
def pad (message : List UInt8) : List UInt8 :=
  message ++ 0x80 :: List.replicate ((119 - message.length % 64) % 64) 0 ++ leOctets 8 (8 * message.length)

def digest (message : List UInt8) : List UInt8 := (Blocks.absorb 64 compress initial (pad message)).octets

lemma length_pad_mod (message : List UInt8) : (pad message).length % 64 = 0 := by
  unfold pad
  simp only [List.length_append, List.length_cons, List.length_replicate, length_leOctets]
  omega

@[simp] lemma length_digest (message : List UInt8) : (digest message).length = 16 := by
  simp [digest, State.octets, wordOctets]

example : digest [0x61, 0x62, 0x63] =
    [0x90, 0x01, 0x50, 0x98, 0x3c, 0xd2, 0x4f, 0xb0, 0xd6, 0x96, 0x3f, 0x7d, 0x28, 0xe1, 0x7f, 0x72] := by
  decide +kernel

/-! ### Operations that move the registers -/

/-- **Moved registers**: sixty-four operations, each of which is that of its round and moves the registers. -/
theorem foldl_roll {step : State → ℕ → State} {block : ℕ → UInt32}
    (h : ∀ r < 4, ∀ j < 16, ∀ s, step s (16 * r + j) = roll (round r).f block ((round r).operation j) s) (s : State) :
    (List.range 64).foldl step s = rounds block s := by
  have hquad (r : ℕ) (hr : r < 4) (q : ℕ) (hq : q < 4) (s : State) :
      step (step (step (step s (16 * r + 4 * q)) (16 * r + (4 * q + 1))) (16 * r + (4 * q + 2))) (16 * r + (4 * q + 3)) =
        quad (round r).f block ((round r).operation (4 * q)) ((round r).operation (4 * q + 1))
          ((round r).operation (4 * q + 2)) ((round r).operation (4 * q + 3)) s := by
    rw [h r hr _ (by omega), h r hr _ (by omega), h r hr _ (by omega), h r hr _ (by omega), roll_four]
  have hround (r : ℕ) (hr : r < 4) (s : State) :
      (List.range 16).foldl (fun s j => step s (16 * r + j)) s = (round r).apply block s := by
    have h₀ := hquad r hr 0 (by omega)
    have h₁ := hquad r hr 1 (by omega)
    have h₂ := hquad r hr 2 (by omega)
    have h₃ := hquad r hr 3 (by omega)
    unfold Round.apply
    show _ = quad _ _ _ _ _ _ (quad _ _ _ _ _ _ (quad _ _ _ _ _ _ (quad _ _ _ _ _ _ s)))
    rw [← h₀, ← h₁, ← h₂, ← h₃]
    rfl
  have hsplit : (List.range 64).foldl step s = (List.range 4).foldl (fun s r =>
      (List.range 16).foldl (fun s j => step s (16 * r + j)) s) s := rfl
  unfold rounds
  rw [hsplit]
  refine List.foldl_ext _ _ _ fun s r hr => ?_
  exact hround r (List.mem_range.mp hr) s

end SnesModem.Lib.Md5
