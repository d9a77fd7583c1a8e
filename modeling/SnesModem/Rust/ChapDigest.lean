import SnesModem.Lib.Md5

/-!
# The streamed MD5 of the reference

`Md5` of `chap.rs` buffers what does not fill a block from one update to the next.

* `Holds`: the registers and the buffer after a message;
* `update_holds`: an update continues the message;
* `responseDigest_eq`: the digest of a response is that of RFC 1321, and so is that of any message in any pieces.
-/

namespace SnesModem.Rust.Chap

open SnesModem.Lib.Md5 (leOctets leWord rotateLeft)

abbrev State := Lib.Md5.State

structure Md5 where
  state : State
  lengthBytes : UInt64
  buffer : List UInt8
  buffered : ℕ
  deriving DecidableEq, Repr

def Md5.new : Md5 where
  state := ⟨0x67452301, 0xefcdab89, 0x98badcfe, 0x10325476⟩
  lengthBytes := 0
  buffer := List.replicate 64 0
  buffered := 0

/-! ### The block function -/

/-- The shift amounts of `compress`. -/
def shifts : List ℕ :=
  [7, 12, 17, 22, 7, 12, 17, 22, 7, 12, 17, 22, 7, 12, 17, 22, 5, 9, 14, 20, 5, 9, 14, 20,
    5, 9, 14, 20, 5, 9, 14, 20, 4, 11, 16, 23, 4, 11, 16, 23, 4, 11, 16, 23, 4, 11, 16, 23,
    6, 10, 15, 21, 6, 10, 15, 21, 6, 10, 15, 21, 6, 10, 15, 21]

/-- The constants of `compress`. -/
def constants : List UInt32 :=
  [0xd76aa478, 0xe8c7b756, 0x242070db, 0xc1bdceee, 0xf57c0faf, 0x4787c62a, 0xa8304613, 0xfd469501,
    0x698098d8, 0x8b44f7af, 0xffff5bb1, 0x895cd7be, 0x6b901122, 0xfd987193, 0xa679438e, 0x49b40821,
    0xf61e2562, 0xc040b340, 0x265e5a51, 0xe9b6c7aa, 0xd62f105d, 0x02441453, 0xd8a1e681, 0xe7d3fbc8,
    0x21e1cde6, 0xc33707d6, 0xf4d50d87, 0x455a14ed, 0xa9e3e905, 0xfcefa3f8, 0x676f02d9, 0x8d2a4c8a,
    0xfffa3942, 0x8771f681, 0x6d9d6122, 0xfde5380c, 0xa4beea44, 0x4bdecfa9, 0xf6bb4b60, 0xbebfbc70,
    0x289b7ec6, 0xeaa127fa, 0xd4ef3085, 0x04881d05, 0xd9d4d039, 0xe6db99e5, 0x1fa27cf8, 0xc4ac5665,
    0xf4292244, 0x432aff97, 0xab9423a7, 0xfc93a039, 0x655b59c3, 0x8f0ccc92, 0xffeff47d, 0x85845dd1,
    0x6fa87e4f, 0xfe2ce6e0, 0xa3014314, 0x4e0811a1, 0xf7537e82, 0xbd3af235, 0x2ad7d2bb, 0xeb86d391]

/-- The function and the word of a turn. -/
def turnOf (i : ℕ) (s : State) : UInt32 × ℕ :=
  if i ≤ 15 then ((s.b &&& s.c) ||| (~~~s.b &&& s.d), i)
  else if i ≤ 31 then ((s.d &&& s.b) ||| (~~~s.d &&& s.c), (5 * i + 1) % 16)
  else if i ≤ 47 then (s.b ^^^ s.c ^^^ s.d, (3 * i + 5) % 16)
  else (s.c ^^^ (s.b ||| ~~~s.d), 7 * i % 16)

/-- One turn of the loop of `compress`. -/
def turn (words : List UInt32) (s : State) (i : ℕ) : State :=
  let (f, g) := turnOf i s
  let next := rotateLeft (s.a + f + constants.getD i 0 + words.getD g 0) (shifts.getD i 0) + s.b
  ⟨s.d, next, s.b, s.c⟩

def compress (s : State) (block : List UInt8) : State :=
  let words := (List.range 16).map fun i => leWord ((block.drop (4 * i)).take 4)
  let t := (List.range 64).foldl (turn words) s
  ⟨s.a + t.a, s.b + t.b, s.c + t.c, s.d + t.d⟩

/-! ### The stream -/

/-- `copy_from_slice` into a part of an array. -/
def copyInto (array : List UInt8) (offset : ℕ) (part : List UInt8) : List UInt8 :=
  array.take offset ++ part ++ array.drop (offset + part.length)

namespace Md5

/-- The loop over whole blocks: what it leaves of the state and of the input. -/
def whole (s : State) (input : List UInt8) : State × List UInt8 :=
  if 64 ≤ input.length then whole (compress s (input.take 64)) (input.drop 64) else (s, input)
termination_by input.length
decreasing_by
  rw [List.length_drop]
  omega

/-- `update`, once nothing is buffered. -/
def updateWhole (m : Md5) (input : List UInt8) : Md5 :=
  let (state, input) := whole m.state input
  { m with state := state, buffer := copyInto m.buffer 0 input, buffered := input.length }

def update (m : Md5) (input : List UInt8) : Md5 :=
  let m := { m with lengthBytes := m.lengthBytes + UInt64.ofNat input.length }
  if m.buffered ≠ 0 then
    let count := min (64 - m.buffered) input.length
    let m := { m with
      buffer := copyInto m.buffer m.buffered (input.take count)
      buffered := m.buffered + count }
    let input := input.drop count
    let m := if m.buffered = 64 then { m with state := compress m.state m.buffer, buffered := 0 } else m
    if input = [] then m else m.updateWhole input
  else m.updateWhole input

/-- `finalize`; `none` is the failure of its assertion. -/
def finalize (m : Md5) : Option (List UInt8) :=
  let bitLength := m.lengthBytes * 8
  let padding : List UInt8 := 0x80 :: List.replicate 71 0
  let paddingLength := if m.buffered < 56 then 56 - m.buffered else 120 - m.buffered
  let m := m.update (padding.take paddingLength)
  let m := m.update (leOctets 8 bitLength.toNat)
  if m.buffered = 0 then
    some (leOctets 4 m.state.a.toNat ++ leOctets 4 m.state.b.toNat ++ leOctets 4 m.state.c.toNat ++
      leOctets 4 m.state.d.toNat)
  else none

end Md5

def responseDigest (identifier : UInt8) (secret challenge : List UInt8) : Option (List UInt8) :=
  (((Md5.new.update [identifier]).update secret).update challenge).finalize

/-! ### The block function is that of the standard -/

section Compress

variable {words : List UInt32} {block : ℕ → UInt32} (hwords : ∀ i < 16, words.getD i 0 = block i)
include hwords

/-- Every turn is the operation of its round, and moves the registers. -/
lemma turn_eq_roll : ∀ r < 4, ∀ j < 16, ∀ s, turn words s (16 * r + j) =
    Lib.Md5.roll (Lib.Md5.round r).f block ((Lib.Md5.round r).operation j) s := by
  intro r hr j hj s
  have hshift : ∀ r < 4, ∀ j < 16, shifts.getD (16 * r + j) 0 = ((Lib.Md5.round r).operation j).shift := by decide
  have hconstant : ∀ r < 4, ∀ j < 16, constants.getD (16 * r + j) 0 = ((Lib.Md5.round r).operation j).constant := by
    decide
  have hword : ∀ r < 4, ∀ j < 16, (turnOf (16 * r + j) ⟨0, 0, 0, 0⟩).2 = ((Lib.Md5.round r).operation j).word := by
    decide
  have hlow : ∀ r < 4, ∀ j < 16, ((Lib.Md5.round r).operation j).word < 16 := by decide
  have hg : (turnOf (16 * r + j) s).2 = ((Lib.Md5.round r).operation j).word := by
    rw [← hword r hr j hj]
    unfold turnOf
    split_ifs <;> rfl
  have hf : (turnOf (16 * r + j) s).1 = (Lib.Md5.round r).f s.b s.c s.d := by
    unfold turnOf
    obtain rfl | rfl | rfl | rfl : r = 0 ∨ r = 1 ∨ r = 2 ∨ r = 3 := by omega
    · rw [if_pos (by omega)]
      rfl
    · rw [if_neg (by omega), if_pos (by omega)]
      show (s.d &&& s.b) ||| (~~~s.d &&& s.c) = (s.b &&& s.d) ||| (s.c &&& ~~~s.d)
      rw [UInt32.and_comm s.d s.b, UInt32.and_comm (~~~s.d)]
    · rw [if_neg (by omega), if_neg (by omega), if_pos (by omega)]
      rfl
    · rw [if_neg (by omega), if_neg (by omega), if_neg (by omega)]
      rfl
  unfold turn Lib.Md5.roll Lib.Md5.operation
  dsimp only
  rw [hf, hg, hshift r hr j hj, hconstant r hr j hj, hwords _ (hlow r hr j hj), UInt32.add_comm _ s.b,
    UInt32.add_assoc (s.a + _), UInt32.add_comm (Lib.Md5.Operation.constant _), ← UInt32.add_assoc]

end Compress

/-- **The block function** is that of the standard. -/
theorem compress_eq (s : State) (block : List UInt8) : compress s block = Lib.Md5.compress s block := by
  have hwords (i : ℕ) (hi : i < 16) :
      ((List.range 16).map fun i => leWord ((block.drop (4 * i)).take 4)).getD i 0 = Lib.Md5.words block i := by
    rw [List.getD_eq_getElem?_getD, List.getElem?_map, List.getElem?_range hi]
    rfl
  have hfold := Lib.Md5.foldl_roll (turn_eq_roll hwords) s
  unfold compress Lib.Md5.compress
  dsimp only
  rw [hfold]
  rfl

/-! ### The stream -/

/-- The registers and the buffer after a message. -/
structure Holds (message : List UInt8) (m : Md5) : Prop where
  state : m.state = Lib.Blocks.absorb 64 Lib.Md5.compress Lib.Md5.initial message
  lengthBytes : m.lengthBytes = UInt64.ofNat message.length
  length : m.buffer.length = 64
  buffered : m.buffered = (Lib.Blocks.rest 64 message).length
  held : m.buffer.take m.buffered = Lib.Blocks.rest 64 message

section Stream

variable {message input : List UInt8} {m : Md5}

lemma holds_new : Holds [] Md5.new := ⟨rfl, rfl, rfl, rfl, rfl⟩

lemma take_copyInto {array part : List UInt8} {offset : ℕ} (h : offset + part.length ≤ array.length) :
    (copyInto array offset part).take (offset + part.length) = array.take offset ++ part := by
  unfold copyInto
  rw [List.take_left']
  rw [List.length_append, List.length_take]
  omega

lemma length_copyInto {array part : List UInt8} {offset : ℕ} (h : offset + part.length ≤ array.length) :
    (copyInto array offset part).length = array.length := by
  unfold copyInto
  rw [List.length_append, List.length_append, List.length_take, List.length_drop]
  omega

/-- The loop absorbs whole blocks. -/
lemma whole_eq (s : State) (input : List UInt8) :
    Md5.whole s input = (Lib.Blocks.absorb 64 Lib.Md5.compress s input, Lib.Blocks.rest 64 input) := by
  induction hlength : input.length using Nat.strongRecOn generalizing s input with
  | ind length ih =>
    unfold Md5.whole
    by_cases hblock : 64 ≤ input.length
    · have hshorter : (input.drop 64).length < length := by
        rw [List.length_drop]
        omega
      rw [if_pos hblock, ih _ hshorter _ _ rfl, compress_eq, Lib.Blocks.absorb_of_le (by omega) hblock,
        Lib.Blocks.rest_drop (by omega) hblock]
    · rw [if_neg hblock, Lib.Blocks.absorb_of_lt (by omega), Lib.Blocks.rest_of_lt (by omega)]

/-- The rest of an input goes to the buffer. -/
lemma updateWhole_holds (hrest : m.buffer.length = 64) (hstate : Lib.Blocks.absorb 64 Lib.Md5.compress m.state input =
      Lib.Blocks.absorb 64 Lib.Md5.compress Lib.Md5.initial message)
    (hleft : Lib.Blocks.rest 64 input = Lib.Blocks.rest 64 message)
    (hcount : m.lengthBytes = UInt64.ofNat message.length) : Holds message (m.updateWhole input) := by
  have hshort : (Lib.Blocks.rest 64 message).length < 64 := by
    rw [Lib.Blocks.length_rest]
    exact Nat.mod_lt _ (by omega)
  have hfits : 0 + (Lib.Blocks.rest 64 message).length ≤ m.buffer.length := by omega
  unfold Md5.updateWhole
  rw [whole_eq, hleft]
  refine ⟨hstate, hcount, ?_, rfl, ?_⟩
  · dsimp only
    rw [length_copyInto hfits, hrest]
  · have htake := take_copyInto hfits
    rwa [Nat.zero_add, List.take_zero, List.nil_append] at htake

/-- **An update** continues the message. -/
theorem update_holds (h : Holds message m) (input : List UInt8) : Holds (message ++ input) (m.update input) := by
  have hcount : m.lengthBytes + UInt64.ofNat input.length = UInt64.ofNat (message ++ input).length := by
    rw [h.lengthBytes, List.length_append, UInt64.ofNat_add]
  have habsorb := @Lib.Blocks.absorb_append _ _ 64 Lib.Md5.compress (by omega) Lib.Md5.initial message input
  have hrest := Lib.Blocks.rest_append (n := 64) (by omega) message input
  have hheld := h.held
  have hbuffered := h.buffered
  rw [← h.state] at habsorb
  have hshort : (Lib.Blocks.rest 64 message).length < 64 := by
    rw [Lib.Blocks.length_rest]
    exact Nat.mod_lt _ (by omega)
  unfold Md5.update
  by_cases hempty : m.buffered = 0
  · have hnil : Lib.Blocks.rest 64 message = [] := List.eq_nil_of_length_eq_zero (hbuffered.symm.trans hempty)
    rw [hnil, List.nil_append] at habsorb hrest
    rw [if_neg (by simpa using hempty)]
    exact updateWhole_holds h.length habsorb.symm hrest.symm hcount
  · rw [if_pos hempty]
    dsimp only
    set count := min (64 - m.buffered) input.length with hcountDef
    have htaken : (input.take count).length = count := by
      rw [List.length_take]
      omega
    have hfits : m.buffered + (input.take count).length ≤ m.buffer.length := by
      rw [htaken, h.length]
      omega
    have hlength := length_copyInto hfits
    have htake := take_copyInto hfits
    rw [htaken, hheld] at htake
    by_cases hfull : m.buffered + count = 64
    · -- The buffer is full, and its block is the first one that is left over with the input.
      have hblock : copyInto m.buffer m.buffered (input.take count) =
          Lib.Blocks.rest 64 message ++ input.take count := by
        rw [← htake, hfull, ← h.length, ← hlength, List.take_length]
      have hsixty : (Lib.Blocks.rest 64 message ++ input.take count).length = 64 := by
        rw [← hblock, hlength, h.length]
      have hsplit : Lib.Blocks.rest 64 message ++ input =
          (Lib.Blocks.rest 64 message ++ input.take count) ++ input.drop count := by
        rw [List.append_assoc, List.take_append_drop]
      rw [hsplit, Lib.Blocks.absorb_block (by omega) hsixty] at habsorb
      rw [hsplit, Lib.Blocks.rest_block (by omega) hsixty] at hrest
      rw [if_pos hfull, hblock, compress_eq]
      have hafter := updateWhole_holds (m := { m with
        lengthBytes := m.lengthBytes + UInt64.ofNat input.length
        state := Lib.Md5.compress m.state (Lib.Blocks.rest 64 message ++ input.take count)
        buffer := Lib.Blocks.rest 64 message ++ input.take count
        buffered := 0 }) hsixty habsorb.symm hrest.symm hcount
      by_cases hdone : input.drop count = []
      · rw [if_pos hdone]
        rw [hdone] at habsorb hrest
        refine ⟨habsorb.symm, hcount, hsixty, ?_, ?_⟩
        · rw [hrest]
          rfl
        · rw [hrest]
          rfl
      · rw [if_neg hdone]
        exact hafter
    · have hall : count = input.length := by omega
      have hdone : input.drop count = [] := by rw [hall, List.drop_length]
      have hsmall : (Lib.Blocks.rest 64 message ++ input).length < 64 := by
        rw [List.length_append]
        omega
      rw [Lib.Blocks.absorb_of_lt hsmall] at habsorb
      rw [Lib.Blocks.rest_of_lt hsmall] at hrest
      rw [if_neg hfull, if_pos hdone]
      refine ⟨habsorb.symm, hcount, hlength.trans h.length, ?_, ?_⟩
      · rw [hrest, List.length_append, ← hbuffered, hall]
      · dsimp only
        rw [htake, hrest, hall, List.take_length]

/-- The padding of `finalize` brings the message to that of the standard. -/
lemma padding_eq (h : Holds message m) :
    message ++ ((0x80 :: List.replicate 71 0 : List UInt8).take
      (if m.buffered < 56 then 56 - m.buffered else 120 - m.buffered)) ++ leOctets 8 (m.lengthBytes * 8).toNat =
      Lib.Md5.pad message := by
  have hbuffered : m.buffered = message.length % 64 := h.buffered.trans (Lib.Blocks.length_rest message)
  have hlt := Nat.mod_lt message.length (show 64 > 0 by omega)
  have hzeros : (0x80 :: List.replicate 71 0 : List UInt8).take
      (if m.buffered < 56 then 56 - m.buffered else 120 - m.buffered) =
        0x80 :: List.replicate ((119 - message.length % 64) % 64) 0 := by
    have hcount : (if m.buffered < 56 then 56 - m.buffered else 120 - m.buffered) =
        (119 - message.length % 64) % 64 + 1 := by
      split_ifs <;> omega
    rw [hcount, List.take_succ_cons, List.take_replicate, min_eq_left (by omega)]
  have hbits : leOctets 8 (m.lengthBytes * 8).toNat = leOctets 8 (8 * message.length) := by
    rw [← Lib.Md5.leOctets_mod 8 (8 * message.length), h.lengthBytes, UInt64.toNat_mul, UInt64.toNat_ofNat']
    congr 1
    show message.length % 2 ^ 64 * 8 % 2 ^ 64 = 8 * message.length % 2 ^ 64
    omega
  unfold Lib.Md5.pad
  rw [hzeros, hbits]

/-- **The end of a message**: nothing stays buffered, and the result is the digest of the standard. -/
theorem finalize_holds (h : Holds message m) : m.finalize = some (Lib.Md5.digest message) := by
  have hpadded := update_holds (update_holds h ((0x80 :: List.replicate 71 0 : List UInt8).take
    (if m.buffered < 56 then 56 - m.buffered else 120 - m.buffered))) (leOctets 8 (m.lengthBytes * 8).toNat)
  rw [padding_eq h] at hpadded
  have hempty := hpadded.buffered
  rw [Lib.Blocks.length_rest, Lib.Md5.length_pad_mod] at hempty
  have hstate := hpadded.state
  unfold Md5.finalize
  dsimp only
  rw [if_pos hempty, hstate]
  rfl

/-- The digest of a message that comes in pieces. -/
theorem foldl_update_finalize (pieces : List (List UInt8)) :
    (pieces.foldl Md5.update Md5.new).finalize = some (Lib.Md5.digest pieces.flatten) := by
  have hfold (message : List UInt8) (m : Md5) (h : Holds message m) :
      Holds (message ++ pieces.flatten) (pieces.foldl Md5.update m) := by
    induction pieces generalizing message m with
    | nil => simpa using h
    | cons piece pieces ih =>
      rw [List.flatten_cons, ← List.append_assoc]
      exact ih _ _ (update_holds h piece)
  exact finalize_holds (hfold [] Md5.new holds_new)

/-- **The digest of a response** is the MD5 digest of the identifier, the secret and the challenge, and a message has
the same digest in whatever pieces it is streamed. -/
theorem responseDigest_eq :
    (∀ identifier secret challenge,
      responseDigest identifier secret challenge = some (Lib.Md5.digest (identifier :: secret ++ challenge))) ∧
    ∀ pieces : List (List UInt8),
      (pieces.foldl Md5.update Md5.new).finalize = some (Lib.Md5.digest pieces.flatten) := by
  refine ⟨fun identifier secret challenge => ?_, foldl_update_finalize⟩
  have hpieces := foldl_update_finalize [[identifier], secret, challenge]
  rw [show [[identifier], secret, challenge].flatten = identifier :: secret ++ challenge by simp] at hpieces
  exact hpieces

end Stream

end SnesModem.Rust.Chap
