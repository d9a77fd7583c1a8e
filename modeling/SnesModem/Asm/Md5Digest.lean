import SnesModem.Asm.Md5
import SnesModem.Rust.ChapDigest

/-!
# `ppp/md5.asm` in words against RFC 1321

* `messageWord_eq`: the words that the rounds take are those of the blocks of the padded message;
* `md5Block_eq`: a block changes the state as the standard says;
* `pppMd5Compute_eq`: the digest of a message that fits the buffer.
-/

namespace SnesModem.Asm

open SnesModem.Lib

/-- The registers, as the standard has them. -/
def Md5State.registers (s : Md5State) : Lib.Md5.State := ⟨s.a, s.b, s.c, s.d⟩

/-! ### Words -/

section Words

lemma messageWord_eq_leWord (message : List UInt8) (offset : ℕ) :
    messageWord message offset = Md5.leWord [message.getD offset 0, message.getD (offset + 1) 0,
      message.getD (offset + 2) 0, message.getD (offset + 3) 0] := by
  have ha := (message.getD offset 0).toNat_lt
  have hb := (message.getD (offset + 1) 0).toNat_lt
  have hc := (message.getD (offset + 2) 0).toNat_lt
  have hd := (message.getD (offset + 3) 0).toNat_lt
  rw [← UInt32.toNat_inj, Md5.toNat_leWord]
  unfold messageWord Md5.leNat
  dsimp only
  simp only [Nat.add_zero, UInt32.toNat_add, UInt32.toNat_mul, UInt8.toNat_toUInt32]
  have h256 : UInt32.toNat 256 = 256 := rfl
  have h65536 : UInt32.toNat 65536 = 65536 := rfl
  have h16777216 : UInt32.toNat 16777216 = 16777216 := rfl
  rw [h256, h65536, h16777216]
  omega

/-- The words of a block of the message. -/
lemma messageWord_eq (message : List UInt8) (block : ℕ) {i : ℕ} (hi : i < 16) (hblock : block + 64 ≤ message.length) :
    messageWord message (block + 4 * i) = Md5.words ((message.drop block).take 64) i := by
  have hfour : (((message.drop block).take 64).drop (4 * i)).take 4 =
      [message.getD (block + 4 * i) 0, message.getD (block + 4 * i + 1) 0, message.getD (block + 4 * i + 2) 0,
        message.getD (block + 4 * i + 3) 0] := by
    refine List.ext_getElem? fun k => ?_
    by_cases hk : k < 4
    · rw [List.getElem?_take_of_lt hk, List.getElem?_drop, List.getElem?_take_of_lt (by omega), List.getElem?_drop]
      have hin : block + 4 * i + k < message.length := by omega
      have hget : message[block + 4 * i + k]? = some (message.getD (block + 4 * i + k) 0) := by
        rw [List.getD_eq_getElem?_getD, List.getElem?_eq_getElem hin]
        rfl
      rw [← Nat.add_assoc, hget]
      obtain rfl | rfl | rfl | rfl : k = 0 ∨ k = 1 ∨ k = 2 ∨ k = 3 := by omega
      · rfl
      · rfl
      · rfl
      · rfl
    · rw [List.getElem?_eq_none (by simp; omega), List.getElem?_eq_none (by simp; omega)]
  unfold Md5.words
  rw [hfour]
  exact messageWord_eq_leWord message _

end Words

/-! ### Rounds and blocks -/

section Rounds

variable {message : List UInt8} {block : ℕ} (hblock : block + 64 ≤ message.length)
include hblock

/-- Every round is an operation of the standard, and moves the registers. -/
lemma md5Round_eq : ∀ r < 4, ∀ j < 16, ∀ s : Lib.Md5.State,
    (md5Round message block ⟨s.a, s.b, s.c, s.d⟩ (16 * r + j)).registers =
      Md5.roll (Md5.round r).f (Md5.words ((message.drop block).take 64)) ((Md5.round r).operation j) s := by
  intro r hr j hj s
  have hshift : ∀ r < 4, ∀ j < 16,
      pppMd5ShiftAmounts.getD (16 * r + j) 0 = ((Md5.round r).operation j).shift := by decide
  have hconstant : ∀ r < 4, ∀ j < 16,
      pppMd5RoundConstants.getD (16 * r + j) 0 = ((Md5.round r).operation j).constant := by decide
  have hword : ∀ r < 4, ∀ j < 16,
      (roundFunction (16 * r + j) ⟨0, 0, 0, 0⟩).2 = ((Md5.round r).operation j).word := by decide
  have hlow : ∀ r < 4, ∀ j < 16, ((Md5.round r).operation j).word < 16 := by decide
  have hg : (roundFunction (16 * r + j) ⟨s.a, s.b, s.c, s.d⟩).2 = ((Md5.round r).operation j).word := by
    rw [← hword r hr j hj]
    unfold roundFunction
    split_ifs <;> rfl
  have hf : (roundFunction (16 * r + j) ⟨s.a, s.b, s.c, s.d⟩).1 = (Md5.round r).f s.b s.c s.d := by
    unfold roundFunction
    obtain rfl | rfl | rfl | rfl : r = 0 ∨ r = 1 ∨ r = 2 ∨ r = 3 := by omega
    · rw [if_pos (by omega)]
      rfl
    · rw [if_neg (by omega), if_pos (by omega)]
      show (s.d &&& s.b) ||| (~~~s.d &&& s.c) = (s.b &&& s.d) ||| (s.c &&& ~~~s.d)
      rw [UInt32.and_comm s.d s.b, UInt32.and_comm (~~~s.d)]
    · rw [if_neg (by omega), if_neg (by omega), if_pos (by omega)]
      rfl
    · rw [if_neg (by omega), if_neg (by omega), if_neg (by omega)]
      rfl
  unfold md5Round Md5.roll Md5.operation Md5State.registers
  dsimp only
  rw [hf, hg, hshift r hr j hj, hconstant r hr j hj, messageWord_eq message block (hlow r hr j hj) hblock,
    UInt32.add_comm _ s.a, UInt32.add_assoc (s.a + _), UInt32.add_comm (Md5.Operation.constant _), ← UInt32.add_assoc]
  rfl

/-- **A block** changes the state as the standard says. -/
lemma md5Block_eq (s : Md5State) :
    (md5Block message s block).registers = Md5.compress s.registers ((message.drop block).take 64) := by
  have hfold (rounds : List ℕ) (s : Md5State) : (rounds.foldl (md5Round message block) s).registers =
      rounds.foldl (fun s i => (md5Round message block ⟨s.a, s.b, s.c, s.d⟩ i).registers) s.registers := by
    induction rounds generalizing s with
    | nil => rfl
    | cons round rounds ih => exact ih _
  have hrounds := (hfold (List.range 64) s).trans (Md5.foldl_roll (md5Round_eq hblock) s.registers)
  unfold md5Block Md5.compress
  rw [← hrounds]
  rfl

end Rounds

/-! ### Messages -/

section Messages

variable {message : List UInt8}

/-- The padding of a message of one or two blocks is that of the standard. -/
lemma paddedMessage_eq (h : message.length < 120) : paddedMessage message = Md5.pad message := by
  have hzeros : (if message.length < 56 then 56 else 120) - (message.length + 1) = (119 - message.length % 64) % 64 := by
    split_ifs <;> omega
  have hcount : (UInt8.ofNat message.length).toNat = message.length :=
    UInt8.toNat_ofNat_of_lt' (show message.length < 256 by omega)
  have hbits : [UInt8.ofNat message.length * 8, UInt8.ofNat message.length / 32, 0, 0, 0, 0, 0, 0] =
      Md5.leOctets 8 (8 * message.length) := by
    have hzero (i : ℕ) (hi : 2 ≤ i) : 8 * message.length / 256 ^ i = 0 := by
      refine Nat.div_eq_of_lt (lt_of_lt_of_le (show _ < 256 ^ 2 by omega) (Nat.pow_le_pow_right (by omega) hi))
    have hlow : UInt8.ofNat message.length * 8 = UInt8.ofNat (8 * message.length / 256 ^ 0) := by
      rw [← UInt8.toNat_inj, UInt8.toNat_mul, hcount, UInt8.toNat_ofNat']
      show message.length * 8 % 256 = 8 * message.length / 1 % 256
      omega
    have hhigh : UInt8.ofNat message.length / 32 = UInt8.ofNat (8 * message.length / 256 ^ 1) := by
      rw [← UInt8.toNat_inj, UInt8.toNat_div, hcount, UInt8.toNat_ofNat']
      show message.length / 32 = 8 * message.length / 256 % 256
      omega
    show _ = [_, _, UInt8.ofNat (8 * message.length / 256 ^ 2), UInt8.ofNat (8 * message.length / 256 ^ 3),
      UInt8.ofNat (8 * message.length / 256 ^ 4), UInt8.ofNat (8 * message.length / 256 ^ 5),
      UInt8.ofNat (8 * message.length / 256 ^ 6), UInt8.ofNat (8 * message.length / 256 ^ 7)]
    rw [hzero 2 (by omega), hzero 3 (by omega), hzero 4 (by omega), hzero 5 (by omega), hzero 6 (by omega),
      hzero 7 (by omega), hlow, hhigh]
    rfl
  unfold paddedMessage Md5.pad
  dsimp only
  rw [hzeros, hbits]

lemma length_paddedMessage (h : message.length < 120) :
    (paddedMessage message).length = if message.length < 56 then 64 else 128 := by
  unfold paddedMessage
  simp only [List.length_append, List.length_cons, List.length_replicate, List.length_nil]
  split_ifs <;> omega

lemma wordOctets_eq (word : UInt32) : wordOctets word = Md5.wordOctets word := by
  have hoctet (k i : ℕ) (hk : (UInt32.ofNat k).toNat = k) (hlt : k < 32) (hpower : 2 ^ k = 256 ^ i) :
      (word >>> UInt32.ofNat k).toUInt8 = UInt8.ofNat (word.toNat / 256 ^ i) := by
    rw [← UInt8.toNat_inj, UInt32.toNat_toUInt8, UInt32.toNat_shiftRight, hk, Nat.mod_eq_of_lt hlt,
      Nat.shiftRight_eq_div_pow, hpower, UInt8.toNat_ofNat']
  have hzero : word.toUInt8 = UInt8.ofNat (word.toNat / 256 ^ 0) := by
    rw [← UInt8.toNat_inj, UInt32.toNat_toUInt8, UInt8.toNat_ofNat', Nat.pow_zero, Nat.div_one]
  show [word.toUInt8, (word >>> UInt32.ofNat 8).toUInt8, (word >>> UInt32.ofNat 16).toUInt8,
    (word >>> UInt32.ofNat 24).toUInt8] = _
  rw [hzero, hoctet 8 1 rfl (by omega) rfl, hoctet 16 2 rfl (by omega) rfl, hoctet 24 3 rfl (by omega) rfl]
  rfl

/-- **The digest** of a message that fits the buffer is that of the standard. -/
theorem pppMd5Compute_eq (h : message.length < 120) : pppMd5Compute message = Md5.digest message := by
  have hlength := length_paddedMessage h
  have hblocks : ((if message.length < 56 then [0] else [0, 64]).foldl (md5Block (paddedMessage message))
      pppMd5InitialState).registers = Blocks.absorb 64 Md5.compress Md5.initial (paddedMessage message) := by
    by_cases hone : message.length < 56
    · rw [if_pos hone] at hlength ⊢
      rw [Blocks.absorb_of_le (by omega) hlength.ge, Blocks.absorb_of_lt (by rw [List.length_drop]; omega)]
      exact md5Block_eq (by omega) pppMd5InitialState
    · rw [if_neg hone] at hlength ⊢
      rw [Blocks.absorb_of_le (by omega) (by omega), Blocks.absorb_of_le (by omega) (by rw [List.length_drop]; omega),
        Blocks.absorb_of_lt (by rw [List.length_drop, List.length_drop]; omega)]
      have hfirst := @md5Block_eq (paddedMessage message) 0 (by omega) pppMd5InitialState
      have hsecond := @md5Block_eq (paddedMessage message) 64 (by omega)
        (md5Block (paddedMessage message) pppMd5InitialState 0)
      rw [hfirst] at hsecond
      exact hsecond
  unfold pppMd5Compute Md5.digest
  dsimp only
  rw [← paddedMessage_eq h, ← hblocks]
  simp only [wordOctets_eq]
  rfl

end Messages

end SnesModem.Asm
