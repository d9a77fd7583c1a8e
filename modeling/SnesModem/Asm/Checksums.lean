import SnesModem.Asm.Ipv4Transmit
import SnesModem.Lib.InternetChecksum

/-!
# The checksums of IPv4, ICMP and UDP

`checksumWords` is the word of the sum of the words, so that a checksum field that is filled with its complement makes
the whole sum `$FFFF`.
-/

namespace SnesModem.Asm

open SnesModem.Lib.Cpu65816 SnesModem.Lib.Octets SnesModem.Lib.OnesComplement SnesModem.Lib.InternetChecksum

section Checksum

variable (octets octets' : List UInt8)

lemma toNat_addChecksumWord (accumulator value : UInt16) :
    (addChecksumWord accumulator value).toNat = fold 65535 (accumulator.toNat + value.toNat) := by
  have haccumulator := accumulator.toNat_lt
  have hvalue := value.toNat_lt
  have hone : (1 : UInt16).toNat = 1 := rfl
  rw [fold_add_of_le (by omega) (by omega)]
  unfold addChecksumWord
  split_ifs with hcarry hfold hfold
  · rw [UInt16.toNat_add, UInt16.toNat_add, hone]
    omega
  · omega
  · omega
  · rw [UInt16.toNat_add]
    omega

/-- **The accumulator holds the word of the sum.** -/
theorem toNat_checksumWords (accumulator : UInt16) :
    (checksumWords accumulator octets).toNat = fold 65535 (accumulator.toNat + wordSum octets) := by
  have hzero : (0 : UInt8).toNat = 0 := rfl
  induction accumulator, octets using checksumWords.induct with
  | case1 accumulator =>
    have haccumulator := accumulator.toNat_lt
    simp only [checksumWords, wordSum, Nat.add_zero]
    exact (fold_of_le (by omega)).symm
  | case2 accumulator octet =>
    simp only [checksumWords, wordSum]
    rw [toNat_addChecksumWord, toNat_word, hzero, Nat.add_zero]
  | case3 accumulator a b octets ih =>
    simp only [checksumWords, wordSum]
    rw [ih, toNat_addChecksumWord, fold_fold_add, toNat_word, Nat.add_assoc]

lemma toNat_complement (value : UInt16) : (value ^^^ 0xffff).toNat = 65535 - value.toNat := by
  rw [show (0xffff : UInt16) = -1 from rfl, UInt16.xor_neg_one, UInt16.toNat_not]
  rfl

/-- **A message with its checksum sums to `$FFFF`**, if the field lies at a word. -/
theorem checksumWords_filled (heven : Even octets.length) {checksum : UInt16}
    (hchecksum : checksum = checksumWords 0 (octets ++ [0, 0] ++ octets') ^^^ 0xffff) :
    checksumWords 0 (octets ++ [high checksum, low checksum] ++ octets') = 0xffff := by
  have hzero : (0 : UInt16).toNat = 0 := rfl
  rw [← UInt16.toNat_inj, toNat_checksumWords]
  refine fold_filled octets octets' (n := 0) heven ?_ (Or.inl (high_low_value checksum))
  rw [hchecksum, toNat_complement, toNat_checksumWords, hzero]

end Checksum

end SnesModem.Asm
