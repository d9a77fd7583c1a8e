import Mathlib.Tactic.Ring
import SnesModem.Lib.Octets

/-!
# Shift registers

A register takes bits from the right, so that the first one ends up as the most significant.

* `value`: the number that the bits make;
* `shiftIn`: an octet that is shifted by one bit;
* `bits`: an octet as it is sent, and `value_bits`, that it is read back.
-/

namespace SnesModem.Lib.ShiftRegister

open SnesModem.Lib.Octets

/-- Bits as a number, the most significant one first. -/
def value (bits : List Bool) : ℕ := bits.foldl (fun v bit => 2 * v + bit.toNat) 0

/-- The bits of an octet, the most significant one first. -/
def bits (octet : UInt8) : List Bool := (List.range 8).map fun i => octet.toNat.testBit (7 - i)

def shiftIn (octet : UInt8) (carry : Bool) : UInt8 := octet <<< 1 ||| if carry then 1 else 0

section Value

variable (taken behind : List Bool)

@[simp] lemma value_nil : value [] = 0 := rfl

lemma value_concat (bit : Bool) : value (taken ++ [bit]) = 2 * value taken + bit.toNat := by
  simp [value]

lemma value_append : value (taken ++ behind) = value taken * 2 ^ behind.length + value behind := by
  induction behind using List.reverseRecOn with
  | nil => simp
  | append_singleton behind bit ih =>
    rw [← List.append_assoc, value_concat, ih, value_concat, List.length_append, List.length_singleton, Nat.pow_succ]
    ring

lemma value_lt : value taken < 2 ^ taken.length := by
  induction taken using List.reverseRecOn with
  | nil => simp
  | append_singleton taken bit ih =>
    have hbit := Bool.toNat_le bit
    rw [value_concat, List.length_append, List.length_singleton, Nat.pow_succ]
    omega

end Value

@[simp] lemma length_bits (octet : UInt8) : (bits octet).length = 8 := by simp [bits]

/-- **What is sent bit by bit is read back.** -/
theorem value_bits (octet : UInt8) : value (bits octet) = octet.toNat :=
  octet_forall (P := fun octet => value (bits octet) = octet.toNat) (by decide +kernel) octet

lemma toNat_shiftIn (octet : UInt8) (carry : Bool) :
    (shiftIn octet carry).toNat = (2 * octet.toNat + carry.toNat) % 256 := by
  cases carry with
  | false =>
    exact octet_forall (P := fun octet => (shiftIn octet false).toNat = (2 * octet.toNat + false.toNat) % 256)
      (by decide +kernel) octet
  | true =>
    exact octet_forall (P := fun octet => (shiftIn octet true).toNat = (2 * octet.toNat + true.toNat) % 256)
      (by decide +kernel) octet

end SnesModem.Lib.ShiftRegister
