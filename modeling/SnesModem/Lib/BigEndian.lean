import Mathlib.Data.UInt
import Mathlib.Algebra.Order.Ring.Nat
import Mathlib.Tactic.Ring

/-!
# Big-endian numbers

The number that a string of octets spells, most significant octet first (`value`), and the string of a
given width that spells a number (`octets`).  The two are inverse on numbers that fit the width.
-/

namespace SnesModem.Lib.BigEndian

/-- The number spelled by a string of octets. -/
def value (string : List UInt8) : ℕ := string.foldl (fun n octet => 256 * n + octet.toNat) 0

/-- The string of `width` octets that spells the number `n`, modulo `256 ^ width`. -/
def octets : ℕ → ℕ → List UInt8
  | 0, _ => []
  | width + 1, n => octets width (n / 256) ++ [UInt8.ofNat n]

@[simp] lemma length_octets (width n : ℕ) : (octets width n).length = width := by
  induction width generalizing n with
  | zero => rfl
  | succ width ih => simp [octets, ih]

lemma value_append_singleton (string : List UInt8) (octet : UInt8) :
    value (string ++ [octet]) = 256 * value string + octet.toNat := by
  simp [value, List.foldl_append]

lemma value_pair (high low : UInt8) : value [high, low] = 256 * high.toNat + low.toNat := by
  simp [value]

theorem value_lt (string : List UInt8) : value string < 256 ^ string.length := by
  induction string using List.reverseRecOn with
  | nil => simp [value]
  | append_singleton string octet ih =>
    have := octet.toNat_lt
    rw [value_append_singleton, List.length_append, List.length_singleton, pow_succ]
    omega

theorem value_octets (width n : ℕ) (h : n < 256 ^ width) : value (octets width n) = n := by
  induction width generalizing n with
  | zero =>
    simp only [pow_zero, Nat.lt_one_iff] at h
    simp [h, octets, value]
  | succ width ih =>
    rw [pow_succ] at h
    rw [octets, value_append_singleton, ih (n / 256) (by omega), UInt8.toNat_ofNat']
    omega

theorem octets_value (string : List UInt8) : octets string.length (value string) = string := by
  induction string using List.reverseRecOn with
  | nil => rfl
  | append_singleton string octet ih =>
    have := octet.toNat_lt
    rw [List.length_append, List.length_singleton, octets, value_append_singleton,
      show (256 * value string + octet.toNat) / 256 = value string by omega, ih]
    congr 2
    apply UInt8.toNat_inj.mp
    rw [UInt8.toNat_ofNat']
    omega

end SnesModem.Lib.BigEndian
