import Mathlib.Data.List.GetD
import SnesModem.Lib.Cpu65816

/-!
# Buffers of octets

A buffer is memory from its first octet on; what lies behind a frame in it is there, and can be read.

* `read` and `write`: consecutive octets as a string;
* `Agree`: two buffers are equal up to a length;
* `high` and `low`: the octets of a word.
-/

namespace SnesModem.Lib.Octets

open SnesModem.Lib.Cpu65816

abbrev Buffer := ℕ → UInt8

/-- What holds of the octets one by one holds of any. -/
lemma octet_forall {P : UInt8 → Prop} (h : ∀ n < 256, P (UInt8.ofNat n)) (octet : UInt8) : P octet := by
  have hoctet := h octet.toNat octet.toNat_lt
  rwa [UInt8.ofNat_toNat] at hoctet

lemma octet_pos {octet : UInt8} (h : octet ≠ 0) : 0 < octet.toNat :=
  UInt8.lt_iff_toNat_lt.mp (UInt8.pos_iff_ne_zero.mpr h)

/-- The string of `length` octets at an offset. -/
def read (buffer : Buffer) (offset length : ℕ) : List UInt8 := (List.range length).map fun i => buffer (offset + i)

/-- The buffer after the octets have been stored one after the other. -/
def write (buffer : Buffer) (offset : ℕ) (octets : List UInt8) : Buffer := fun i =>
  if offset ≤ i ∧ i < offset + octets.length then octets.getD (i - offset) 0 else buffer i

section ReadWrite

variable (buffer : Buffer) (offset : ℕ)

@[simp] lemma length_read (length : ℕ) : (read buffer offset length).length = length := by simp [read]

@[simp] lemma read_zero : read buffer offset 0 = [] := rfl

lemma getElem_read {length i : ℕ} (h : i < (read buffer offset length).length) :
    (read buffer offset length)[i] = buffer (offset + i) := by simp [read]

lemma getD_read {length i : ℕ} (h : i < length) : (read buffer offset length).getD i 0 = buffer (offset + i) := by
  have hlength : i < (read buffer offset length).length := by rwa [length_read]
  rw [List.getD_eq_getElem _ _ hlength, getElem_read]

lemma read_succ (length : ℕ) : read buffer offset (length + 1) = buffer offset :: read buffer (offset + 1) length := by
  refine List.ext_getElem (by simp) fun i hi hi' => ?_
  rw [getElem_read]
  cases i with
  | zero => rfl
  | succ i =>
    rw [List.getElem_cons_succ, getElem_read]
    congr 1
    omega

lemma read_append (length length' : ℕ) :
    read buffer offset (length + length') = read buffer offset length ++ read buffer (offset + length) length' := by
  induction length generalizing offset with
  | zero => simp
  | succ length ih =>
    have hsum : length + 1 + length' = length + length' + 1 := by omega
    have hoffset : offset + (length + 1) = offset + 1 + length := by omega
    rw [hsum, read_succ, ih, read_succ, hoffset, List.cons_append]

lemma take_read {length n : ℕ} (h : n ≤ length) : (read buffer offset length).take n = read buffer offset n := by
  obtain ⟨k, rfl⟩ := Nat.exists_eq_add_of_le h
  rw [read_append, List.take_left' (length_read _ _ _)]

lemma drop_read {length n : ℕ} (h : n ≤ length) :
    (read buffer offset length).drop n = read buffer (offset + n) (length - n) := by
  obtain ⟨k, rfl⟩ := Nat.exists_eq_add_of_le h
  rw [read_append, List.drop_left' (length_read _ _ _), Nat.add_sub_cancel_left]

lemma read_congr {buffer buffer' : Buffer} {length : ℕ}
    (h : ∀ i, offset ≤ i → i < offset + length → buffer i = buffer' i) :
    read buffer offset length = read buffer' offset length := by
  refine List.ext_getElem (by simp) fun i hi hi' => ?_
  rw [length_read] at hi
  rw [getElem_read, getElem_read]
  exact h _ (by omega) (by omega)

@[simp] lemma write_nil : write buffer offset [] = buffer := by
  funext i
  exact if_neg (by rw [List.length_nil]; omega)

/-- **What is written is read back.** -/
theorem read_write (octets : List UInt8) : read (write buffer offset octets) offset octets.length = octets := by
  refine List.ext_getElem (by simp) fun i hi hi' => ?_
  rw [getElem_read]
  unfold write
  rw [if_pos (by omega), Nat.add_sub_cancel_left, List.getD_eq_getElem _ _ hi']

lemma read_write_of_disjoint {offset' length : ℕ} (octets : List UInt8)
    (h : offset' + length ≤ offset ∨ offset + octets.length ≤ offset') :
    read (write buffer offset octets) offset' length = read buffer offset' length := by
  refine read_congr _ fun i hi hi' => ?_
  exact if_neg (by omega)

/-- Two writes one after the other are one write. -/
theorem write_write (octets octets' : List UInt8) :
    write (write buffer offset octets) (offset + octets.length) octets' =
      write buffer offset (octets ++ octets') := by
  funext i
  unfold write
  rw [List.length_append]
  by_cases hsecond : offset + octets.length ≤ i ∧ i < offset + octets.length + octets'.length
  · rw [if_pos hsecond, if_pos (by omega), List.getD_append_right _ _ _ _ (by omega)]
    congr 1
    omega
  · rw [if_neg hsecond]
    by_cases hfirst : offset ≤ i ∧ i < offset + octets.length
    · rw [if_pos hfirst, if_pos (by omega), List.getD_append _ _ _ _ (by omega)]
    · rw [if_neg hfirst, if_neg (by omega)]

/-- A write within what was written replaces a part of it. -/
theorem write_within (before replaced behind octets : List UInt8) (hlength : octets.length = replaced.length) :
    write (write buffer offset (before ++ replaced ++ behind)) (offset + before.length) octets =
      write buffer offset (before ++ octets ++ behind) := by
  rw [List.append_assoc, List.append_assoc, ← write_write, ← write_write, ← write_write, ← write_write, hlength]
  funext i
  unfold write
  by_cases hinside : offset + before.length ≤ i ∧ i < offset + before.length + octets.length
  · rw [if_pos hinside, if_neg (by omega), if_pos hinside]
  · rw [if_neg hinside, if_neg (by omega : ¬ (offset + before.length ≤ i ∧ i < offset + before.length + replaced.length)),
      if_neg hinside]

end ReadWrite

/-- Two buffers hold the same octets below an offset. -/
def Agree (length : ℕ) (buffer buffer' : Buffer) : Prop := ∀ i < length, buffer i = buffer' i

section Agree

variable {buffer buffer' : Buffer} {length : ℕ}

lemma Agree.mono {length' : ℕ} (h : Agree length buffer buffer') (hle : length' ≤ length) :
    Agree length' buffer buffer' := fun i hi => h i (by omega)

lemma Agree.nil (buffer buffer' : Buffer) : Agree 0 buffer buffer' := fun _ hi => absurd hi (Nat.not_lt_zero _)

lemma Agree.trans {buffer'' : Buffer} (h : Agree length buffer buffer') (h' : Agree length buffer' buffer'') :
    Agree length buffer buffer'' := fun i hi => (h i hi).trans (h' i hi)

/-- The same octets written to both leave them equal as far as they were. -/
lemma Agree.write_same (h : Agree length buffer buffer') (offset : ℕ) (octets : List UInt8) :
    Agree length (write buffer offset octets) (write buffer' offset octets) := by
  intro i hi
  unfold write
  split_ifs
  · rfl
  · exact h i hi

/-- The same octets written behind what is equal extend it. -/
lemma Agree.write_append (h : Agree length buffer buffer') (octets : List UInt8) :
    Agree (length + octets.length) (write buffer length octets) (write buffer' length octets) := by
  intro i hi
  unfold write
  split_ifs with hinside
  · rfl
  · exact h i (by omega)

lemma Agree.read {offset n : ℕ} (h : Agree length buffer buffer') (hle : offset + n ≤ length) :
    read buffer offset n = Octets.read buffer' offset n := read_congr _ fun i _ hi => h i (by omega)

end Agree

/-! ### Words -/

/-- The high octet of a word. -/
def high (value : UInt16) : UInt8 := UInt8.ofNat (value.toNat / 256)

/-- The low octet of a word. -/
def low (value : UInt16) : UInt8 := UInt8.ofNat value.toNat

lemma word_pos {value : UInt16} (h : value ≠ 0) : 0 < value.toNat :=
  UInt16.lt_iff_toNat_lt.mp (UInt16.pos_iff_ne_zero.mpr h)

lemma toNat_high (value : UInt16) : (high value).toNat = value.toNat / 256 := by
  have := value.toNat_lt
  unfold high
  rw [UInt8.toNat_ofNat']
  omega

lemma toNat_low (value : UInt16) : (low value).toNat = value.toNat % 256 := by
  unfold low
  rw [UInt8.toNat_ofNat']

@[simp] lemma word_high_low (value : UInt16) : word (high value) (low value) = value := by
  apply UInt16.toNat_inj.mp
  rw [toNat_word, toNat_high, toNat_low]
  omega

/-- The two octets spell the word. -/
lemma high_low_value (value : UInt16) : 256 * (high value).toNat + (low value).toNat = value.toNat := by
  rw [← toNat_word, word_high_low]

@[simp] lemma high_word (a b : UInt8) : high (word a b) = a := by
  have hb := b.toNat_lt
  rw [← UInt8.toNat_inj, toNat_high, toNat_word]
  omega

@[simp] lemma low_word (a b : UInt8) : low (word a b) = b := by
  have hb := b.toNat_lt
  rw [← UInt8.toNat_inj, toNat_low, toNat_word]
  omega

lemma high_eq_zero {value : UInt16} : high value = 0 ↔ value.toNat < 256 := by
  rw [← UInt8.toNat_inj, toNat_high]
  show value.toNat / 256 = 0 ↔ _
  omega

lemma toNat_max (a b : UInt16) : (max a b).toNat = max a.toNat b.toNat := by
  show (if a ≤ b then b else a).toNat = _
  split_ifs with h <;> rw [UInt16.le_iff_toNat_le] at h <;> omega

lemma toNat_min (a b : UInt16) : (min a b).toNat = min a.toNat b.toNat := by
  show (if a ≤ b then a else b).toNat = _
  split_ifs with h <;> rw [UInt16.le_iff_toNat_le] at h <;> omega

lemma toNat_add_le (a b : UInt16) : (a + b).toNat ≤ a.toNat + b.toNat := by
  rw [UInt16.toNat_add]
  exact Nat.mod_le _ _

lemma toNat_add_of_lt {a b : UInt16} (h : a.toNat + b.toNat < 2 ^ 16) : (a + b).toNat = a.toNat + b.toNat := by
  rw [UInt16.toNat_add]
  omega

end SnesModem.Lib.Octets
