import Mathlib.Data.List.Basic

/-!
# Slices whose misuse is a panic

The accesses to a slice that check their bounds as they run; `none` is the panic.

* `index`, `slice`, `store`, `copyFromSlice`: an element, a part, and the two ways of writing;
* `subtract`: a difference of naturals that must not be negative;
* the lemmas say when each succeeds, and with what.
-/

namespace SnesModem.Lib.Slices

variable {α : Type*}

/-- `data[i]`. -/
def index (data : List α) (i : ℕ) : Option α := data[i]?

/-- `&data[first..last]`. -/
def slice (data : List α) (first last : ℕ) : Option (List α) :=
  if first ≤ last ∧ last ≤ data.length then some ((data.take last).drop first) else none

/-- `output[i] = a`. -/
def store (output : List α) (i : ℕ) (a : α) : Option (List α) :=
  if i < output.length then some (output.set i a) else none

/-- `output[first..last].copy_from_slice(data)`. -/
def copyFromSlice (output : List α) (first last : ℕ) (data : List α) : Option (List α) :=
  if first ≤ last ∧ last ≤ output.length ∧ data.length = last - first then
    some (output.take first ++ data ++ output.drop last)
  else none

/-- `a - b`. -/
def subtract (a b : ℕ) : Option ℕ := if b ≤ a then some (a - b) else none

section Access

variable {data output : List α} {first last i : ℕ}

@[simp] lemma index_zero_cons (a : α) : index (a :: data) 0 = some a := rfl

@[simp] lemma index_succ_cons (a : α) (i : ℕ) : index (a :: data) (i + 1) = index data i := rfl

lemma slice_eq (hfirst : first ≤ last) (hlast : last ≤ data.length) :
    slice data first last = some ((data.take last).drop first) := if_pos ⟨hfirst, hlast⟩

/-- The part from the front. -/
lemma slice_front (hlast : last ≤ data.length) : slice data 0 last = some (data.take last) :=
  slice_eq (Nat.zero_le _) hlast

/-- The part to the end. -/
lemma slice_back (hfirst : first ≤ data.length) : slice data first data.length = some (data.drop first) := by
  rw [slice_eq hfirst (Nat.le_refl _), List.take_length]

/-- The part of a given length, as it is taken from what lies behind `first`. -/
lemma slice_length {n : ℕ} (h : first + n ≤ data.length) :
    slice data first (first + n) = some ((data.drop first).take n) := by
  rw [slice_eq (Nat.le_add_right _ _) h, List.drop_take, Nat.add_sub_cancel_left]

lemma subtract_eq {a b : ℕ} (h : b ≤ a) : subtract a b = some (a - b) := if_pos h

lemma store_eq {a : α} (h : i < output.length) : store output i a = some (output.set i a) := if_pos h

lemma copyFromSlice_eq (hfirst : first ≤ last) (hlast : last ≤ output.length) (hlength : data.length = last - first) :
    copyFromSlice output first last data = some (output.take first ++ data ++ output.drop last) :=
  if_pos ⟨hfirst, hlast, hlength⟩

end Access

end SnesModem.Lib.Slices
