import Mathlib.Data.List.Basic
import Mathlib.Data.UInt

/-!
# Type-length-value lists

An item is a type octet, a length octet that counts both header octets, and its data.  A string of octets
is read from the front into items, up to the first fault.

* `Item`: an item that fits its length octet; `Item.encoded` is its octets;
* `items`: the items of a string and the fault that ended the reading, if there was one;
* `items_flatMap` and `flatMap_items`: reading and writing are inverse on faultless strings;
* `Tlv.induct`: induction along the reading.
-/

namespace SnesModem.Lib.Tlv

/-- One item. -/
structure Item where
  type : UInt8
  data : List UInt8
  fits : data.length + 2 < 256
  deriving DecidableEq, Repr

/-- The octets of an item. -/
def Item.encoded (item : Item) : List UInt8 :=
  item.type :: UInt8.ofNat (item.data.length + 2) :: item.data

/-- Why the reading of a string stopped before its end. -/
inductive Fault where
  | headerTruncated (remaining : ℕ)
  | invalidLength (type : UInt8) (declared remaining : ℕ)
  deriving DecidableEq, Repr

/-- Items read from the front of a string, at most `fuel` of them. -/
def read : ℕ → List UInt8 → List Item × Option Fault
  | 0, _ => ([], none)
  | _ + 1, [] => ([], none)
  | _ + 1, [_] => ([], some (.headerTruncated 1))
  | fuel + 1, type :: length :: rest =>
    if 2 ≤ length.toNat ∧ length.toNat ≤ rest.length + 2 then
      let item : Item := ⟨type, rest.take (length.toNat - 2), by
        have := length.toNat_lt
        rw [List.length_take]
        omega⟩
      let (items, fault) := read fuel (rest.drop (length.toNat - 2))
      (item :: items, fault)
    else ([], some (.invalidLength type length.toNat (rest.length + 2)))

/-- The items of a string, and the fault that ended the reading. -/
def items (octets : List UInt8) : List Item × Option Fault := read octets.length octets

/-! ### One item -/

@[simp] lemma length_encoded (item : Item) : item.encoded.length = item.data.length + 2 := by
  simp [Item.encoded]

lemma eq_of_encoded {item item' : Item} (h : item.encoded = item'.encoded) : item = item' := by
  obtain ⟨type, data, fits⟩ := item
  obtain ⟨type', data', fits'⟩ := item'
  simp only [Item.encoded, List.cons.injEq] at h
  obtain ⟨rfl, -, rfl⟩ := h
  rfl

lemma toNat_length (item : Item) : (UInt8.ofNat (item.data.length + 2)).toNat = item.data.length + 2 :=
  UInt8.toNat_ofNat_of_lt' item.fits

/-! ### Reading -/

section Read

lemma read_of_length_le (fuel : ℕ) (octets : List UInt8) (h : octets.length ≤ fuel) :
    read fuel octets = items octets := by
  unfold items
  induction fuel using Nat.strong_induction_on generalizing octets with
  | _ fuel ih =>
    match fuel, octets with
    | 0, [] => rfl
    | 0, _ :: _ => simp at h
    | fuel + 1, [] => rfl
    | fuel + 1, [_] => rfl
    | fuel + 1, type :: length :: rest =>
      simp only [List.length_cons] at h ⊢
      simp only [read]
      have hrest : (rest.drop (length.toNat - 2)).length ≤ rest.length := by simp
      rw [ih fuel (by omega) _ (by omega), ih (rest.length + 1) (by omega) _ (by omega)]

@[simp] lemma items_nil : items [] = ([], none) := rfl

lemma items_cons_cons (type length : UInt8) (rest : List UInt8)
    (h : ¬ (2 ≤ length.toNat ∧ length.toNat ≤ rest.length + 2)) :
    items (type :: length :: rest) = ([], some (.invalidLength type length.toNat (rest.length + 2))) := by
  simp only [items, List.length_cons, read]
  rw [if_neg h]

/-- **Reading an item** off the front of a string. -/
theorem items_encoded_append (item : Item) (rest : List UInt8) :
    items (item.encoded ++ rest) = (item :: (items rest).1, (items rest).2) := by
  have hl := toNat_length item
  have hrest : rest.length ≤ item.data.length + rest.length + 1 := by omega
  simp only [items, Item.encoded, List.cons_append, List.length_cons, List.length_append, read, hl]
  rw [if_pos (by omega)]
  simp only [Nat.add_sub_cancel, List.drop_left, List.take_left]
  rw [read_of_length_le _ _ hrest]
  rfl

/-- A string starts with an item, is empty, or has a fault at its front. -/
theorem items_cases (octets : List UInt8) :
    octets = [] ∨ (∃ fault, items octets = ([], some fault)) ∨
      ∃ item rest, octets = Item.encoded item ++ rest := by
  match octets with
  | [] => exact Or.inl rfl
  | [_] => exact Or.inr (Or.inl ⟨_, rfl⟩)
  | type :: length :: rest =>
    by_cases h : 2 ≤ length.toNat ∧ length.toNat ≤ rest.length + 2
    · have hlt := length.toNat_lt
      have hlen : (rest.take (length.toNat - 2)).length = length.toNat - 2 := by
        rw [List.length_take]
        omega
      refine Or.inr (Or.inr ⟨⟨type, rest.take (length.toNat - 2), by omega⟩, rest.drop (length.toNat - 2), ?_⟩)
      have : length.toNat - 2 + 2 = length.toNat := by omega
      simp [Item.encoded, hlen, this]
    · exact Or.inr (Or.inl ⟨_, items_cons_cons type length rest h⟩)

/-- **Induction along the reading** of a string. -/
@[elab_as_elim]
theorem induct {motive : List UInt8 → Prop} (nil : motive [])
    (fault : ∀ octets fault, items octets = ([], some fault) → motive octets)
    (item : ∀ item rest, motive rest → motive (Item.encoded item ++ rest)) (octets : List UInt8) :
    motive octets := by
  induction hn : octets.length using Nat.strong_induction_on generalizing octets with
  | _ n ih =>
    rcases items_cases octets with rfl | ⟨_, hfault⟩ | ⟨head, rest, rfl⟩
    · exact nil
    · exact fault _ _ hfault
    · refine item head rest (ih rest.length ?_ rest rfl)
      rw [← hn, List.length_append, length_encoded]
      omega

/-- **What is written is read back.** -/
theorem items_flatMap (list : List Item) : items (list.flatMap Item.encoded) = (list, none) := by
  induction list with
  | nil => rfl
  | cons head tail ih => rw [List.flatMap_cons, items_encoded_append, ih]

/-- **What is read without a fault** is the string that its items write. -/
theorem flatMap_items (octets : List UInt8) :
    (items octets).2 = none → (items octets).1.flatMap Item.encoded = octets := by
  induction octets using induct with
  | nil => simp
  | fault octets fault h => simp [h]
  | item item rest ih =>
    rw [items_encoded_append]
    intro h
    rw [List.flatMap_cons, ih h]

end Read

end SnesModem.Lib.Tlv
