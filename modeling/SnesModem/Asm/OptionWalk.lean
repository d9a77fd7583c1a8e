import SnesModem.Asm.LcpOptions
import SnesModem.Lib.Tlv

/-!
# The walk over the options of a packet

A walk that the parser accepts stops at the items of a type-length-value list.

* `Placed`: the items of a list lie one after the other in a buffer;
* `optionLoop_eq_none_iff`: the parser accepts an option area exactly when items fill it;
* `optionOffsets_eq`: the loops over the options stop at the positions of these items;
* `Placed.of_agree`: all of this depends on the octets of the option area only.
-/

namespace SnesModem.Asm

open SnesModem.Lib SnesModem.Lib.Octets

/-- The number of octets of a list of items. -/
def span (items : List Tlv.Item) : ℕ := (items.flatMap Tlv.Item.encoded).length

/-- The items of a list lie in a buffer, one after the other, from an offset on. -/
def Placed (buffer : Buffer) : ℕ → List Tlv.Item → Prop
  | _, [] => True
  | y, item :: items =>
    read buffer y (item.data.length + 2) = item.encoded ∧ Placed buffer (y + (item.data.length + 2)) items

/-- The offsets of the items. -/
def positions : UInt16 → List Tlv.Item → List UInt16
  | _, [] => []
  | y, item :: items => y :: positions (y + UInt16.ofNat (item.data.length + 2)) items

section Span

variable {buffer buffer' : Buffer} {y : ℕ} {item : Tlv.Item} {items : List Tlv.Item}

@[simp] lemma span_nil : span [] = 0 := rfl

@[simp] lemma span_cons : span (item :: items) = item.data.length + 2 + span items := by
  simp [span]

lemma two_mul_length_le_span (items : List Tlv.Item) : 2 * items.length ≤ span items := by
  induction items with
  | nil => simp
  | cons item items ih =>
    rw [span_cons, List.length_cons]
    omega

/-- Items are placed exactly when the octets from the offset on are theirs. -/
theorem placed_iff : Placed buffer y items ↔ read buffer y (span items) = items.flatMap Tlv.Item.encoded := by
  induction items generalizing y with
  | nil => simp [Placed, span]
  | cons item items ih =>
    have hlength : (read buffer y (item.data.length + 2)).length = item.encoded.length := by simp
    have hsplit := read_append buffer y (item.data.length + 2) (span items)
    rw [Placed, ih, span_cons, hsplit, List.flatMap_cons]
    constructor
    · rintro ⟨hitem, hitems⟩
      rw [hitem, hitems]
    · intro h
      exact List.append_inj h hlength

lemma Placed.of_agree {packetEnd : ℕ} (h : Placed buffer y items) (hagree : Agree packetEnd buffer buffer')
    (hend : y + span items ≤ packetEnd) : Placed buffer' y items := by
  rw [placed_iff] at h ⊢
  rw [← h]
  exact (hagree.read hend).symm

/-! ### The octets of a placed item -/

lemma Placed.head (h : Placed buffer y (item :: items)) :
    read buffer y (item.data.length + 2) = item.encoded := h.1

lemma Placed.tail (h : Placed buffer y (item :: items)) :
    Placed buffer (y + (item.data.length + 2)) items := h.2

lemma Placed.type (h : Placed buffer y (item :: items)) : buffer y = item.type := by
  have hhead := h.head
  rw [read_succ] at hhead
  exact (List.cons.inj hhead).1

lemma Placed.length (h : Placed buffer y (item :: items)) :
    buffer (y + 1) = UInt8.ofNat (item.data.length + 2) := by
  have hhead := h.head
  rw [read_succ, read_succ] at hhead
  exact (List.cons.inj (List.cons.inj hhead).2).1

lemma Placed.data (h : Placed buffer y (item :: items)) : read buffer (y + 2) item.data.length = item.data := by
  have hhead := h.head
  rw [read_succ, read_succ] at hhead
  exact (List.cons.inj (List.cons.inj hhead).2).2

lemma toNat_ofNat_length (item : Tlv.Item) :
    (UInt16.ofNat (item.data.length + 2)).toNat = item.data.length + 2 := by
  have := item.fits
  have hsize : UInt16.size = 2 ^ 16 := rfl
  exact UInt16.toNat_ofNat_of_lt' (by omega)

lemma Placed.optionLength {y : UInt16} (h : Placed buffer y.toNat (item :: items)) :
    optionLength buffer y = UInt16.ofNat (item.data.length + 2) := by
  apply UInt16.toNat_inj.mp
  unfold Asm.optionLength
  rw [UInt8.toNat_toUInt16, h.length, Tlv.toNat_length, toNat_ofNat_length]

end Span

/-! ### The walks -/

section Walk

variable {buffer : Buffer} {packetEnd : UInt16}

/-- The item at an offset with a length octet of at least two. -/
def itemAt (buffer : Buffer) (y : ℕ) (h : 2 ≤ (buffer (y + 1)).toNat) : Tlv.Item where
  type := buffer y
  data := read buffer (y + 2) ((buffer (y + 1)).toNat - 2)
  fits := by
    have := (buffer (y + 1)).toNat_lt
    rw [length_read]
    omega

lemma length_data_itemAt {y : ℕ} (h : 2 ≤ (buffer (y + 1)).toNat) :
    (itemAt buffer y h).data.length + 2 = (buffer (y + 1)).toNat := by
  show (read buffer _ _).length + 2 = _
  rw [length_read]
  omega

lemma read_itemAt {y : ℕ} (h : 2 ≤ (buffer (y + 1)).toNat) :
    read buffer y ((itemAt buffer y h).data.length + 2) = (itemAt buffer y h).encoded := by
  rw [read_succ, read_succ]
  unfold Tlv.Item.encoded
  rw [length_data_itemAt, UInt8.ofNat_toNat]
  congr 2
  show read buffer (y + 2) (read buffer _ _).length = read buffer _ _
  rw [length_read]

/-- **The parser accepts** an option area exactly when a list of items fills it. -/
theorem optionLoop_eq_none_iff (hend : packetEnd.toNat < 2 ^ 15) (turns : ℕ) (x : UInt16)
    (hx : x.toNat ≤ packetEnd.toNat) (hturns : packetEnd.toNat - x.toNat < 2 * turns) :
    optionLoop buffer packetEnd turns x = none ↔
      ∃ items, Placed buffer x.toNat items ∧ x.toNat + span items = packetEnd.toNat := by
  induction turns generalizing x with
  | zero => omega
  | succ turns ih =>
    have hlength : (optionLength buffer x).toNat = (buffer (x.toNat + 1)).toNat := UInt8.toNat_toUInt16 _
    have hlt := (buffer (x.toNat + 1)).toNat_lt
    have htwo : (2 : UInt16).toNat = 2 := rfl
    have hsum : (x + 2).toNat = x.toNat + 2 := toNat_add_of_lt (by omega)
    have hnext : (x + optionLength buffer x).toNat = x.toNat + (buffer (x.toNat + 1)).toNat := by
      rw [toNat_add_of_lt (by omega), hlength]
    unfold optionLoop
    by_cases hdone : x = packetEnd
    · subst hdone
      rw [if_pos rfl]
      exact iff_of_true rfl ⟨[], trivial, rfl⟩
    rw [if_neg hdone]
    -- A first item of the area has its header and its data before the end.
    have hfirst : ∀ items, Placed buffer x.toNat items → x.toNat + span items = packetEnd.toNat →
        ∃ item items', items = item :: items' ∧ item.data.length + 2 = (buffer (x.toNat + 1)).toNat := by
      intro items hplaced hspan
      cases items with
      | nil => exact absurd (UInt16.toNat_inj.mp (by simpa using hspan)) hdone
      | cons item items =>
        refine ⟨item, items, rfl, ?_⟩
        rw [hplaced.length, Tlv.toNat_length]
    by_cases hheader : packetEnd < x + 2
    · rw [if_pos hheader]
      refine iff_of_false (by simp) ?_
      rintro ⟨items, hplaced, hspan⟩
      obtain ⟨item, items', rfl, -⟩ := hfirst items hplaced hspan
      rw [span_cons] at hspan
      rw [UInt16.lt_iff_toNat_lt] at hheader
      omega
    rw [if_neg hheader]
    by_cases hshort : optionLength buffer x < 2
    · rw [if_pos hshort]
      refine iff_of_false (by simp) ?_
      rintro ⟨items, hplaced, hspan⟩
      obtain ⟨item, items', rfl, hitem⟩ := hfirst items hplaced hspan
      rw [UInt16.lt_iff_toNat_lt] at hshort
      omega
    rw [if_neg hshort]
    rw [UInt16.lt_iff_toNat_lt] at hheader hshort
    by_cases hover : packetEnd < x + optionLength buffer x
    · rw [if_pos hover]
      refine iff_of_false (by simp) ?_
      rintro ⟨items, hplaced, hspan⟩
      obtain ⟨item, items', rfl, hitem⟩ := hfirst items hplaced hspan
      rw [span_cons] at hspan
      rw [UInt16.lt_iff_toNat_lt] at hover
      omega
    rw [if_neg hover]
    rw [UInt16.lt_iff_toNat_lt] at hover
    rw [ih (x + optionLength buffer x) (by omega) (by omega), hnext]
    have hitem : 2 ≤ (buffer (x.toNat + 1)).toNat := by omega
    have hdata := length_data_itemAt hitem
    constructor
    · rintro ⟨items, hplaced, hspan⟩
      refine ⟨itemAt buffer x.toNat hitem :: items, ⟨read_itemAt hitem, ?_⟩, ?_⟩
      · rw [hdata]
        exact hplaced
      · rw [span_cons, hdata]
        omega
    · rintro ⟨items, hplaced, hspan⟩
      obtain ⟨item, items', rfl, hlen⟩ := hfirst items hplaced hspan
      refine ⟨items', ?_, ?_⟩
      · have htail := hplaced.tail
        rwa [hlen] at htail
      · rw [span_cons] at hspan
        omega

/-- **The loops over the options** stop at the items of the area. -/
theorem optionOffsets_eq {items : List Tlv.Item} (turns : ℕ) (y : UInt16) (hplaced : Placed buffer y.toNat items)
    (hspan : y.toNat + span items = packetEnd.toNat) (hturns : items.length < turns) :
    optionOffsets buffer packetEnd turns y = positions y items := by
  induction items generalizing turns y with
  | nil =>
    obtain ⟨turns, rfl⟩ : ∃ k, turns = k + 1 := ⟨turns - 1, by simp at hturns; omega⟩
    have hdone : y = packetEnd := UInt16.toNat_inj.mp (by simpa using hspan)
    unfold optionOffsets
    rw [if_pos hdone]
    rfl
  | cons item items ih =>
    obtain ⟨turns, rfl⟩ : ∃ k, turns = k + 1 := ⟨turns - 1, by simp at hturns; omega⟩
    rw [span_cons] at hspan
    have hlt := packetEnd.toNat_lt
    have hlength := toNat_ofNat_length item
    have hnext : (y + UInt16.ofNat (item.data.length + 2)).toNat = y.toNat + (item.data.length + 2) := by
      rw [toNat_add_of_lt (by omega), hlength]
    have hne : y ≠ packetEnd := by
      rintro rfl
      omega
    unfold optionOffsets
    rw [if_neg hne, positions, advanceY, hplaced.optionLength]
    rw [List.length_cons] at hturns
    congr 1
    refine ih turns _ ?_ ?_ (by omega)
    · rw [hnext]
      exact hplaced.tail
    · omega

end Walk

end SnesModem.Asm
