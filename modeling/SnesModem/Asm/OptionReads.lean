import SnesModem.Asm.LcpNegotiation
import SnesModem.Asm.OptionWalk

/-!
# What the option code reads of a packet

The evaluation of a Configure-Request, the application of a Nak or Reject and the selective responses read
the octets of the options that the walk stops at, each up to its own length, and no others.

* `SameOption`: two buffers have the same option at an offset;
* `sameOption_of_mem`: buffers that agree on a packet have the same options;
* `evaluatePeerRequest_congr`, `applyNegativeOptions_congr`, `buildPeerResponse_congr`.
-/

namespace SnesModem.Asm

open SnesModem.Lib SnesModem.Lib.Cpu65816 SnesModem.Lib.Octets

/-- Two buffers have the same option at an offset. -/
structure SameOption (buffer buffer' : Buffer) (z : ℕ) : Prop where
  two_le : 2 ≤ (buffer (z + 1)).toNat
  eq : ∀ i < (buffer (z + 1)).toNat, buffer' (z + i) = buffer (z + i)

section Positions

variable {buffer buffer' : Buffer} {packetEnd : UInt16} {items : List Tlv.Item}

/-- The walk stops at items. -/
lemma placed_of_mem {y z : UInt16} (hplaced : Placed buffer y.toNat items)
    (hspan : y.toNat + span items = packetEnd.toNat) (hz : z ∈ positions y items) :
    ∃ item, Placed buffer z.toNat [item] ∧ z.toNat + (item.data.length + 2) ≤ packetEnd.toNat := by
  induction items generalizing y with
  | nil => simp [positions] at hz
  | cons item items ih =>
    have hlt := packetEnd.toNat_lt
    rw [span_cons] at hspan
    rw [positions, List.mem_cons] at hz
    rcases hz with rfl | hz
    · exact ⟨item, ⟨hplaced.head, trivial⟩, by omega⟩
    · have hlength := toNat_ofNat_length item
      have hnext : (y + UInt16.ofNat (item.data.length + 2)).toNat = y.toNat + (item.data.length + 2) := by
        rw [toNat_add_of_lt (by omega), hlength]
      refine ih ?_ (by omega) hz
      rw [hnext]
      exact hplaced.tail

lemma sameOption_of_mem {y z : UInt16} (hplaced : Placed buffer y.toNat items)
    (hspan : y.toNat + span items = packetEnd.toNat) (hagree : Agree packetEnd.toNat buffer buffer')
    (hz : z ∈ positions y items) : SameOption buffer buffer' z.toNat := by
  obtain ⟨item, hitem, hend⟩ := placed_of_mem hplaced hspan hz
  have hlength : (buffer (z.toNat + 1)).toNat = item.data.length + 2 := by
    rw [hitem.length, Tlv.toNat_length]
  refine ⟨by omega, fun i hi => ?_⟩
  exact (hagree _ (by omega)).symm

/-- The walks over two buffers that agree on the packet are one. -/
lemma options_congr (hplaced : Placed buffer 8 items) (hspan : 8 + span items = packetEnd.toNat)
    (hagree : Agree packetEnd.toNat buffer buffer') (hshort : packetEnd.toNat < 2 ^ 15) :
    options buffer packetEnd = positions firstOption items ∧ options buffer' packetEnd = positions firstOption items := by
  have hlength := two_mul_length_le_span items
  have hfirst : firstOption.toNat = 8 := rfl
  have hturns : items.length < maximumTurns := by
    unfold maximumTurns
    omega
  have hplaced' := hplaced.of_agree hagree (by omega)
  exact ⟨optionOffsets_eq _ _ hplaced hspan hturns, optionOffsets_eq _ _ hplaced' hspan hturns⟩

end Positions

/-! ### One option -/

section One

variable {buffer buffer' : Buffer} {z : UInt16}

lemma SameOption.type (h : SameOption buffer buffer' z.toNat) : buffer' z.toNat = buffer z.toNat :=
  h.eq 0 (by have := h.two_le; omega)

lemma SameOption.length (h : SameOption buffer buffer' z.toNat) :
    buffer' (z.toNat + 1) = buffer (z.toNat + 1) := h.eq 1 (by have := h.two_le; omega)

lemma SameOption.optionLength_eq (h : SameOption buffer buffer' z.toNat) :
    optionLength buffer' z = optionLength buffer z := by
  unfold optionLength
  rw [h.length]

lemma SameOption.advanceY_eq (h : SameOption buffer buffer' z.toNat) : advanceY buffer' z = advanceY buffer z := by
  unfold advanceY
  rw [h.optionLength_eq]

/-- An octet behind the header, when the length octet has the value that the code compares it with. -/
lemma SameOption.octet (h : SameOption buffer buffer' z.toNat) {length : UInt8}
    (hlength : buffer (z.toNat + 1) = length) (i : ℕ) (hi : i < length.toNat) :
    buffer' (z.toNat + i) = buffer (z.toNat + i) := h.eq i (by rwa [hlength])

lemma SameOption.magic (h : SameOption buffer buffer' z.toNat) (hlength : buffer (z.toNat + 1) = 6) :
    read buffer' (z.toNat + 2) 4 = read buffer (z.toNat + 2) 4 := by
  refine read_congr _ fun i hi hi' => ?_
  obtain ⟨k, rfl⟩ := Nat.exists_eq_add_of_le hi
  have hoctet := h.octet hlength (2 + k) (by show 2 + k < 6; omega)
  rwa [← Nat.add_assoc] at hoctet

lemma SameOption.readMagic_eq (h : SameOption buffer buffer' z.toNat) (hlength : buffer (z.toNat + 1) = 6) :
    readMagic buffer' (z.toNat + 2) = readMagic buffer (z.toNat + 2) := by
  unfold readMagic
  have h2 := h.octet hlength 2 (by decide)
  have h3 := h.octet hlength 3 (by decide)
  have h4 := h.octet hlength 4 (by decide)
  have h5 := h.octet hlength 5 (by decide)
  simp only [Nat.add_assoc]
  rw [h2, h3, h4, h5]

lemma SameOption.magicMatches (h : SameOption buffer buffer' z.toNat) (hlength : buffer (z.toNat + 1) = 6)
    (l : Lcp) : pppLcpPeerMagicMatchesLocal buffer' l z = pppLcpPeerMagicMatchesLocal buffer l z := by
  unfold pppLcpPeerMagicMatchesLocal
  rw [h.magic hlength]

lemma SameOption.classifyByType_eq (h : SameOption buffer buffer' z.toNat) (l : Lcp) :
    classifyByType buffer' l z = classifyByType buffer l z := by
  unfold classifyByType
  simp only [Nat.add_zero, h.type, h.length]
  split
  · by_cases hlength : buffer (z.toNat + 1) = 4
    · rw [h.octet hlength 2 (by decide), h.octet hlength 3 (by decide)]
    · simp only [hlength, false_and, if_false]
  · rfl
  · by_cases hchap : buffer (z.toNat + 1) = 5
    · simp only [h.octet hchap 2 (by decide), h.octet hchap 3 (by decide), h.octet hchap 4 (by decide), hchap, if_true]
    · by_cases hpap : buffer (z.toNat + 1) = 4
      · simp only [h.octet hpap 2 (by decide), h.octet hpap 3 (by decide), hchap, if_false]
      · simp only [hchap, hpap, false_and, if_false]
  · by_cases hlength : buffer (z.toNat + 1) = 6
    · simp only [h.octet hlength 2 (by decide), h.octet hlength 3 (by decide), h.octet hlength 4 (by decide),
        h.octet hlength 5 (by decide), h.magicMatches hlength]
    · rw [if_pos hlength, if_pos hlength]
  · rfl

lemma SameOption.classify_eq (h : SameOption buffer buffer' z.toNat) (l : Lcp) (b : UInt8) :
    pppLcpClassifyPeerOption buffer' l b z = pppLcpClassifyPeerOption buffer l b z := by
  unfold pppLcpClassifyPeerOption
  rw [h.type, h.classifyByType_eq]

lemma SameOption.recordType_eq (h : SameOption buffer buffer' z.toNat) (maps : Buffer × UInt8) :
    recordType buffer' maps z = recordType buffer maps z := by
  unfold recordType
  rw [h.type, h.advanceY_eq]

lemma SameOption.classifyOption_eq (h : SameOption buffer buffer' z.toNat) (l : Lcp)
    (found : Bool × Bool × UInt8) : classifyOption buffer' l found z = classifyOption buffer l found z := by
  unfold classifyOption
  rw [h.classify_eq, h.advanceY_eq]

/-- The length octet of an option that is accepted. -/
lemma length_of_ack {l : Lcp} (h : classifyByType buffer l z = .ack) :
    (buffer z.toNat).toNat = 1 ∧ buffer (z.toNat + 1) = 4 ∨ (buffer z.toNat).toNat = 2 ∧ buffer (z.toNat + 1) = 6 ∨
      (buffer z.toNat).toNat = 3 ∧ (buffer (z.toNat + 1) = 5 ∨ buffer (z.toNat + 1) = 4) ∨
      (buffer z.toNat).toNat = 5 ∧ buffer (z.toNat + 1) = 6 := by
  unfold classifyByType at h
  simp only [Nat.add_zero] at h
  split at h
  · rename_i htype
    split_ifs at h with hlength
    exact Or.inl ⟨htype, hlength.1⟩
  · rename_i htype
    split_ifs at h with hlength
    exact Or.inr (Or.inl ⟨htype, hlength⟩)
  · rename_i htype
    split_ifs at h with hchap hvalue hpap
    · exact Or.inr (Or.inr (Or.inl ⟨htype, Or.inl hchap⟩))
    · exact Or.inr (Or.inr (Or.inl ⟨htype, Or.inr hpap.1⟩))
  · rename_i htype
    refine Or.inr (Or.inr (Or.inr ⟨htype, ?_⟩))
    by_contra hlength
    rw [if_pos hlength] at h
    cases h
  · cases h

lemma SameOption.commitOption_eq (h : SameOption buffer buffer' z.toNat) {l : Lcp}
    (hack : classifyByType buffer l z = .ack) (l' : Lcp) :
    commitOption buffer' l' z = commitOption buffer l' z := by
  unfold commitOption
  simp only [Nat.add_zero, h.type]
  rcases length_of_ack hack with ⟨htype, hlength⟩ | ⟨htype, hlength⟩ | ⟨htype, hlength | hlength⟩ | ⟨htype, hlength⟩
  · simp only [htype, h.octet hlength 2 (by decide), h.octet hlength 3 (by decide)]
  · simp only [htype, h.readMagic_eq hlength]
  · simp only [htype, h.octet hlength 2 (by decide)]
  · simp only [htype, h.octet hlength 2 (by decide)]
  · simp only [htype, h.readMagic_eq hlength]

lemma SameOption.buildOption_eq (h : SameOption buffer buffer' z.toNat) (l : Lcp) (build : Build) :
    buildOption buffer' l build z = buildOption buffer l build z := by
  have hcopy : read buffer' z.toNat (optionLength buffer z).toNat =
      read buffer z.toNat (optionLength buffer z).toNat := by
    refine read_congr _ fun i hi hi' => ?_
    obtain ⟨k, rfl⟩ := Nat.exists_eq_add_of_le hi
    unfold optionLength at hi'
    rw [UInt8.toNat_toUInt16] at hi'
    exact h.eq k (by omega)
  unfold buildOption
  rw [h.classify_eq, h.advanceY_eq, h.optionLength_eq, hcopy, h.type]

end One

/-! ### The loops -/

section Loops

variable {buffer buffer' : Buffer} {items : List Tlv.Item} {l : Lcp}

/-- The second pass finds nothing exactly when every option is accepted. -/
lemma ack_of_found (offsets : List UInt16) (found : Bool × Bool × UInt8)
    (hreject : (offsets.foldl (classifyOption buffer l) found).1 = false)
    (hnak : (offsets.foldl (classifyOption buffer l) found).2.1 = false) :
    (found.1 = false ∧ found.2.1 = false) ∧ ∀ z ∈ offsets, classifyByType buffer l z = .ack := by
  induction offsets generalizing found with
  | nil => exact ⟨⟨hreject, hnak⟩, by simp⟩
  | cons y offsets ih =>
    obtain ⟨⟨hfirst, hsecond⟩, hrest⟩ := ih (classifyOption buffer l found y) hreject hnak
    unfold classifyOption at hfirst hsecond
    simp only [Bool.or_eq_false_iff, decide_eq_false_iff_not] at hfirst hsecond
    refine ⟨⟨hfirst.1, hsecond.1⟩, fun z hz => ?_⟩
    rcases List.mem_cons.mp hz with rfl | hz
    · have hclassify : pppLcpClassifyPeerOption buffer l found.2.2 z = .ack := by
        cases hcase : pppLcpClassifyPeerOption buffer l found.2.2 z with
        | ack => rfl
        | nak => exact absurd hcase hsecond.2
        | reject => exact absurd hcase hfirst.2
      unfold pppLcpClassifyPeerOption at hclassify
      split_ifs at hclassify
      exact hclassify
    · exact hrest z hz

variable (hplaced : Placed buffer 8 items) (hspan : 8 + span items = l.packetEnd.toNat)
  (hagree : Agree l.packetEnd.toNat buffer buffer') (hshort : l.packetEnd.toNat < 2 ^ 15)

include hplaced hspan hagree hshort

/-- **The evaluation** of a request depends on its octets only. -/
theorem evaluatePeerRequest_congr : pppLcpEvaluatePeerRequest buffer' l = pppLcpEvaluatePeerRequest buffer l := by
  obtain ⟨hoptions, hoptions'⟩ := options_congr hplaced hspan hagree hshort
  have hsame : ∀ z ∈ positions firstOption items, SameOption buffer buffer' z.toNat := fun z hz =>
    sameOption_of_mem (y := firstOption) hplaced hspan hagree hz
  unfold pppLcpEvaluatePeerRequest
  rw [hoptions, hoptions']
  have hmaps : (positions firstOption items).foldl (recordType buffer') (clearMaps l.optionRam, high l.packetEnd) =
      (positions firstOption items).foldl (recordType buffer) (clearMaps l.optionRam, high l.packetEnd) :=
    List.foldl_ext _ _ _ fun maps z hz => (hsame z hz).recordType_eq maps
  simp only [hmaps]
  set l₁ : Lcp := { l with optionRam := ((positions firstOption items).foldl (recordType buffer)
    (clearMaps l.optionRam, high l.packetEnd)).1 } with hl₁
  have hfound : (positions firstOption items).foldl (classifyOption buffer' l₁) (false, false, high l.packetEnd) =
      (positions firstOption items).foldl (classifyOption buffer l₁) (false, false, high l.packetEnd) :=
    List.foldl_ext _ _ _ fun found z hz => (hsame z hz).classifyOption_eq l₁ found
  rw [hfound]
  split_ifs with hreject hnak
  · rfl
  · rfl
  · -- Only a request whose options are all accepted is committed.
    have hack := (ack_of_found _ _ (by simpa using hreject) (by simpa using hnak)).2
    unfold commitAcceptedConfiguration
    have hend : l₁.packetEnd = l.packetEnd := rfl
    rw [hend, hoptions, hoptions']
    congr 1
    exact List.foldl_ext _ _ _ fun l' z hz => (hsame z hz).commitOption_eq (hack z hz) l'

/-- **A selective response** depends on the octets of the request only. -/
theorem buildPeerResponse_congr (output : Buffer) :
    pppLcpBuildPeerResponse buffer' l output = pppLcpBuildPeerResponse buffer l output := by
  obtain ⟨hoptions, hoptions'⟩ := options_congr hplaced hspan hagree hshort
  have hidentifier : buffer' 5 = buffer 5 := (hagree 5 (by omega)).symm
  unfold pppLcpBuildPeerResponse
  rw [hoptions, hoptions', hidentifier]
  have hbuild (build : Build) : (positions firstOption items).foldl (buildOption buffer' l) build =
      (positions firstOption items).foldl (buildOption buffer l) build :=
    List.foldl_ext _ _ _ fun build z hz => (sameOption_of_mem (y := firstOption) hplaced hspan hagree hz).buildOption_eq l build
  simp only [hbuild]

omit hplaced hspan hagree hshort in
lemma applyNegativeOptions_congr_of_same (offsets : List UInt16)
    (hsame : ∀ z ∈ offsets, SameOption buffer buffer' z.toNat) (hasNak : Bool) (l : Lcp) :
    applyNegativeOptions buffer' offsets hasNak l = applyNegativeOptions buffer offsets hasNak l := by
  induction offsets generalizing hasNak l with
  | nil => rfl
  | cons y offsets ih =>
    have hy := hsame y (List.mem_cons_self ..)
    have hrest : ∀ z ∈ offsets, SameOption buffer buffer' z.toNat := fun z hz =>
      hsame z (List.mem_cons_of_mem _ hz)
    unfold applyNegativeOptions
    rw [hy.type, hy.length]
    split_ifs with htype hinvalid
    · rfl
    · have hlength : buffer (y.toNat + 1) = 6 := by
        by_contra hne
        exact hinvalid (by simp [hne])
      have hmagic : applyNegativeMagic buffer' l y = applyNegativeMagic buffer l y := by
        unfold applyNegativeMagic
        rw [hy.magicMatches hlength, hy.magic hlength, hy.readMagic_eq hlength]
      rw [hmagic]
      cases applyNegativeMagic buffer l y with
      | none => rfl
      | some l => exact ih hrest true l
    · rfl
    · exact ih hrest hasNak l

/-- **A Nak or Reject** is applied from its octets only. -/
theorem applyNegativeOptions_congr (l' : Lcp) (hasNak : Bool) :
    applyNegativeOptions buffer' (options buffer' l.packetEnd) hasNak l' =
      applyNegativeOptions buffer (options buffer l.packetEnd) hasNak l' := by
  obtain ⟨hoptions, hoptions'⟩ := options_congr hplaced hspan hagree hshort
  rw [hoptions, hoptions']
  exact applyNegativeOptions_congr_of_same _ (fun z hz =>
    sameOption_of_mem (y := firstOption) hplaced hspan hagree hz) _ _

end Loops

end SnesModem.Asm
