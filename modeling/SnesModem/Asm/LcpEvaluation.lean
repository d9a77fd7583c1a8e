import SnesModem.Asm.LcpResponse
import SnesModem.Rust.Negotiation

/-!
# The evaluation of a Configure-Request refines the reference

As long as a packet ends before octet 256 of its frame, the hidden octet of the accumulator is zero whenever
the option maps are indexed, and the three passes over the options compute what the reference computes in one.

* `classify_eq`, `nakOption_eq`: one option;
* `recordType_foldl`, `classifyOption_foldl`, `buildOption_foldl`: the three passes;
* `answer_eq_reference`: disposition and response.
-/

namespace SnesModem.Asm

open SnesModem.Lib SnesModem.Lib.Cpu65816 SnesModem.Lib.Octets
open SnesModem.Rust.ControlPacket (collectOptions parsePacket markType duplicateTypeMap ConfigurationOption)
open SnesModem.Rust.Negotiation (OptionDisposition PeerConfiguration evaluateOption evaluateOptions
  evaluatePeerRequest isReject replacement magicOf magicOctets magicOption)

/-! ### Magic numbers -/

lemma spelledMagic_eq (magic : UInt32) : spelledMagic magic = magicOctets magic := by
  simp [spelledMagic, magicOctet, magicOctets, BigEndian.octets, Nat.div_div_eq_div_mul]

/-- The local proposal, as the reference passes it. -/
def SameMagic (l : Lcp) (proposed : Option UInt32) : Prop :=
  l.magicRequest = true ∧ proposed = some l.localMagic ∨
    l.magicRequest = false ∧ l.localMagic = 0 ∧ proposed = none

lemma magicOf_eq_iff {data : List UInt8} (h : data.length = 4) (magic : UInt32) :
    magicOf data = magic ↔ data = magicOctets magic := by
  have hlt := BigEndian.value_lt data
  rw [h] at hlt
  have hvalue : (magicOf data).toNat = BigEndian.value data := by
    unfold magicOf
    rw [List.take_of_length_le (by omega)]
    exact UInt32.toNat_ofNat_of_lt' (by simpa using hlt)
  have hspell : BigEndian.octets 4 (BigEndian.value data) = data := by
    have := BigEndian.octets_value data
    rwa [h] at this
  unfold magicOctets
  constructor
  · rintro rfl
    rw [hvalue, hspell]
  · rintro rfl
    apply UInt32.toNat_inj.mp
    rw [hvalue, BigEndian.value_octets 4 _ (by simpa using magic.toNat_lt)]

/-! ### One option -/

/-- The disposition of an option, without the replacement that a Nak suggests. -/
def dispositionOf : OptionDisposition → Disposition
  | .ack => .ack
  | .nak _ => .nak
  | .reject => .reject

section One

variable {buffer : Buffer} {l : Lcp} {y : UInt16} {item : Tlv.Item} {proposed : Option UInt32}

lemma octet_one_eq_iff (hplaced : Placed buffer y.toNat [item]) {n : ℕ} (hn : n + 2 < 256) :
    buffer (y.toNat + 1) = UInt8.ofNat (n + 2) ↔ item.data.length = n := by
  rw [hplaced.length]
  constructor
  · intro h
    have htoNat := congrArg UInt8.toNat h
    rw [Tlv.toNat_length, UInt8.toNat_ofNat_of_lt' (by simpa using hn)] at htoNat
    omega
  · rintro rfl
    rfl

lemma data_two (hplaced : Placed buffer y.toNat [item]) (h : item.data.length = 2) :
    item.data = [buffer (y.toNat + 2), buffer (y.toNat + 3)] := by
  rw [← hplaced.data, h]
  rfl

lemma data_three (hplaced : Placed buffer y.toNat [item]) (h : item.data.length = 3) :
    item.data = [buffer (y.toNat + 2), buffer (y.toNat + 3), buffer (y.toNat + 4)] := by
  rw [← hplaced.data, h]
  rfl

lemma data_four (hplaced : Placed buffer y.toNat [item]) (h : item.data.length = 4) :
    item.data = [buffer (y.toNat + 2), buffer (y.toNat + 3), buffer (y.toNat + 4), buffer (y.toNat + 5)] := by
  rw [← hplaced.data, h]
  rfl

lemma or_eq_zero (a b : UInt8) : a ||| b = 0 ↔ a = 0 ∧ b = 0 := by
  constructor
  · intro h
    have hnat := congrArg UInt8.toNat h
    rw [UInt8.toNat_or] at hnat
    exact ⟨UInt8.toNat_inj.mp (Nat.or_eq_zero_iff.mp hnat).1, UInt8.toNat_inj.mp (Nat.or_eq_zero_iff.mp hnat).2⟩
  · rintro ⟨rfl, rfl⟩
    rfl

lemma mru_eq_zero_iff (a b : UInt8) : UInt16.ofNat (BigEndian.value [a, b]) = 0 ↔ a ||| b = 0 := by
  have ha := a.toNat_lt
  have hb := b.toNat_lt
  rw [or_eq_zero, ← UInt16.toNat_inj, ← UInt8.toNat_inj, ← UInt8.toNat_inj, UInt16.toNat_ofNat', BigEndian.value_pair]
  show _ % 2 ^ 16 = 0 ↔ a.toNat = 0 ∧ b.toNat = 0
  omega

/-- The comparison of a magic number in a packet with the local proposal. -/
lemma magicMatches_iff (hplaced : Placed buffer y.toNat [item]) (h : item.data.length = 4) :
    pppLcpPeerMagicMatchesLocal buffer l y = true ↔ magicOf item.data = l.localMagic := by
  have hread := hplaced.data
  rw [h] at hread
  unfold pppLcpPeerMagicMatchesLocal
  rw [decide_eq_true_iff, hread, spelledMagic_eq, magicOf_eq_iff h]

lemma magic_eq_zero_iff (hplaced : Placed buffer y.toNat [item]) (h : item.data.length = 4) :
    buffer (y.toNat + 2) ||| buffer (y.toNat + 3) ||| buffer (y.toNat + 4) ||| buffer (y.toNat + 5) = 0 ↔
      magicOf item.data = 0 := by
  have hzero : magicOctets 0 = [0, 0, 0, 0] := by decide
  rw [magicOf_eq_iff h, hzero, data_four hplaced h, or_eq_zero, or_eq_zero, or_eq_zero]
  simp only [List.cons.injEq, and_true]
  tauto

variable (configuration : PeerConfiguration)

lemma classify_mru (hplaced : Placed buffer y.toNat [item]) (hvalue : item.type.toNat = 1) :
    classifyByType buffer l y = dispositionOf (evaluateOption item {} proposed configuration).1 := by
  have hlength : buffer (y.toNat + 1) = 4 ↔ item.data.length = 2 := octet_one_eq_iff hplaced (by omega)
  unfold classifyByType evaluateOption Rust.Lcp.knownType Rust.Lcp.OptionType.fromOctet
  simp only [Nat.add_zero, hplaced.type, hvalue]
  by_cases h : item.data.length = 2
  · have hdata := data_two hplaced h
    have hzero := mru_eq_zero_iff (buffer (y.toNat + 2)) (buffer (y.toNat + 3))
    rw [← hdata] at hzero
    by_cases hmru : buffer (y.toNat + 2) ||| buffer (y.toNat + 3) = 0
    · rw [if_neg fun hand => hand.2 hmru, if_neg fun hand => hand.2 (hzero.mpr hmru)]
      rfl
    · rw [if_pos ⟨hlength.mpr h, hmru⟩, if_pos ⟨h, mt hzero.mp hmru⟩]
      rfl
  · rw [if_neg fun hand => h (hlength.mp hand.1), if_neg fun hand => h hand.1]
    rfl

lemma classify_accm (hplaced : Placed buffer y.toNat [item]) (hvalue : item.type.toNat = 2) :
    classifyByType buffer l y = dispositionOf (evaluateOption item {} proposed configuration).1 := by
  have hlength : buffer (y.toNat + 1) = 6 ↔ item.data.length = 4 := octet_one_eq_iff hplaced (by omega)
  unfold classifyByType evaluateOption Rust.Lcp.knownType Rust.Lcp.OptionType.fromOctet
  simp only [Nat.add_zero, hplaced.type, hvalue]
  by_cases h : item.data.length = 4
  · rw [if_pos (hlength.mpr h), if_pos h]
    rfl
  · rw [if_neg (mt hlength.mp h), if_neg h]
    rfl

lemma classify_authentication (hplaced : Placed buffer y.toNat [item]) (hvalue : item.type.toNat = 3) :
    classifyByType buffer l y = dispositionOf (evaluateOption item {} proposed configuration).1 := by
  have hchap : buffer (y.toNat + 1) = 5 ↔ item.data.length = 3 := octet_one_eq_iff hplaced (by omega)
  have hpap : buffer (y.toNat + 1) = 4 ↔ item.data.length = 2 := octet_one_eq_iff hplaced (by omega)
  unfold classifyByType evaluateOption Rust.Lcp.knownType Rust.Lcp.OptionType.fromOctet
  simp only [Nat.add_zero, hplaced.type, hvalue]
  by_cases h : item.data.length = 3
  · have hdata := data_three hplaced h
    rw [if_pos (hchap.mpr h), hdata]
    by_cases hmd5 : buffer (y.toNat + 2) = 0xc2 ∧ buffer (y.toNat + 3) = 0x23 ∧ buffer (y.toNat + 4) = 5
    · obtain ⟨h2, h3, h4⟩ := hmd5
      rw [if_pos ⟨h2, h3, h4⟩, h2, h3, h4]
      rfl
    · have hne : ¬ [buffer (y.toNat + 2), buffer (y.toNat + 3), buffer (y.toNat + 4)] = [0xc2, 0x23, 5] := by
        simpa using hmd5
      rw [if_neg hmd5]
      simp [hne, dispositionOf]
  · rw [if_neg (mt hchap.mp h)]
    have hne : item.data ≠ [0xc2, 0x23, 5] := by
      intro heq
      exact h (by rw [heq]; rfl)
    by_cases h' : item.data.length = 2
    · have hdata := data_two hplaced h'
      have hfour := hpap.mpr h'
      by_cases hvalue : buffer (y.toNat + 2) = 0xc0 ∧ buffer (y.toNat + 3) = 0x23
      · obtain ⟨h2, h3⟩ := hvalue
        rw [if_pos ⟨hfour, h2, h3⟩, hdata, h2, h3]
        rfl
      · have hne' : ¬ [buffer (y.toNat + 2), buffer (y.toNat + 3)] = [0xc0, 0x23] := by simpa using hvalue
        rw [if_neg fun hand => hvalue hand.2]
        rw [hdata] at hne ⊢
        simp [hne', dispositionOf]
    · have hne' : item.data ≠ [0xc0, 0x23] := by
        intro heq
        exact h' (by rw [heq]; rfl)
      rw [if_neg fun hand => h' (hpap.mp hand.1)]
      simp [hne, hne', dispositionOf]

lemma classify_magic (hplaced : Placed buffer y.toNat [item]) (hmagic : SameMagic l proposed)
    (hvalue : item.type.toNat = 5) :
    classifyByType buffer l y = dispositionOf (evaluateOption item {} proposed configuration).1 := by
  have hlength : buffer (y.toNat + 1) = 6 ↔ item.data.length = 4 := octet_one_eq_iff hplaced (by omega)
  unfold classifyByType evaluateOption Rust.Lcp.knownType Rust.Lcp.OptionType.fromOctet
  simp only [Nat.add_zero, hplaced.type, hvalue]
  by_cases h : item.data.length = 4
  · have hzero := magic_eq_zero_iff hplaced h
    have hmatches := magicMatches_iff (l := l) hplaced h
    rw [if_neg (not_not.mpr (hlength.mpr h)), if_pos h]
    by_cases hnone : magicOf item.data = 0
    · rw [if_pos (hzero.mpr hnone), if_pos (Or.inl hnone)]
      rfl
    · rw [if_neg (mt hzero.mp hnone)]
      have hsame : l.magicRequest = true ∧ pppLcpPeerMagicMatchesLocal buffer l y = true ↔
          some (magicOf item.data) = proposed := by
        rw [hmatches]
        rcases hmagic with ⟨hrequest, rfl⟩ | ⟨hrequest, -, rfl⟩
        · simp [hrequest]
        · simp [hrequest]
      by_cases hlocal : some (magicOf item.data) = proposed
      · rw [if_pos (hsame.mpr hlocal), if_pos (Or.inr hlocal)]
        rfl
      · rw [if_neg (mt hsame.mp hlocal), if_neg (not_or.mpr ⟨hnone, hlocal⟩)]
        rfl
  · rw [if_pos (mt hlength.mp h), if_neg h]
    rfl

/-- **One option** is classified as the reference evaluates it. -/
theorem classify_eq (hplaced : Placed buffer y.toNat [item]) (hmagic : SameMagic l proposed) :
    classifyByType buffer l y = dispositionOf (evaluateOption item {} proposed configuration).1 := by
  by_cases h1 : item.type.toNat = 1
  · exact classify_mru configuration hplaced h1
  by_cases h2 : item.type.toNat = 2
  · exact classify_accm configuration hplaced h2
  by_cases h3 : item.type.toNat = 3
  · exact classify_authentication configuration hplaced h3
  by_cases h5 : item.type.toNat = 5
  · exact classify_magic configuration hplaced hmagic h5
  -- The other types are rejected, the known ones as the unknown ones.
  have hreference : (evaluateOption item {} proposed configuration).1 = .reject := by
    unfold evaluateOption
    cases htype : Rust.Lcp.knownType item with
    | none => rfl
    | some type =>
      have hoctet := congrArg UInt8.toNat (Rust.Lcp.OptionType.octet_of_fromOctet htype)
      cases type with
      | maximumReceiveUnit => exact absurd hoctet h1
      | asyncControlCharacterMap => exact absurd hoctet h2
      | authenticationProtocol => exact absurd hoctet h3
      | magicNumber => exact absurd hoctet h5
      | qualityProtocol | protocolFieldCompression | addressControlFieldCompression => rfl
  rw [hreference]
  unfold classifyByType
  simp only [Nat.add_zero, hplaced.type]
  rfl

lemma encoded_magicOption (magic : UInt32) : (magicOption magic).encoded = [5, 6] ++ magicOctets magic := by
  have hlength : (magicOctets magic).length = 4 := by simp [magicOctets]
  unfold magicOption Tlv.Item.encoded
  simp [hlength, Rust.Lcp.OptionType.octet]

/-- **The replacement** that the reference suggests is the one that the builder writes. -/
theorem nakOption_eq (hmagic : SameMagic l proposed) {data : List UInt8}
    (h : (evaluateOption item {} proposed configuration).1 = .nak data) : nakOption l item.type = data := by
  unfold evaluateOption at h
  cases htype : Rust.Lcp.knownType item with
  | none =>
    rw [htype] at h
    cases h
  | some type =>
    have hoctet := Rust.Lcp.OptionType.octet_of_fromOctet htype
    rw [htype] at h
    rw [hoctet]
    cases type with
    | maximumReceiveUnit =>
      dsimp only at h
      split_ifs at h
      exact OptionDisposition.nak.inj h
    | asyncControlCharacterMap =>
      dsimp only at h
      split_ifs at h
      exact OptionDisposition.nak.inj h
    | authenticationProtocol =>
      dsimp only at h
      split_ifs at h
      · exact OptionDisposition.nak.inj h
    | magicNumber =>
      dsimp only at h
      split_ifs at h with hlength hnak
      rw [← OptionDisposition.nak.inj h]
      have hcurrent : proposed.getD (magicOf item.data) = l.localMagic := by
        rcases hmagic with ⟨-, rfl⟩ | ⟨-, hzero, rfl⟩
        · rfl
        · rcases hnak with hnak | hnak
          · exact hnak.trans hzero.symm
          · cases hnak
      rw [hcurrent]
      show [5, 6] ++ spelledMagic (nextMagic l.localMagic) = _
      rw [spelledMagic_eq]
      exact (encoded_magicOption (nextMagic l.localMagic)).symm
    | qualityProtocol | protocolFieldCompression | addressControlFieldCompression => cases h

end One

/-! ### The loops -/

section Loops

variable {buffer : Buffer} {l : Lcp} {y : UInt16} {items : List Tlv.Item} {proposed : Option UInt32}

/-- The walk from an item to the next, in a packet that ends before octet 256. -/
lemma advanceY_placed {item : Tlv.Item} (hplaced : Placed buffer y.toNat (item :: items))
    (hend : y.toNat + span (item :: items) < 256) :
    advanceY buffer y = y + UInt16.ofNat (item.data.length + 2) ∧ high (advanceY buffer y) = 0 ∧
      Placed buffer (advanceY buffer y).toNat items ∧ (advanceY buffer y).toNat + span items < 256 ∧
      (advanceY buffer y).toNat = y.toNat + (item.data.length + 2) := by
  rw [span_cons] at hend
  have hadvance : advanceY buffer y = y + UInt16.ofNat (item.data.length + 2) := by
    unfold advanceY
    rw [hplaced.optionLength]
  have hlength := toNat_ofNat_length item
  have hnext : (advanceY buffer y).toNat = y.toNat + (item.data.length + 2) := by
    rw [hadvance, toNat_add_of_lt (by omega), hlength]
  refine ⟨hadvance, high_eq_zero.mpr (by omega), ?_, by omega, hnext⟩
  rw [hnext]
  exact hplaced.tail

lemma optionIndex_zero (type : UInt8) : optionIndex 0 type = type.toNat := by
  unfold optionIndex
  rw [toNat_word]
  show 256 * 0 + type.toNat = type.toNat
  omega

/-- The maps in memory mark the types that the reference's maps mark. -/
def SameMaps (ram : Buffer) (maps : (UInt8 → Bool) × (UInt8 → Bool)) : Prop :=
  ∀ type : UInt8, (ram type.toNat = 0 ↔ maps.1 type = false) ∧
    (ram (duplicateMap + type.toNat) = 0 ↔ maps.2 type = false)

lemma SameMaps.recordType {ram : Buffer} {maps : (UInt8 → Bool) × (UInt8 → Bool)} {item : Tlv.Item}
    (h : SameMaps ram maps) (hplaced : Placed buffer y.toNat (item :: items)) :
    SameMaps (recordType buffer (ram, 0) y).1 (markType maps item) := by
  have hone : (1 : UInt8) ≠ 0 := by decide
  have hdup : duplicateMap = 256 := rfl
  unfold Asm.recordType markType
  simp only [optionIndex_zero, hplaced.type]
  intro type
  dsimp only
  have hlt := type.toNat_lt
  have hlt' := item.type.toNat_lt
  have hsame : type.toNat = item.type.toNat ↔ type = item.type := UInt8.toNat_inj
  by_cases hseen : ram item.type.toNat = 0
  · have hfirst := (h item.type).1.mp hseen
    rw [if_pos hseen]
    by_cases htype : type = item.type
    · subst htype
      have hne : duplicateMap + item.type.toNat ≠ item.type.toNat := by omega
      rw [Function.update_self, Function.update_of_ne hne, Function.update_self, Function.update_self, hfirst]
      simp [(h item.type).2]
    · have hne : type.toNat ≠ item.type.toNat := mt hsame.mp htype
      have hne' : duplicateMap + type.toNat ≠ item.type.toNat := by omega
      rw [Function.update_of_ne hne, Function.update_of_ne hne', Function.update_of_ne htype,
        Function.update_of_ne htype]
      exact h type
  · have hfirst : maps.1 item.type = true := by
      by_contra hnot
      exact hseen ((h item.type).1.mpr (by simpa using hnot))
    rw [if_neg hseen]
    by_cases htype : type = item.type
    · subst htype
      have hne : item.type.toNat ≠ duplicateMap + item.type.toNat := by omega
      rw [Function.update_of_ne hne, Function.update_self, Function.update_self, Function.update_self, hfirst]
      simp [hseen]
    · have hne : duplicateMap + type.toNat ≠ duplicateMap + item.type.toNat := by
        intro heq
        exact htype (hsame.mp (by omega))
      have hne' : type.toNat ≠ duplicateMap + item.type.toNat := by omega
      rw [Function.update_of_ne hne, Function.update_of_ne hne', Function.update_of_ne htype,
        Function.update_of_ne htype]
      exact h type

/-- **The first pass** marks the duplicates that the reference marks. -/
theorem recordType_foldl {ram : Buffer} {maps : (UInt8 → Bool) × (UInt8 → Bool)} (h : SameMaps ram maps)
    (hplaced : Placed buffer y.toNat items) (hend : y.toNat + span items < 256) :
    SameMaps ((positions y items).foldl (recordType buffer) (ram, 0)).1 (items.foldl markType maps) := by
  induction items generalizing y ram maps with
  | nil => exact h
  | cons item items ih =>
    obtain ⟨hadvance, hhigh, hplaced', hend', -⟩ := advanceY_placed hplaced hend
    have hstep := h.recordType hplaced
    have hb : (recordType buffer (ram, 0) y).2 = 0 := hhigh
    rw [positions, List.foldl_cons, List.foldl_cons, ← hadvance]
    generalize recordType buffer (ram, 0) y = maps' at hstep hb
    obtain ⟨ram', b⟩ := maps'
    obtain rfl : b = 0 := hb
    exact ih hstep hplaced' hend'

/-- The disposition of an option under the maps. -/
lemma classifyPeerOption_eq {duplicates : UInt8 → Bool} {item : Tlv.Item}
    (hduplicates : ∀ type : UInt8, l.optionRam (duplicateMap + type.toNat) = 0 ↔ duplicates type = false)
    (hplaced : Placed buffer y.toNat (item :: items)) (hmagic : SameMagic l proposed)
    (configuration : PeerConfiguration) :
    pppLcpClassifyPeerOption buffer l 0 y = dispositionOf (if duplicates item.type then (.reject, configuration)
      else evaluateOption item {} proposed configuration).1 := by
  unfold pppLcpClassifyPeerOption
  rw [optionIndex_zero, hplaced.type]
  cases hdup : duplicates item.type with
  | false =>
    rw [if_neg (not_not.mpr ((hduplicates item.type).mpr hdup)), if_neg (by simp)]
    exact classify_eq configuration ⟨hplaced.head, trivial⟩ hmagic
  | true =>
    have hne : l.optionRam (duplicateMap + item.type.toNat) ≠ 0 := by
      intro heq
      rw [(hduplicates item.type).mp heq] at hdup
      cases hdup
    rw [if_pos hne, if_pos rfl]
    rfl

variable {duplicates : UInt8 → Bool}
  (hduplicates : ∀ type : UInt8, l.optionRam (duplicateMap + type.toNat) = 0 ↔ duplicates type = false)
  (hmagic : SameMagic l proposed)

include hduplicates hmagic

/-- **The second pass** finds the dispositions that the reference finds. -/
theorem classifyOption_foldl (hplaced : Placed buffer y.toNat items) (hend : y.toNat + span items < 256)
    (configuration : PeerConfiguration) (hasReject hasNak : Bool) :
    let dispositions := (evaluateOptions duplicates {} proposed configuration items).1
    let found := (positions y items).foldl (classifyOption buffer l) (hasReject, hasNak, 0)
    found.1 = (hasReject || dispositions.any isReject) ∧
      found.2.1 = (hasNak || dispositions.any fun disposition => (replacement disposition).isSome) := by
  induction items generalizing y configuration hasReject hasNak with
  | nil => simp [positions, evaluateOptions]
  | cons item items ih =>
    obtain ⟨hadvance, hhigh, hplaced', hend', -⟩ := advanceY_placed hplaced hend
    have hclassify := classifyPeerOption_eq hduplicates hplaced hmagic configuration
    rw [positions, List.foldl_cons, ← hadvance, evaluateOptions]
    generalize (if duplicates item.type then (.reject, configuration)
      else evaluateOption item {} proposed configuration) = evaluated at hclassify
    obtain ⟨disposition, configuration'⟩ := evaluated
    have hstep : classifyOption buffer l (hasReject, hasNak, 0) y =
        (hasReject || isReject disposition, hasNak || (replacement disposition).isSome, 0) := by
      unfold classifyOption
      rw [hclassify, hhigh]
      cases disposition with
      | ack => rfl
      | nak data => rfl
      | reject => rfl
    rw [hstep]
    obtain ⟨hreject, hnak⟩ := ih hplaced' hend' configuration' (hasReject || isReject disposition)
      (hasNak || (replacement disposition).isSome)
    dsimp only
    rw [hreject, hnak, List.any_cons, List.any_cons, Bool.or_assoc, Bool.or_assoc]
    exact ⟨rfl, rfl⟩

/-- What an option contributes to a response. -/
def contribution (reject : Bool) (item : Tlv.Item) (disposition : OptionDisposition) : List UInt8 :=
  if reject then (if isReject disposition then item.encoded else []) else (replacement disposition).getD []

/-- The octets of a selective response. -/
def responseData (reject : Bool) (items : List Tlv.Item) (dispositions : List OptionDisposition) : List UInt8 :=
  (items.zip dispositions).flatMap fun entry => contribution reject entry.1 entry.2

omit hduplicates hmagic in
lemma put_put (build : Build) (octets octets' : List UInt8) (b b' : UInt8)
    (h : build.cursor.toNat + octets.length < 2 ^ 16) :
    (build.put octets b).put octets' b' = build.put (octets ++ octets') b' := by
  have hlength : (UInt16.ofNat octets.length).toNat = octets.length :=
    UInt16.toNat_ofNat_of_lt' (show octets.length < 2 ^ 16 by omega)
  have hcursor : (build.cursor + UInt16.ofNat octets.length).toNat = build.cursor.toNat + octets.length := by
    rw [toNat_add_of_lt (by omega), hlength]
  unfold Build.put
  congr 1
  · rw [List.length_append, UInt16.ofNat_add, UInt16.add_assoc]
  · dsimp only
    rw [hcursor, write_write]

omit hduplicates in
lemma length_contribution (duplicates : UInt8 → Bool) (reject : Bool) (item : Tlv.Item) (configuration : PeerConfiguration) :
    (contribution reject item (if duplicates item.type then (.reject, configuration)
      else evaluateOption item {} proposed configuration).1).length ≤ item.data.length + 2 + 6 := by
  have hnak (data : List UInt8) (h : (evaluateOption item {} proposed configuration).1 = .nak data) :
      data.length ≤ 6 := by
    rw [← nakOption_eq configuration hmagic h]
    unfold nakOption
    split <;> simp [spelledMagic]
  have hdata (disposition : OptionDisposition) (h : ∀ data, disposition = .nak data → data.length ≤ 6) :
      (contribution reject item disposition).length ≤ item.data.length + 2 + 6 := by
    unfold contribution
    split_ifs
    · simp
    · simp
    · cases disposition with
      | ack => simp [replacement]
      | reject => simp [replacement]
      | nak data =>
        have hlength := h data rfl
        show data.length ≤ _
        omega
  refine hdata _ fun data h => ?_
  split_ifs at h
  exact hnak data h

omit hduplicates in
lemma length_responseData (duplicates : UInt8 → Bool) (reject : Bool) (configuration : PeerConfiguration) :
    (responseData reject items (evaluateOptions duplicates {} proposed configuration items).1).length ≤
      span items + 6 * items.length := by
  induction items generalizing configuration with
  | nil => simp [responseData]
  | cons item items ih =>
    have hlength := length_contribution hmagic duplicates reject item configuration
    rw [evaluateOptions]
    generalize (if duplicates item.type then (OptionDisposition.reject, configuration)
      else evaluateOption item {} proposed configuration) = evaluated at hlength
    obtain ⟨disposition, configuration'⟩ := evaluated
    have hrest := ih configuration'
    rw [span_cons, List.length_cons]
    unfold responseData at hrest ⊢
    rw [List.zip_cons_cons, List.flatMap_cons, List.length_append]
    dsimp only at hlength ⊢
    omega

/-- One option of the third pass. -/
lemma buildOption_eq {item : Tlv.Item} (hplaced : Placed buffer y.toNat (item :: items))
    (hend : y.toNat + span (item :: items) < 256) (configuration : PeerConfiguration) {build : Build}
    (hb : build.b = 0) :
    buildOption buffer l build y = build.put (contribution (l.pendingAction = .configureReject) item
      (if duplicates item.type then (.reject, configuration)
        else evaluateOption item {} proposed configuration).1) 0 := by
  obtain ⟨-, hhigh, -⟩ := advanceY_placed hplaced hend
  have hclassify := classifyPeerOption_eq hduplicates hplaced hmagic configuration
  have hput : build.put [] 0 = { build with b := 0 } := by
    have hcursor : build.cursor + UInt16.ofNat 0 = build.cursor := UInt16.add_zero _
    unfold Build.put
    rw [write_nil, List.length_nil, hcursor]
  have hcopy : read buffer y.toNat (optionLength buffer y).toNat = item.encoded := by
    rw [hplaced.optionLength, toNat_ofNat_length, hplaced.head]
  have hnak (data : List UInt8) (h : (if duplicates item.type then (.reject, configuration)
      else evaluateOption item {} proposed configuration).1 = .nak data) : nakOption l item.type = data := by
    split_ifs at h
    exact nakOption_eq configuration hmagic h
  unfold buildOption
  rw [hb, hclassify, hhigh, hcopy, hplaced.type]
  generalize (if duplicates item.type then (OptionDisposition.reject, configuration)
    else evaluateOption item {} proposed configuration).1 = disposition at hnak
  unfold contribution
  by_cases hreject : l.pendingAction = .configureReject
  · cases disposition with
    | reject => simp [hreject, dispositionOf, isReject]
    | ack => simp [hreject, dispositionOf, isReject, hput]
    | nak data => simp [hreject, dispositionOf, isReject, hput]
  · cases disposition with
    | reject => simp [hreject, dispositionOf, replacement, hput]
    | ack => simp [hreject, dispositionOf, replacement, hput]
    | nak data => simp [hreject, dispositionOf, replacement, hnak data rfl]

/-- **The third pass** writes the response of the reference. -/
theorem buildOption_foldl (hplaced : Placed buffer y.toNat items) (hend : y.toNat + span items < 256)
    (configuration : PeerConfiguration) {build : Build} (hb : build.b = 0)
    (hcursor : build.cursor.toNat + span items + 6 * items.length < 2 ^ 16) :
    (positions y items).foldl (buildOption buffer l) build =
      build.put (responseData (l.pendingAction = .configureReject) items
        (evaluateOptions duplicates {} proposed configuration items).1) 0 := by
  induction items generalizing y configuration build with
  | nil =>
    have hzero : build.cursor + UInt16.ofNat 0 = build.cursor := UInt16.add_zero _
    obtain ⟨b, cursor, output⟩ := build
    obtain rfl : b = 0 := hb
    simp [positions, evaluateOptions, responseData, Build.put]
  | cons item items ih =>
    obtain ⟨hadvance, -, hplaced', hend', -⟩ := advanceY_placed hplaced hend
    have hstep := buildOption_eq hduplicates hmagic hplaced hend configuration hb
    have hlength := length_contribution hmagic duplicates (l.pendingAction = .configureReject) item configuration
    rw [positions, List.foldl_cons, ← hadvance, evaluateOptions, hstep]
    generalize (if duplicates item.type then (OptionDisposition.reject, configuration)
      else evaluateOption item {} proposed configuration) = evaluated at hlength
    obtain ⟨disposition, configuration'⟩ := evaluated
    rw [span_cons, List.length_cons] at hcursor
    dsimp only at hlength ⊢
    set piece := contribution (l.pendingAction = .configureReject) item disposition with hpiece
    have hpieceLength : (UInt16.ofNat piece.length).toNat = piece.length :=
      UInt16.toNat_ofNat_of_lt' (show piece.length < 2 ^ 16 by omega)
    have hnext : (build.put piece 0).cursor.toNat = build.cursor.toNat + piece.length := by
      show (build.cursor + UInt16.ofNat piece.length).toNat = _
      rw [toNat_add_of_lt (by omega), hpieceLength]
    rw [ih hplaced' hend' configuration' rfl (by omega), put_put _ _ _ _ _ (by omega)]
    rfl

end Loops

/-! ### The response of the reference -/

section Reference

variable {duplicates : UInt8 → Bool} {proposed : Option UInt32}

lemma length_evaluateOptions (configuration : PeerConfiguration) (items : List Tlv.Item) :
    (evaluateOptions duplicates {} proposed configuration items).1.length = items.length := by
  induction items generalizing configuration with
  | nil => rfl
  | cons item items ih => simp [evaluateOptions, ih]

lemma responseData_reject (items : List Tlv.Item) (dispositions : List OptionDisposition) :
    ((items.zip dispositions).filter fun entry => isReject entry.2).flatMap (fun entry => entry.1.encoded) =
      responseData true items dispositions := by
  unfold responseData contribution
  induction items.zip dispositions with
  | nil => rfl
  | cons entry entries ih =>
    rw [List.filter_cons, List.flatMap_cons, ← ih]
    cases hreject : isReject entry.2 with
    | true => simp
    | false => simp

lemma responseData_nak {items : List Tlv.Item} {dispositions : List OptionDisposition}
    (hlength : dispositions.length = items.length) :
    (dispositions.filterMap replacement).flatten = responseData false items dispositions := by
  unfold responseData contribution
  induction items generalizing dispositions with
  | nil =>
    obtain rfl := List.length_eq_zero_iff.mp hlength
    rfl
  | cons item items ih =>
    cases dispositions with
    | nil => cases hlength
    | cons disposition dispositions =>
      rw [List.zip_cons_cons, List.flatMap_cons, ← ih (Nat.succ_injective hlength), List.filterMap_cons]
      cases replacement disposition with
      | none => rfl
      | some data => rfl

end Reference

/-! ### Requests -/

/-- The reference's code for the answer to a request. -/
def LcpAction.answerCode : LcpAction → Option Rust.Lcp.Code
  | .configureAck => some .configureAck
  | .configureNak => some .configureNak
  | .configureReject => some .configureReject
  | _ => Option.none

/-- The answer to a parsed Configure-Request, and the octets of its options. -/
def answerParsed (d : Decoder) (l : Lcp) (output : Buffer) : Option (Rust.Lcp.Code × List UInt8) :=
  let evaluated := pppLcpEvaluatePeerRequest d.frameBuffer l
  (buildAction d { evaluated.2 with pendingAction := evaluated.1 } output).bind fun built =>
    evaluated.1.answerCode.map fun code => (code, read built.1 8 (built.2.toNat - 8))

/-- The answer to the received Configure-Request. -/
def answer (d : Decoder) (l : Lcp) (output : Buffer) : Option (Rust.Lcp.Code × List UInt8) :=
  match pppLcpParseFrame d l with
  | (_, true) => none
  | (l, false) => answerParsed d l output

/-- The answer of the reference to a parsed packet; its policy accepts both authentication protocols. -/
def referenceAnswerParsed (packet : Rust.ControlPacket.Packet) (proposed : Option UInt32) :
    Option (Rust.Lcp.Code × List UInt8) :=
  match evaluatePeerRequest packet {} proposed with
  | .error _ => none
  | .ok evaluation => some (evaluation.code, evaluation.data)

/-- The answer of the reference. -/
def referenceAnswer (d : Decoder) (proposed : Option UInt32) : Option (Rust.Lcp.Code × List UInt8) :=
  match Rust.Lcp.Packet.parse (information d) with
  | .error _ => none
  | .ok packet => referenceAnswerParsed packet proposed

section Answer

variable {d : Decoder} {l : Lcp} {proposed : Option UInt32} {items : List Tlv.Item}

/-- The octets of the options in a selective response. -/
lemma read_buildPeerResponse {buffer : Buffer} {data : List UInt8} (code : UInt8) (output : Buffer)
    (hlength : data.length < 2 ^ 15)
    (hbuild : (options buffer l.packetEnd).foldl (buildOption buffer l)
      ⟨0, firstOption, write output 4 [code, buffer 5]⟩ =
        (Build.mk 0 firstOption (write output 4 [code, buffer 5])).put data 0)
    (hcode : code = if l.pendingAction = .configureNak then 3 else 4) :
    let built := pppLcpBuildPeerResponse buffer l output
    read built.1 8 (built.2.toNat - 8) = data := by
  have hdata : (UInt16.ofNat data.length).toNat = data.length :=
    UInt16.toNat_ofNat_of_lt' (show data.length < 2 ^ 16 by omega)
  have hfirst : firstOption.toNat = 8 := rfl
  have hcursor : (firstOption + UInt16.ofNat data.length).toNat = 8 + data.length := by
    rw [toNat_add_of_lt (by omega), hdata, hfirst]
  unfold pppLcpBuildPeerResponse
  dsimp only
  rw [← hcode, hbuild]
  unfold Build.put
  dsimp only
  rw [hcursor, hfirst, Nat.add_sub_cancel_left, read_write_of_disjoint _ _ _ (Or.inr (by simp)), read_write]

lemma clearMaps_sameMaps (ram : Buffer) : SameMaps (clearMaps ram) (fun _ => false, fun _ => false) := by
  intro type
  have hlt := type.toNat_lt
  have hdup : duplicateMap = 256 := rfl
  unfold clearMaps
  rw [if_pos (by omega), if_pos (by omega)]
  simp

/-- The copied packet of an Ack has the options of the request. -/
lemma read_copyResponse (hfour : 4 ≤ l.packetLength.toNat) (hshort : l.packetLength.toNat + 4 < 2 ^ 16)
    (output : Buffer) :
    read (copyResponse d l output).1 8 ((copyResponse d l output).2.toNat - 8) =
      read d.frameBuffer 8 (l.packetLength.toNat - 4) := by
  have hsum : (l.packetLength + frameOffset).toNat = l.packetLength.toNat + 4 := toNat_add_of_lt hshort
  have hcopy : read d.frameBuffer 4 l.packetLength.toNat =
      read d.frameBuffer 4 4 ++ read d.frameBuffer 8 (l.packetLength.toNat - 4) := by
    rw [← read_append]
    congr 1
    omega
  have hcount : l.packetLength.toNat + 4 - 8 = (read d.frameBuffer 8 (l.packetLength.toNat - 4)).length := by
    rw [length_read]
    omega
  unfold copyResponse
  dsimp only
  rw [hsum, read_write_of_disjoint _ _ _ (Or.inr (by simp)), hcopy, ← write_write, length_read, hcount, read_write]

/-- The answer to a parsed request. -/
lemma answerParsed_eq_reference (output : Buffer) (ha : Accepted d l) (hplaced : Placed d.frameBuffer 8 items)
    (hspan : 8 + span items = l.packetEnd.toNat) (hmagic : SameMagic l proposed) (hend : l.packetEnd.toNat < 256)
    (hwithin : 4 ≤ (declaredLength d).toNat) :
    answerParsed d l output = referenceAnswerParsed
      ⟨d.frameBuffer 4, d.frameBuffer 5, read d.frameBuffer 8 ((declaredLength d).toNat - 4)⟩ proposed := by
  have hfirst : firstOption.toNat = 8 := rfl
  have hpacketEnd := ha.packetEnd
  rw [ha.packetLength] at hpacketEnd
  have hoptions : options d.frameBuffer l.packetEnd = positions firstOption items :=
    (options_congr hplaced hspan (fun _ _ => rfl) (by omega)).1
  have hdata : read d.frameBuffer 8 ((declaredLength d).toNat - 4) = items.flatMap Tlv.Item.encoded := by
    rw [← placed_iff.mp hplaced]
    congr 1
    omega
  have hitems := two_mul_length_le_span items
  have hwalked : firstOption.toNat + span items < 256 := by omega
  have hhigh : high l.packetEnd = 0 := high_eq_zero.mpr hend
  -- The maps after the first pass.
  have hmaps := recordType_foldl (y := firstOption) (clearMaps_sameMaps l.optionRam) hplaced (by omega)
  set l₂ : Lcp := { l with optionRam := ((positions firstOption items).foldl (recordType d.frameBuffer)
    (clearMaps l.optionRam, 0)).1 } with hl₂
  have hduplicates : ∀ type : UInt8,
      l₂.optionRam (duplicateMap + type.toNat) = 0 ↔ duplicateTypeMap items type = false := fun type =>
    (hmaps type).2
  have hmagic₂ : SameMagic l₂ proposed := hmagic
  obtain ⟨hreject, hnak⟩ := classifyOption_foldl hduplicates hmagic₂ (y := firstOption) hplaced hwalked
    {} false false
  set dispositions := (evaluateOptions (duplicateTypeMap items) {} proposed {} items).1 with hdispositions
  rw [Bool.false_or] at hreject hnak
  have hreference : evaluatePeerRequest ⟨d.frameBuffer 4, d.frameBuffer 5,
      read d.frameBuffer 8 ((declaredLength d).toNat - 4)⟩ {} proposed =
      if dispositions.any isReject then
        .ok ⟨.configureReject, responseData true items dispositions, none⟩
      else if dispositions.any fun disposition => (replacement disposition).isSome then
        .ok ⟨.configureNak, responseData false items dispositions, none⟩
      else .ok ⟨.configureAck, items.flatMap Tlv.Item.encoded,
        some (evaluateOptions (duplicateTypeMap items) {} proposed {} items).2⟩ := by
    unfold evaluatePeerRequest
    dsimp only
    rw [hdata, Rust.ControlPacket.collectOptions_flatMap]
    dsimp only
    rw [← hdispositions, responseData_reject, responseData_nak (length_evaluateOptions _ _)]
  have hevaluate : pppLcpEvaluatePeerRequest d.frameBuffer l =
      if dispositions.any isReject then (.configureReject, l₂)
      else if dispositions.any fun disposition => (replacement disposition).isSome then (.configureNak, l₂)
      else (.configureAck, commitAcceptedConfiguration d.frameBuffer l₂) := by
    unfold pppLcpEvaluatePeerRequest
    simp only [hoptions, hhigh]
    show (if ((positions firstOption items).foldl (classifyOption d.frameBuffer l₂) (false, false, 0)).1 = true then
      _ else if ((positions firstOption items).foldl (classifyOption d.frameBuffer l₂) (false, false, 0)).2.1 = true
      then _ else _) = _
    rw [hreject, hnak]
  -- The octets of a selective response.
  have hselective (action : LcpAction) (code : UInt8) (hcode : code = if action = .configureNak then 3 else 4) :
      let built := pppLcpBuildPeerResponse d.frameBuffer { l₂ with pendingAction := action }
        (write output 0 [0xff, 0x03, 0xc0, 0x21])
      read built.1 8 (built.2.toNat - 8) = responseData (action = .configureReject) items dispositions := by
    have hresponse : (responseData (action = .configureReject) items dispositions).length ≤
        span items + 6 * items.length := length_responseData hmagic _ _ {}
    set start : Build := ⟨0, firstOption, write (write output 0 [0xff, 0x03, 0xc0, 0x21]) 4 [code, d.frameBuffer 5]⟩
    have hcursor : start.cursor.toNat + span items + 6 * items.length < 2 ^ 16 := by
      show firstOption.toNat + span items + 6 * items.length < 2 ^ 16
      omega
    have hbuild : (positions firstOption items).foldl
        (buildOption d.frameBuffer { l₂ with pendingAction := action }) start =
          start.put (responseData (action = .configureReject) items dispositions) 0 :=
      buildOption_foldl (l := { l₂ with pendingAction := action }) hduplicates hmagic₂ hplaced hwalked {} rfl hcursor
    refine read_buildPeerResponse code _ (by omega) ?_ hcode
    rw [← hbuild]
    exact congrArg (List.foldl _ start) hoptions
  unfold referenceAnswerParsed answerParsed
  rw [hreference, hevaluate]
  by_cases hanyReject : dispositions.any isReject
  · rw [if_pos hanyReject, if_pos hanyReject]
    exact congrArg (fun data => some (Rust.Lcp.Code.configureReject, data)) (hselective .configureReject 4 rfl)
  · rw [if_neg hanyReject, if_neg hanyReject]
    by_cases hanyNak : dispositions.any fun disposition => (replacement disposition).isSome
    · rw [if_pos hanyNak, if_pos hanyNak]
      exact congrArg (fun data => some (Rust.Lcp.Code.configureNak, data)) (hselective .configureNak 3 rfl)
    · rw [if_neg hanyNak, if_neg hanyNak]
      -- The Ack is a copy of the request, whose parsed fields the commit keeps.
      set l₃ := commitAcceptedConfiguration d.frameBuffer l₂ with hl₃
      have hpacketLength : l₃.packetLength = declaredLength d :=
        (foldl_commitOption_kept d.frameBuffer { l₂ with
          peerFlags := ⟨false, false, false, false, false⟩
          peerMru := defaultMru
          peerAccm := 0xffffffff
          peerMagic := 0 } (options d.frameBuffer l₂.packetEnd)).packetLength.trans ha.packetLength
      have hcopy := read_copyResponse (d := d) (l := { l₃ with pendingAction := .configureAck })
        (by rw [hpacketLength]; omega) (by rw [hpacketLength]; omega) (write output 0 [0xff, 0x03, 0xc0, 0x21])
      have hdata' : read d.frameBuffer 8 (l₃.packetLength.toNat - 4) = items.flatMap Tlv.Item.encoded := by
        rw [hpacketLength, hdata]
      exact congrArg (fun data => some (Rust.Lcp.Code.configureAck, data)) (hcopy.trans hdata')

/-- **The answer refines the reference**: to a request whose octets end before octet 256 of the frame, the
disposition and the octets of the response's options are those of the reference with the same proposal. -/
theorem answer_eq_reference (output : Buffer) (hshort : d.lastFrameLength ≤ maximumTransmitFrameLength)
    (haccepted : (pppLcpParseFrame d l).2 = false) (hcode : d.frameBuffer 4 = 1)
    (hmagic : SameMagic l proposed) (hend : (declaredLength d).toNat + 4 < 256) :
    answer d l output = referenceAnswer d proposed := by
  have hshort' : d.lastFrameLength.toNat ≤ 1504 := UInt16.le_iff_toNat_le.mp hshort
  have hwraps : ¬ Wraps d := by
    rintro ⟨-, -, hlarge⟩
    omega
  have ha := parseFrame_accepted hshort' hwraps haccepted
  obtain ⟨-, hheader, error, hparsed⟩ := parseFrame_eq_of_accepted haccepted
  have hlength := ha.packetLength
  have hfour := ha.four_le
  have hpacketEnd := ha.packetEnd
  have hwithin := ha.within
  rw [hlength] at hfour hpacketEnd
  obtain ⟨items, hplaced, hspan⟩ := ha.options (by rw [ha.code, hcode]; rfl)
  have hmagic₁ : SameMagic (pppLcpParseFrame d l).1 proposed := by
    rw [hparsed]
    exact hmagic
  have hreference := show Rust.Lcp.Packet.parse (information d) = _ from
    parsePacket_information Rust.Lcp.parseErrors ⟨hheader, hfour, by omega⟩
  have hanswer := answerParsed_eq_reference (l := (pppLcpParseFrame d l).1) output ha hplaced hspan hmagic₁
    (by omega) (by omega)
  unfold answer referenceAnswer
  rw [hreference]
  generalize pppLcpParseFrame d l = parsed at haccepted hanswer
  obtain ⟨l₁, carry⟩ := parsed
  obtain rfl : carry = false := haccepted
  exact hanswer

end Answer

/-- A received LCP frame, alone in cleared memory. -/
def received (frame : List UInt8) : Decoder :=
  { (default : Decoder) with
    lastFrameLength := UInt16.ofNat frame.length
    lastProtocol := protocolLcp
    frameBuffer := write default 0 frame }

/-- A Configure-Request with an MRU and an unknown option, which the Reject returns alone. -/
def unknownOptionRequest : List UInt8 := [0xff, 0x03, 0xc0, 0x21, 1, 7, 0, 10, 1, 4, 0x05, 0xdc, 0x63, 2]

/-- The same options in a packet of 256 octets. -/
def longUnknownOptionRequest : List UInt8 :=
  [0xff, 0x03, 0xc0, 0x21, 1, 7, 1, 0, 1, 4, 0x05, 0xdc, 0x63, 248] ++ List.replicate 246 0

theorem answer_unknownOptionRequest :
    answer (received unknownOptionRequest) default default = referenceAnswer (received unknownOptionRequest) none :=
  answer_eq_reference default (by decide) (by decide +kernel) (by decide) (Or.inr ⟨rfl, rfl, rfl⟩) (by decide)

/-- The Reject of the long request returns the MRU too. -/
theorem answer_longUnknownOptionRequest_ne :
    answer (received longUnknownOptionRequest) default default ≠
      referenceAnswer (received longUnknownOptionRequest) none := by
  decide +kernel

end SnesModem.Asm
