import SnesModem.Rust.PeerAnswer

/-!
# What becomes of the Magic-Number

* `UniqueMagic`: options of distinct types, with a Magic-Number that can be read;
* `uniqueMagic_applyNak`, `uniqueMagic_applyReject`: the updates of the local options that keep them so;
* `evaluatePeerRequest_own`: a machine that gets its own request answers it in such a way.
-/

namespace SnesModem.Rust.MagicNumber

open SnesModem.Lib SnesModem.Rust.ControlPacket SnesModem.Rust.Lcp SnesModem.Rust.Negotiation
open SnesModem.Rust.PeerAnswer

/-! ### The options -/

/-- A Magic-Number option with four octets. -/
def IsMagic (option : ConfigurationOption) : Prop :=
  knownType option = some .magicNumber ∧ option.data.length = 4

instance (option : ConfigurationOption) : Decidable (IsMagic option) := by unfold IsMagic; infer_instance

/-- Options of distinct types, one of them a Magic-Number. -/
def UniqueMagic (options : List ConfigurationOption) : Prop :=
  (options.map (·.type)).Nodup ∧ ∃ option ∈ options, IsMagic option

instance (options : List ConfigurationOption) : Decidable (UniqueMagic options) := by unfold UniqueMagic; infer_instance

/-- Suggestions for the Magic-Number have four octets. -/
def KeepsMagic (suggestions : List ConfigurationOption) : Prop :=
  ∀ suggestion ∈ suggestions, knownType suggestion = some .magicNumber → suggestion.data.length = 4

/-- The Magic-Number is not among the options. -/
def SparesMagic (rejected : List ConfigurationOption) : Prop := ∀ option ∈ rejected, ¬ IsMagic option

section Options

variable {options suggestions rejected : List ConfigurationOption}

/-- The proposed Magic-Number is that of one of the options. -/
lemma localMagic_flatMap (h : UniqueMagic options) :
    ∃ option ∈ options, IsMagic option ∧ localMagic (options.flatMap Tlv.Item.encoded) = some (magicOf option.data) := by
  obtain ⟨-, magic, hmem, hmagic⟩ := h
  unfold localMagic
  rw [Tlv.items_flatMap]
  cases hfind : options.find? fun option => knownType option = some .magicNumber ∧ option.data.length = 4 with
  | none =>
    rw [List.find?_eq_none] at hfind
    exact absurd hmagic (by simpa [IsMagic] using hfind magic hmem)
  | some option =>
    refine ⟨option, List.mem_of_find?_eq_some hfind, ?_, rfl⟩
    have hfound := List.find?_some hfind
    simpa [IsMagic] using hfound

lemma type_nakReplacement (option : ConfigurationOption) : (nakReplacement suggestions option).type = option.type := by
  unfold nakReplacement
  split
  · rfl
  · rename_i suggestion hfind
    have htype : suggestion.type = option.type := by simpa using List.find?_some hfind
    split
    · rename_i hmagic
      exact (OptionType.octet_of_fromOctet hmagic.1).symm
    · exact htype

/-- A suggestion in place of the Magic-Number is one. -/
lemma isMagic_nakReplacement {option : ConfigurationOption} (hkeeps : KeepsMagic suggestions) (h : IsMagic option) :
    IsMagic (nakReplacement suggestions option) := by
  refine ⟨?_, ?_⟩
  · unfold knownType
    rw [type_nakReplacement]
    exact h.1
  · unfold nakReplacement
    split
    · exact h.2
    · rename_i suggestion hfind
      have htype : suggestion.type = option.type := by simpa using List.find?_some hfind
      have hknown : knownType suggestion = some .magicNumber := by
        unfold knownType
        rw [htype]
        exact h.1
      rw [if_pos ⟨h.1, h.2, hkeeps suggestion (List.mem_of_find?_eq_some hfind) hknown⟩]
      simp [magicOption, magicOctets]

/-- **A Nak** leaves options of the same types. -/
theorem uniqueMagic_applyNak (h : UniqueMagic options) (hkeeps : KeepsMagic suggestions) :
    ∃ updated, applyNak (options.flatMap Tlv.Item.encoded) suggestions = updated.flatMap Tlv.Item.encoded ∧
      UniqueMagic updated := by
  obtain ⟨hnodup, magic, hmem, hmagic⟩ := h
  refine ⟨options.map (nakReplacement suggestions), ?_, ?_, ?_⟩
  · unfold applyNak
    rw [Tlv.items_flatMap, List.flatMap_map]
  · rw [List.map_map]
    have htypes : (fun option : ConfigurationOption => option.type) ∘ nakReplacement suggestions = (·.type) := by
      funext option
      exact type_nakReplacement option
    rw [htypes]
    exact hnodup
  · exact ⟨_, List.mem_map_of_mem hmem, isMagic_nakReplacement hkeeps hmagic⟩

/-- **A Reject** that spares the Magic-Number leaves it. -/
theorem uniqueMagic_applyReject {updated : List UInt8} (h : UniqueMagic options) (hspares : SparesMagic rejected)
    (happly : applyReject (options.flatMap Tlv.Item.encoded) rejected = some updated) :
    ∃ remaining, updated = remaining.flatMap Tlv.Item.encoded ∧ UniqueMagic remaining := by
  obtain ⟨hnodup, magic, hmem, hmagic⟩ := h
  unfold applyReject at happly
  rw [Tlv.items_flatMap] at happly
  dsimp only at happly
  split_ifs at happly
  cases happly
  refine ⟨_, rfl, hnodup.sublist (List.filter_sublist.map _), magic, ?_, hmagic⟩
  rw [List.mem_filter]
  refine ⟨hmem, ?_⟩
  rw [Bool.not_eq_true', List.any_eq_false]
  intro option hoption hencoded
  have hsame : option = magic := Tlv.eq_of_encoded (by simpa using hencoded)
  exact hspares option hoption (hsame ▸ hmagic)

end Options

/-! ### The evaluation of the own request -/

section Evaluation

variable {options : List ConfigurationOption} {policy : SfcPolicy} {magic : Option UInt32}
  {option suggested : ConfigurationOption}

/-- A Magic-Number that can be read is not rejected. -/
lemma unsupported_of_isMagic (h : IsMagic option) : unsupported policy option = false := by
  unfold unsupported
  rw [h.1]
  exact decide_eq_false (not_not_intro h.2)

/-- The own Magic-Number is answered with a Nak. -/
lemma suggestion_own (h : IsMagic option) : suggestion policy (some (magicOf option.data)) option =
    some (magicOption (nextMagic (magicOf option.data))) := by
  have hnak : (evaluateOption option policy (some (magicOf option.data)) {}).1 =
      .nak (magicOption (nextMagic (magicOf option.data))).encoded := by
    unfold evaluateOption
    rw [h.1]
    dsimp only
    rw [if_pos h.2, if_pos (Or.inr rfl)]
    rfl
  exact suggestion_of_nak hnak

/-- A suggestion for the Magic-Number can be read, as it is acceptable. -/
lemma length_suggestion (h : suggestion policy magic option = some suggested)
    (htype : knownType suggested = some .magicNumber) : suggested.data.length = 4 := by
  have hsupported : isReject (evaluateOption suggested policy magic {}).1 = _ := isReject_evaluateOption {}
  rw [(of_suggestion h).2 {}] at hsupported
  unfold unsupported at hsupported
  rw [htype] at hsupported
  exact not_not.mp (of_decide_eq_false hsupported.symm)

/-- What the answer to a request of the machine itself is. -/
structure OwnAnswer (evaluation : PeerEvaluation) : Prop where
  negative : evaluation.code = .configureNak ∧
      (∃ suggestions, evaluation.data = suggestions.flatMap Tlv.Item.encoded ∧ KeepsMagic suggestions) ∨
    evaluation.code = .configureReject ∧
      ∃ rejected, evaluation.data = rejected.flatMap Tlv.Item.encoded ∧ SparesMagic rejected

/-- **The own request** is never acknowledged, and the answer to it keeps the Magic-Number. -/
theorem evaluatePeerRequest_own {packet : Packet} {evaluation : PeerEvaluation} (h : UniqueMagic options)
    (hdata : packet.data = options.flatMap Tlv.Item.encoded)
    (hevaluation : evaluatePeerRequest packet policy (localMagic packet.data) = .ok evaluation) :
    OwnAnswer evaluation := by
  obtain ⟨own, hmem, hmagic, hlocal⟩ := localMagic_flatMap h
  have hoptions : collectOptions optionParseError packet.data = .ok options := by
    rw [hdata, collectOptions_flatMap]
  rw [evaluatePeerRequest_eq policy _ hoptions, hdata, hlocal] at hevaluation
  cases hevaluation
  split_ifs with hreject hnak
  · refine ⟨Or.inr ⟨rfl, _, rfl, ?_⟩⟩
    intro rejected hrejected hrejectedMagic
    have hmust := (List.mem_filter.mp hrejected).2
    unfold mustReject at hmust
    rw [unsupported_of_isMagic hrejectedMagic, Bool.or_false, decide_eq_true_eq] at hmust
    have hone := List.nodup_iff_count_le_one.mp h.1 rejected.type
    omega
  · refine ⟨Or.inl ⟨rfl, _, rfl, ?_⟩⟩
    intro suggested hsuggested htype
    obtain ⟨option, -, hfound⟩ := List.mem_filterMap.mp hsuggested
    exact length_suggestion hfound htype
  · -- The own Magic-Number has a Nak.
    refine absurd (List.any_eq_true.mpr ⟨own, hmem, ?_⟩) hnak
    rw [suggestion_own hmagic]
    rfl

end Evaluation

end SnesModem.Rust.MagicNumber
