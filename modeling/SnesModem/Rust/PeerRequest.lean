import SnesModem.Rust.Negotiation

/-!
# What an acceptable Configure-Request says

* `encodedConfiguration`: the configuration that a list of options spells, an absent option standing for its
  default, whatever machine reads it;
* `evaluatePeerRequest_ack`: a request that is acknowledged is evaluated to that configuration, under every
  policy, and acknowledged verbatim.
-/

namespace SnesModem.Rust.PeerRequest

open SnesModem.Lib SnesModem.Rust.ControlPacket SnesModem.Rust.Lcp SnesModem.Rust.Negotiation

/-! ### The configuration that options spell -/

/-- The data of the first option of a type. -/
def optionData (options : List ConfigurationOption) (type : OptionType) : Option (List UInt8) :=
  (options.find? fun option => knownType option = some type).map (·.data)

/-- The authentication protocol that the data of its option names. -/
def authenticationOf (data : List UInt8) : Option AuthenticationProtocol :=
  if data = [0xc2, 0x23, 5] then some .chapMd5 else if data = [0xc0, 0x23] then some .pap else none

/-- The configuration with the values that options spell in place of its own. -/
def overlay (configuration : PeerConfiguration) (options : List ConfigurationOption) : PeerConfiguration where
  transmitMru :=
    (optionData options .maximumReceiveUnit).elim configuration.transmitMru
      fun data => UInt16.ofNat (BigEndian.value data)
  transmitAccm := (optionData options .asyncControlCharacterMap).elim configuration.transmitAccm magicOf
  authentication := (optionData options .authenticationProtocol).elim configuration.authentication authenticationOf
  magicNumber := (optionData options .magicNumber).elim configuration.magicNumber fun data => some (magicOf data)

/-- **The configuration that local options encode.** -/
def encodedConfiguration (localOptions : List UInt8) : PeerConfiguration := overlay {} (Tlv.items localOptions).1

section Overlay

lemma optionData_cons (option : ConfigurationOption) (options : List ConfigurationOption) (type : OptionType) :
    optionData (option :: options) type =
      if knownType option = some type then some option.data else optionData options type := by
  unfold optionData
  by_cases h : knownType option = some type <;> simp [h]

lemma optionData_eq_none {options : List ConfigurationOption} {option : ConfigurationOption} {type : OptionType}
    (htype : knownType option = some type) (h : option.type ∉ options.map (·.type)) :
    optionData options type = none := by
  have hne : ∀ other ∈ options, knownType other ≠ some type := by
    intro other hother heq
    refine h (List.mem_map.mpr ⟨other, hother, ?_⟩)
    exact (OptionType.octet_of_fromOctet heq).trans (OptionType.octet_of_fromOctet htype).symm
  unfold optionData
  rw [List.find?_eq_none.mpr (by simpa using hne)]
  rfl

end Overlay

/-! ### Acknowledged options -/

/-- **An acknowledged option** writes its own value to the configuration, and nothing else. -/
theorem evaluateOption_ack {option : ConfigurationOption} {policy : SfcPolicy} {magic : Option UInt32}
    {configuration configuration' : PeerConfiguration}
    (h : evaluateOption option policy magic configuration = (.ack, configuration')) :
    configuration' = overlay configuration [option] := by
  unfold evaluateOption at h
  cases htype : knownType option with
  | none => simp [htype] at h
  | some type =>
    simp only [htype] at h
    cases type with
    | maximumReceiveUnit | asyncControlCharacterMap | magicNumber =>
      dsimp only at h
      split_ifs at h <;> cases h
      simp [overlay, optionData, htype]
    | authenticationProtocol =>
      dsimp only at h
      split_ifs at h with hchap hpap <;> cases h
      · simp [overlay, optionData, htype, authenticationOf, hchap.2]
      · simp [overlay, optionData, htype, authenticationOf, hpap.2]
    | qualityProtocol | protocolFieldCompression | addressControlFieldCompression => cases h

lemma overlay_cons {option : ConfigurationOption} {options : List ConfigurationOption}
    (configuration : PeerConfiguration) (h : option.type ∉ options.map (·.type)) :
    overlay configuration (option :: options) = overlay (overlay configuration [option]) options := by
  have field (type : OptionType) (absent : knownType option = some type → optionData options type = none) :
      optionData (option :: options) type = (optionData options type).or (optionData [option] type) := by
    rw [optionData_cons, optionData_cons]
    by_cases htype : knownType option = some type
    · simp [htype, absent htype]
    · simp [htype, optionData]
  unfold overlay
  simp only [field _ fun htype => optionData_eq_none htype h]
  congr 1 <;> cases optionData options _ <;> cases optionData [option] _ <;> rfl

/-- The loop over options that are all acknowledged. -/
theorem evaluateOptions_ack {duplicates : UInt8 → Bool} {policy : SfcPolicy} {magic : Option UInt32}
    (configuration : PeerConfiguration) {options : List ConfigurationOption}
    (hnodup : (options.map (·.type)).Nodup)
    (h : ∀ disposition ∈ (evaluateOptions duplicates policy magic configuration options).1,
      disposition = .ack) :
    (evaluateOptions duplicates policy magic configuration options).2 = overlay configuration options := by
  induction options generalizing configuration with
  | nil => rfl
  | cons option options ih =>
    obtain ⟨hnotin, hnodup⟩ := List.nodup_cons.mp hnodup
    simp only [evaluateOptions, List.forall_mem_cons] at h ⊢
    obtain ⟨hfirst, hrest⟩ := h
    rw [ih _ hnodup hrest, overlay_cons configuration hnotin]
    congr 1
    split_ifs at hfirst ⊢
    exact evaluateOption_ack (Prod.ext hfirst rfl)

/-- A duplicated type has a rejected option. -/
lemma nodup_of_not_rejected {duplicates : UInt8 → Bool} {policy : SfcPolicy} {magic : Option UInt32}
    (configuration : PeerConfiguration) {options : List ConfigurationOption}
    (h : ∀ disposition ∈ (evaluateOptions duplicates policy magic configuration options).1,
      disposition = .ack) : ∀ option ∈ options, duplicates option.type = false := by
  induction options generalizing configuration with
  | nil => simp
  | cons option options ih =>
    rw [evaluateOptions, List.forall_mem_cons] at h
    refine List.forall_mem_cons.mpr ⟨?_, ih _ h.2⟩
    cases hdup : duplicates option.type with
    | false => rfl
    | true =>
      rw [if_pos hdup] at h
      cases h.1

lemma eq_ack {disposition : OptionDisposition} (hreject : isReject disposition = false)
    (hnak : replacement disposition = none) : disposition = .ack := by
  cases disposition with
  | ack => rfl
  | nak data => cases hnak
  | reject => cases hreject

/-- **An acknowledged request** is acknowledged verbatim and evaluated to what its options encode. -/
theorem evaluatePeerRequest_ack {packet : Packet} {policy : SfcPolicy} {magic : Option UInt32}
    {evaluation : PeerEvaluation} (h : evaluatePeerRequest packet policy magic = .ok evaluation)
    (hack : evaluation.code = .configureAck) :
    evaluation.data = packet.data ∧ evaluation.configuration = some (encodedConfiguration packet.data) := by
  unfold evaluatePeerRequest at h
  cases hoptions : collectOptions optionParseError packet.data with
  | error => simp [hoptions] at h
  | ok options =>
    rw [hoptions] at h
    dsimp only at h
    split_ifs at h with hreject hnak
    · cases h
      cases hack
    · cases h
      cases hack
    · cases h
      refine ⟨rfl, ?_⟩
      have hall : ∀ disposition ∈
          (evaluateOptions (duplicateTypeMap options) policy magic {} options).1, disposition = .ack := by
        intro disposition hmem
        refine eq_ack ?_ ?_
        · simpa using fun heq => hreject (List.any_eq_true.mpr ⟨disposition, hmem, heq⟩)
        · simpa using fun heq => hnak (List.any_eq_true.mpr ⟨disposition, hmem, heq⟩)
      have hnodup : (options.map (·.type)).Nodup := by
        rw [List.nodup_iff_count_le_one]
        intro type
        by_contra hcount
        have hmem : type ∈ options.map (·.type) := List.one_le_count_iff.mp (by omega)
        obtain ⟨option, hoption, rfl⟩ := List.mem_map.mp hmem
        have hdup := nodup_of_not_rejected {} hall option hoption
        rw [duplicateTypeMap_eq] at hdup
        simp only [decide_eq_false_iff_not] at hdup
        omega
      have hitems : (Tlv.items packet.data).1 = options := by
        unfold collectOptions at hoptions
        split at hoptions
        · rename_i heq
          cases hoptions
          rw [heq]
        · cases hoptions
      simp only [evaluateOptions_ack {} hnodup hall, encodedConfiguration, hitems]

/-- The code of an evaluation is one of the three answers. -/
lemma evaluatePeerRequest_code {packet : Packet} {policy : SfcPolicy} {magic : Option UInt32}
    {evaluation : PeerEvaluation} (h : evaluatePeerRequest packet policy magic = .ok evaluation) :
    evaluation.code = .configureAck ∨ evaluation.code = .configureNak ∨ evaluation.code = .configureReject := by
  unfold evaluatePeerRequest at h
  cases hoptions : collectOptions optionParseError packet.data with
  | error => simp [hoptions] at h
  | ok options =>
    rw [hoptions] at h
    dsimp only at h
    split_ifs at h <;> cases h <;> simp

end SnesModem.Rust.PeerRequest
