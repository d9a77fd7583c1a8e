import SnesModem.Rust.PeerRequest

/-!
# The answer to a Configure-Request

* `mustReject`, `suggestion`: the options that no value makes acceptable, and the value suggested for another one;
* `suggestion_spec`: a suggestion is acceptable;
* `evaluatePeerRequest_eq`: the answer, from the two.
-/

namespace SnesModem.Rust.PeerAnswer

open SnesModem.Lib SnesModem.Rust.ControlPacket SnesModem.Rust.Lcp SnesModem.Rust.Negotiation
open SnesModem.Rust.PeerRequest

/-! ### Options -/

/-- No value of the option is acceptable, or its length is not that of a value. -/
def unsupported (policy : SfcPolicy) (option : ConfigurationOption) : Bool :=
  match knownType option with
  | some .maximumReceiveUnit | some .asyncControlCharacterMap => false
  | some .authenticationProtocol => !policy.acceptChapMd5 && !policy.acceptPap
  | some .magicNumber => option.data.length ≠ 4
  | _ => true

/-- An option is rejected if it is not supported, or if its type occurs more than once. -/
def mustReject (policy : SfcPolicy) (options : List ConfigurationOption) (option : ConfigurationOption) : Bool :=
  2 ≤ (options.map (·.type)).count option.type || unsupported policy option

/-- The option that takes the place of one that is not acceptable as it is. -/
def suggestion (policy : SfcPolicy) (magic : Option UInt32) (option : ConfigurationOption) :
    Option ConfigurationOption :=
  (replacement (evaluateOption option policy magic {}).1).bind fun data => (Tlv.items data).1.head?

section Disposition

variable {policy : SfcPolicy} {magic : Option UInt32} {option : ConfigurationOption}

lemma magicOf_magicOctets (magic : UInt32) : magicOf (magicOctets magic) = magic := by
  have hlength : (magicOctets magic).length = 4 := BigEndian.length_octets 4 _
  have hvalue : BigEndian.value (magicOctets magic) = magic.toNat := BigEndian.value_octets 4 _ magic.toNat_lt
  unfold magicOf
  rw [List.take_of_length_le (Nat.le_of_eq hlength), hvalue, UInt32.ofNat_toNat]

lemma nextMagic_ne_zero (current : UInt32) : nextMagic current ≠ 0 := by
  unfold nextMagic
  split_ifs with hzero
  · decide
  · exact hzero

lemma nextMagic_ne (magic : UInt32) : nextMagic magic ≠ magic := by
  unfold nextMagic
  split_ifs with hzero
  · -- The increment is odd, so that it is not its own negation.
    rintro rfl
    exact absurd hzero (by decide)
  · intro heq
    have hincrement : magicRetryIncrement = 0 := by
      have := congrArg (· - magic) heq
      simpa using this
    exact absurd hincrement (by decide)

/-- What is stored does not change the disposition. -/
lemma evaluateOption_configuration (configuration configuration' : PeerConfiguration) :
    (evaluateOption option policy magic configuration).1 = (evaluateOption option policy magic configuration').1 := by
  unfold evaluateOption
  cases knownType option with
  | none => rfl
  | some type =>
    cases type with
    | maximumReceiveUnit | asyncControlCharacterMap | authenticationProtocol | magicNumber =>
      dsimp only
      split_ifs <;> rfl
    | qualityProtocol | protocolFieldCompression | addressControlFieldCompression => rfl

lemma isReject_evaluateOption (configuration : PeerConfiguration) :
    isReject (evaluateOption option policy magic configuration).1 = unsupported policy option := by
  unfold evaluateOption unsupported
  cases knownType option with
  | none => rfl
  | some type =>
    cases type with
    | maximumReceiveUnit | asyncControlCharacterMap =>
      dsimp only
      split_ifs <;> rfl
    | authenticationProtocol =>
      dsimp only
      split_ifs with hchap hpap hchapOnly hpapOnly
      · simp [isReject, hchap.1]
      · simp [isReject, hpap.1]
      · simp [isReject, hchapOnly]
      · simp [isReject, hpapOnly]
      · simp [isReject, hchapOnly, hpapOnly]
    | magicNumber =>
      dsimp only
      split_ifs with hlength hvalue
      · simp [isReject, hlength]
      · simp [isReject, hlength]
      · simp [isReject, hlength]
    | qualityProtocol | protocolFieldCompression | addressControlFieldCompression => rfl

lemma evaluateOption_magicOption {next : UInt32} (configuration : PeerConfiguration) (hzero : next ≠ 0)
    (hother : magic ≠ some next) : (evaluateOption (magicOption next) policy magic configuration).1 = .ack := by
  have htype : knownType (magicOption next) = some .magicNumber := OptionType.fromOctet_octet .magicNumber
  have hlength : (magicOption next).data.length = 4 := BigEndian.length_octets 4 _
  have hvalue : magicOf (magicOption next).data = next := magicOf_magicOctets next
  have hfresh : ¬ (next = 0 ∨ some next = magic) := by
    rintro (h | h)
    · exact hzero h
    · exact hother h.symm
  unfold evaluateOption
  rw [htype]
  dsimp only
  rw [if_pos hlength, hvalue, if_neg hfresh]

/-- **A suggestion** is of the same type, and acceptable. -/
theorem suggestion_spec {configuration : PeerConfiguration} {data : List UInt8}
    (hnak : (evaluateOption option policy magic configuration).1 = .nak data) : ∃ suggested : ConfigurationOption,
      data = suggested.encoded ∧ suggested.type = option.type ∧
      ∀ configuration, (evaluateOption suggested policy magic configuration).1 = .ack := by
  unfold evaluateOption at hnak
  cases htype : knownType option with
  | none => simp [htype] at hnak
  | some type =>
    have hoctet := OptionType.octet_of_fromOctet htype
    simp only [htype] at hnak
    cases type with
    | maximumReceiveUnit =>
      dsimp only at hnak
      split_ifs at hnak
      cases hnak
      exact ⟨⟨1, [0x05, 0xdc], by decide⟩, rfl, hoctet.symm, fun _ => rfl⟩
    | asyncControlCharacterMap =>
      dsimp only at hnak
      split_ifs at hnak
      cases hnak
      exact ⟨⟨2, [0xff, 0xff, 0xff, 0xff], by decide⟩, rfl, hoctet.symm, fun _ => rfl⟩
    | authenticationProtocol =>
      dsimp only at hnak
      split_ifs at hnak with hchap hpap hchapOnly hpapOnly
      · cases hnak
        refine ⟨⟨3, [0xc2, 0x23, 5], by decide⟩, rfl, hoctet.symm, fun configuration => ?_⟩
        show (if policy.acceptChapMd5 ∧ _ then _ else _ : OptionDisposition × PeerConfiguration).1 = _
        rw [if_pos ⟨hchapOnly, rfl⟩]
      · cases hnak
        refine ⟨⟨3, [0xc0, 0x23], by decide⟩, rfl, hoctet.symm, fun configuration => ?_⟩
        show (if policy.acceptChapMd5 ∧ _ then _ else if policy.acceptPap ∧ _ then _ else _ :
          OptionDisposition × PeerConfiguration).1 = _
        rw [if_neg fun h => hchapOnly h.1, if_pos ⟨hpapOnly, rfl⟩]
    | magicNumber =>
      dsimp only at hnak
      split_ifs at hnak with hlength hvalue
      cases hnak
      refine ⟨_, rfl, hoctet.symm, fun configuration =>
        evaluateOption_magicOption configuration (nextMagic_ne_zero _) ?_⟩
      cases magic with
      | none => exact nofun
      | some own =>
        intro h
        exact nextMagic_ne own (Option.some.inj h).symm
    | qualityProtocol => cases hnak
    | protocolFieldCompression => cases hnak
    | addressControlFieldCompression => cases hnak

lemma suggestion_of_nak {configuration : PeerConfiguration} {suggested : ConfigurationOption}
    (hnak : (evaluateOption option policy magic configuration).1 = .nak suggested.encoded) :
    suggestion policy magic option = some suggested := by
  have hitems := Tlv.items_encoded_append suggested []
  rw [List.append_nil] at hitems
  unfold suggestion
  rw [evaluateOption_configuration {} configuration, hnak]
  show (Tlv.items suggested.encoded).1.head? = some suggested
  rw [hitems]
  rfl

/-- The replacement of a Nak is the suggestion. -/
lemma replacement_evaluateOption (configuration : PeerConfiguration) :
    replacement (evaluateOption option policy magic configuration).1 =
      (suggestion policy magic option).map Tlv.Item.encoded := by
  cases hdisposition : (evaluateOption option policy magic configuration).1 with
  | nak data =>
    obtain ⟨suggested, rfl, -⟩ := suggestion_spec hdisposition
    rw [suggestion_of_nak hdisposition]
    rfl
  | ack | reject =>
    rw [evaluateOption_configuration configuration {}] at hdisposition
    unfold suggestion
    rw [hdisposition]
    rfl

/-- What is suggested is of the same type, and acceptable. -/
lemma of_suggestion {suggested : ConfigurationOption} (h : suggestion policy magic option = some suggested) :
    suggested.type = option.type ∧
      ∀ configuration, (evaluateOption suggested policy magic configuration).1 = .ack := by
  have hreplacement : replacement (evaluateOption option policy magic {}).1 = _ := replacement_evaluateOption {}
  rw [h] at hreplacement
  cases hdisposition : (evaluateOption option policy magic {}).1 with
  | ack =>
    rw [hdisposition] at hreplacement
    cases hreplacement
  | reject =>
    rw [hdisposition] at hreplacement
    cases hreplacement
  | nak data =>
    obtain ⟨suggested', rfl, hspec⟩ := suggestion_spec hdisposition
    rw [suggestion_of_nak hdisposition] at h
    cases h
    exact hspec

/-- An option that is neither rejected nor replaced is acceptable. -/
lemma evaluateOption_eq_ack (configuration : PeerConfiguration) (hsupported : unsupported policy option = false)
    (hnone : suggestion policy magic option = none) : (evaluateOption option policy magic configuration).1 = .ack := by
  refine eq_ack ?_ ?_
  · rw [isReject_evaluateOption, hsupported]
  · rw [replacement_evaluateOption, hnone]
    rfl

end Disposition

/-! ### The answer -/

section Answer

variable {policy : SfcPolicy} {magic : Option UInt32} {options : List ConfigurationOption}

/-- The disposition of an option in the loop. -/
def dispositionOf (duplicates : UInt8 → Bool) (policy : SfcPolicy) (magic : Option UInt32)
    (configuration : PeerConfiguration) (option : ConfigurationOption) : OptionDisposition :=
  if duplicates option.type then .reject else (evaluateOption option policy magic configuration).1

lemma evaluateOptions_cons (duplicates : UInt8 → Bool) (policy : SfcPolicy) (magic : Option UInt32)
    (configuration : PeerConfiguration) (option : ConfigurationOption) (options : List ConfigurationOption) :
    ∃ configuration',
    (evaluateOptions duplicates policy magic configuration (option :: options)).1 =
      dispositionOf duplicates policy magic configuration option ::
        (evaluateOptions duplicates policy magic configuration' options).1 := by
  refine ⟨(if duplicates option.type then (.reject, configuration)
    else evaluateOption option policy magic configuration).2, ?_⟩
  rw [evaluateOptions]
  unfold dispositionOf
  by_cases hduplicate : duplicates option.type = true
  · simp only [if_pos hduplicate]
  · simp only [if_neg hduplicate]

/-- The loop evaluates each option by itself. -/
lemma evaluateOptions_fst (duplicates : UInt8 → Bool) (configuration : PeerConfiguration) :
    (evaluateOptions duplicates policy magic configuration options).1 =
      options.map (dispositionOf duplicates policy magic {}) := by
  induction options generalizing configuration with
  | nil => rfl
  | cons option options ih =>
    obtain ⟨configuration', hcons⟩ := evaluateOptions_cons duplicates policy magic configuration option options
    have hfirst : dispositionOf duplicates policy magic configuration option =
        dispositionOf duplicates policy magic {} option := by
      unfold dispositionOf
      rw [evaluateOption_configuration configuration {}]
    rw [hcons, ih, List.map_cons, hfirst]

lemma isReject_dispositionOf (option : ConfigurationOption) :
    isReject (dispositionOf (duplicateTypeMap options) policy magic {} option) = mustReject policy options option := by
  unfold dispositionOf mustReject
  rw [duplicateTypeMap_eq]
  by_cases hduplicate : 2 ≤ (options.map (·.type)).count option.type
  · rw [decide_eq_true hduplicate]
    rfl
  · rw [decide_eq_false hduplicate, Bool.false_or, ← isReject_evaluateOption {}]
    rfl

lemma replacement_dispositionOf {option : ConfigurationOption} (hkept : ¬ mustReject policy options option = true) :
    replacement (dispositionOf (duplicateTypeMap options) policy magic {} option) =
      (suggestion policy magic option).map Tlv.Item.encoded := by
  have hsingle : duplicateTypeMap options option.type = false := by
    rw [duplicateTypeMap_eq]
    refine decide_eq_false fun hduplicate => hkept ?_
    unfold mustReject
    rw [decide_eq_true hduplicate, Bool.true_or]
  unfold dispositionOf
  rw [hsingle, if_neg Bool.false_ne_true, replacement_evaluateOption]

/-- The entries of a list beside what is said of each of them. -/
lemma filter_zip_map {α β γ : Type} (list : List α) (f : α → β) (keep : β → Bool) (g : α → List γ) :
    ((list.zip (list.map f)).filter fun entry => keep entry.2).flatMap (fun entry => g entry.1) =
      (list.filter fun a => keep (f a)).flatMap g := by
  induction list with
  | nil => rfl
  | cons a list ih =>
    rw [List.map_cons, List.zip_cons_cons, List.filter_cons, List.filter_cons]
    cases keep (f a) with
    | false => exact ih
    | true => simp only [if_true, List.flatMap_cons, ih]

/-- **The answer to a well-formed request.** -/
theorem evaluatePeerRequest_eq (policy : SfcPolicy) (magic : Option UInt32) {packet : Packet}
    (hoptions : collectOptions optionParseError packet.data = .ok options) :
    evaluatePeerRequest packet policy magic = .ok (
      if options.any (mustReject policy options) then
        { code := .configureReject
          data := (options.filter (mustReject policy options)).flatMap Tlv.Item.encoded
          configuration := none }
      else if options.any fun option => (suggestion policy magic option).isSome then
        { code := .configureNak
          data := (options.filterMap (suggestion policy magic)).flatMap Tlv.Item.encoded
          configuration := none }
      else
        { code := .configureAck
          data := packet.data
          configuration := some (encodedConfiguration packet.data) }) := by
  have hfst : (evaluateOptions (duplicateTypeMap options) policy magic {} options).1 = _ :=
    evaluateOptions_fst (duplicateTypeMap options) {}
  have hreject : (evaluateOptions (duplicateTypeMap options) policy magic {} options).1.any isReject =
      options.any (mustReject policy options) := by
    rw [hfst, List.any_map]
    congr 1
    funext option
    exact isReject_dispositionOf option
  have hrejected : ((options.zip (evaluateOptions (duplicateTypeMap options) policy magic {} options).1).filter
      fun entry => isReject entry.2).flatMap (fun entry => entry.1.encoded) =
        (options.filter (mustReject policy options)).flatMap Tlv.Item.encoded := by
    rw [hfst, filter_zip_map]
    congr 2
    funext option
    exact isReject_dispositionOf option
  by_cases hany : options.any (mustReject policy options) = true
  · unfold evaluatePeerRequest
    rw [hoptions]
    dsimp only
    rw [hreject, if_pos hany, if_pos hany, hrejected]
  · have hreplacement : ∀ option ∈ options,
        replacement (dispositionOf (duplicateTypeMap options) policy magic {} option) =
          (suggestion policy magic option).map Tlv.Item.encoded := by
      intro option hmem
      exact replacement_dispositionOf fun hmust => hany (List.any_eq_true.mpr ⟨option, hmem, hmust⟩)
    have hnak : (evaluateOptions (duplicateTypeMap options) policy magic {} options).1.any
        (fun disposition => (replacement disposition).isSome) =
          options.any fun option => (suggestion policy magic option).isSome := by
      rw [hfst, List.any_map, Bool.eq_iff_iff, List.any_eq_true, List.any_eq_true]
      refine exists_congr fun option => and_congr_right fun hmem => ?_
      show (replacement (dispositionOf _ _ _ _ option)).isSome = true ↔ _
      rw [hreplacement option hmem, Option.isSome_map]
    have hsuggested : ((evaluateOptions (duplicateTypeMap options) policy magic {} options).1.filterMap
        replacement).flatten = (options.filterMap (suggestion policy magic)).flatMap Tlv.Item.encoded := by
      rw [hfst, List.filterMap_map, List.flatMap_def, List.map_filterMap]
      congr 1
      exact List.filterMap_congr hreplacement
    by_cases hsome : options.any (fun option => (suggestion policy magic option).isSome) = true
    · unfold evaluatePeerRequest
      rw [hoptions]
      dsimp only
      rw [hreject, if_neg hany, if_neg hany, hnak, if_pos hsome, if_pos hsome, hsuggested]
    · have hack : evaluatePeerRequest packet policy magic = .ok {
          code := .configureAck
          data := packet.data
          configuration := some (evaluateOptions (duplicateTypeMap options) policy magic {} options).2 } := by
        unfold evaluatePeerRequest
        rw [hoptions]
        dsimp only
        rw [hreject, if_neg hany, hnak, if_neg hsome]
      have hconfiguration := (evaluatePeerRequest_ack hack rfl).2
      dsimp only at hconfiguration
      rw [hack, if_neg hany, if_neg hsome, hconfiguration]

end Answer

end SnesModem.Rust.PeerAnswer
