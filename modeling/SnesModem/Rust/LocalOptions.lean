import SnesModem.Rust.MagicNumber
import SnesModem.Rust.RestartTimer

/-!
# The local options of the reference LCP machine

* `acceptedNak`, `acceptedReject`: the options of the answers that a machine acts on;
* `localOptions_step`: no other call touches the local options;
* `Proper`: a known option of the right length, a Magic-Number other than zero;
* `Malforms`: a Nak that puts an improper option into the request;
* `requests_stay_proper`: without one, every request of a run is proper.
-/

namespace SnesModem.Rust.LocalOptions

open SnesModem.Lib SnesModem.Rust.ControlPacket SnesModem.Rust.Lcp SnesModem.Rust.Negotiation
open SnesModem.Rust.Negotiation.Machine SnesModem.Rust.NegotiationSteps SnesModem.Rust.LcpRun
open SnesModem.Rust.PeerAnswer (magicOf_magicOctets nextMagic_ne_zero)

/-! ### The answers that a machine acts on -/

/-- The machine takes part in the exchange of Configure packets. -/
def Configuring (m : Machine) : Prop := m.state ≠ .closed ∧ m.state ≠ .stopped ∧ m.state ≠ .closing

instance (m : Machine) : Decidable (Configuring m) := inferInstanceAs (Decidable (_ ∧ _))

/-- The options of an answer to the outstanding request. -/
def answerOptions (m : Machine) (code : Code) : Call → Option (List ConfigurationOption)
  | .receive input _ _ =>
    match Packet.parse input with
    | .error _ => none
    | .ok packet =>
      if Configuring m ∧ knownCode packet = some code ∧ packet.identifier = m.requestIdentifier then
        (collectOptions optionParseError packet.data).toOption
      else none
  | _ => none

/-- The suggestions of the Configure-Nak that the call accepts, if it does. -/
def acceptedNak (m : Machine) (call : Call) : Option (List ConfigurationOption) :=
  (answerOptions m .configureNak call).filter fun suggestions => !hasDuplicateTypes suggestions

/-- The options that are left by the Configure-Reject that the call accepts, if it does. -/
def acceptedReject (m : Machine) (call : Call) : Option (List UInt8) :=
  (answerOptions m .configureReject call).bind (applyReject m.localOptions)

section Step

variable {m : Machine}

lemma localOptions_receiveConfigureRequest (packet : Packet) (nowMs : ℕ) (policy : SfcPolicy) :
    (m.receiveConfigureRequest packet nowMs policy).1.localOptions = m.localOptions := by
  unfold receiveConfigureRequest
  split
  · rfl
  · rename_i evaluation _
    split
    · rfl
    · dsimp only
      generalize hnext : (if decide (evaluation.code = .configureAck) then
        { m with peerConfiguration := evaluation.configuration } else m) = next
      have hsame : next.localOptions = m.localOptions := by
        rw [← hnext]
        split_ifs <;> rfl
      split
      · exact hsame
      · exact hsame
      · split_ifs <;> exact hsame
      · split
        · rename_i after _ hsend
          rw [← localOptions_sendNewRequest next nowMs true, hsend] at hsame
          exact hsame
        · rename_i after _ hsend
          rw [← localOptions_sendNewRequest next nowMs true, hsend] at hsame
          exact hsame
      · exact hsame
      · exact hsame
      · exact hsame

lemma localOptions_receiveConfigureAck (packet : Packet) (nowMs : ℕ) :
    (m.receiveConfigureAck packet nowMs).1.localOptions = m.localOptions := by
  unfold receiveConfigureAck
  split_ifs
  · rfl
  · dsimp only
    split <;> rfl

lemma localOptions_receiveConfigureNak (packet : Packet) (nowMs : ℕ) :
    (m.receiveConfigureNak packet nowMs).1.localOptions =
      (((if packet.identifier = m.requestIdentifier then
        (collectOptions optionParseError packet.data).toOption else none).filter
          fun suggestions => !hasDuplicateTypes suggestions).map (applyNak m.localOptions)).getD m.localOptions := by
  unfold receiveConfigureNak
  by_cases hidentifier : packet.identifier = m.requestIdentifier
  · rw [if_neg (not_not.mpr hidentifier), if_pos hidentifier]
    cases collectOptions optionParseError packet.data with
    | error error => rfl
    | ok suggestions =>
      cases hduplicates : hasDuplicateTypes suggestions with
      | true => simp [Except.toOption, Option.filter_some, hduplicates]
      | false => simp [Except.toOption, Option.filter_some, hduplicates, afterNegativeResponse]
  · rw [if_pos hidentifier, if_neg hidentifier]
    rfl

lemma localOptions_receiveConfigureReject (packet : Packet) (nowMs : ℕ) :
    (m.receiveConfigureReject packet nowMs).1.localOptions =
      ((if packet.identifier = m.requestIdentifier then
        (collectOptions optionParseError packet.data).toOption else none).bind
          (applyReject m.localOptions)).getD m.localOptions := by
  unfold receiveConfigureReject
  by_cases hidentifier : packet.identifier = m.requestIdentifier
  · rw [if_neg (not_not.mpr hidentifier), if_pos hidentifier]
    cases collectOptions optionParseError packet.data with
    | error error => rfl
    | ok rejected =>
      simp only [Except.toOption, Option.bind_some]
      cases applyReject m.localOptions rejected <;> rfl
  · rw [if_pos hidentifier, if_neg hidentifier]
    rfl

lemma answerOptions_of_code {code : Code} {input : List UInt8} {packet : Packet} (nowMs : ℕ) (policy : SfcPolicy)
    (hparse : Packet.parse input = .ok packet) (hcode : knownCode packet ≠ some code) :
    answerOptions m code (.receive input nowMs policy) = none := by
  simp [answerOptions, hparse, hcode]

lemma answerOptions_of_not_configuring {code : Code} (call : Call) (hrests : ¬ Configuring m) :
    answerOptions m code call = none := by
  cases call with
  | receive input nowMs policy =>
    cases hparse : Packet.parse input with
    | error error => simp [answerOptions, hparse]
    | ok packet => simp [answerOptions, hparse, hrests]
  | doOpen nowMs | doClose nowMs | lowerDown | pollTimeout nowMs | rejectProtocol protocol information => rfl

/-- The outcome of a packet in a machine that takes part in the exchange. -/
lemma receive_of_configuring {input : List UInt8} {packet : Packet} (nowMs : ℕ) (policy : SfcPolicy)
    (hconfiguring : Configuring m) (hparse : Packet.parse input = .ok packet) :
    (knownCode packet = some .configureNak → m.receive input nowMs policy = m.receiveConfigureNak packet nowMs) ∧
    (knownCode packet = some .configureReject → m.receive input nowMs policy = m.receiveConfigureReject packet nowMs) := by
  obtain ⟨hclosed, hstopped, hclosing⟩ := hconfiguring
  unfold receive
  rw [if_neg (not_or.mpr ⟨hclosed, hstopped⟩), hparse]
  dsimp only
  rw [if_neg fun h => hclosing h.1]
  constructor
  · intro hcode
    rw [hcode]
  · intro hcode
    rw [hcode]

/-- Packets that are no negative answers, and packets that come when the machine does not take part. -/
lemma localOptions_receive {input : List UInt8} (nowMs : ℕ) (policy : SfcPolicy)
    (hother : ∀ packet, Packet.parse input = .ok packet → Configuring m →
      knownCode packet ≠ some .configureNak ∧ knownCode packet ≠ some .configureReject) :
    (m.receive input nowMs policy).1.localOptions = m.localOptions := by
  unfold receive
  split
  · rfl
  · rename_i hrests
    split
    · rfl
    · rename_i packet hparse
      split
      · rfl
      · rename_i hignored
        split
        · exact localOptions_receiveConfigureRequest packet nowMs policy
        · exact localOptions_receiveConfigureAck packet nowMs
        · rename_i hcode
          have hclosing : m.state ≠ .closing := fun h => hignored ⟨h, by rw [hcode]; rfl⟩
          rw [not_or] at hrests
          exact absurd hcode (hother packet hparse ⟨hrests.1, hrests.2, hclosing⟩).1
        · rename_i hcode
          have hclosing : m.state ≠ .closing := fun h => hignored ⟨h, by rw [hcode]; rfl⟩
          rw [not_or] at hrests
          exact absurd hcode (hother packet hparse ⟨hrests.1, hrests.2, hclosing⟩).2
        · unfold receiveTerminateRequest
          split_ifs <;> rfl
        · unfold receiveTerminateAck
          split_ifs <;> rfl
        · unfold receiveEchoRequest
          dsimp only
          split_ifs <;> rfl
        · split <;> rfl
        · split <;> rfl
        · rfl
        · rfl

/-- **The local options change by accepted answers only.** -/
theorem localOptions_step (call : Call) : (step m call).localOptions =
    match acceptedNak m call with
    | some suggestions => applyNak m.localOptions suggestions
    | none => (acceptedReject m call).getD m.localOptions := by
  -- A call that brings no answer.
  have hsilent (hnak : answerOptions m .configureNak call = none)
      (hreject : answerOptions m .configureReject call = none) (hsame : (step m call).localOptions = m.localOptions) :
      (step m call).localOptions = match acceptedNak m call with
        | some suggestions => applyNak m.localOptions suggestions
        | none => (acceptedReject m call).getD m.localOptions := by
    simp [acceptedNak, acceptedReject, hnak, hreject, hsame]
  cases call with
  | doOpen nowMs =>
    refine hsilent rfl rfl ?_
    unfold step Call.outcome doOpen
    dsimp only
    split_ifs <;> rfl
  | doClose nowMs =>
    refine hsilent rfl rfl ?_
    unfold step Call.outcome doClose
    dsimp only
    split_ifs <;> rfl
  | lowerDown => exact hsilent rfl rfl rfl
  | pollTimeout nowMs =>
    refine hsilent rfl rfl ?_
    unfold step Call.outcome pollTimeout
    dsimp only
    split
    · rfl
    · split_ifs <;> rfl
  | rejectProtocol protocol information =>
    refine hsilent rfl rfl ?_
    unfold step Call.outcome rejectProtocol
    dsimp only
    split_ifs <;> rfl
  | receive input nowMs policy =>
    cases hparse : Packet.parse input with
    | error error =>
      refine hsilent (by simp [answerOptions, hparse]) (by simp [answerOptions, hparse]) ?_
      exact localOptions_receive nowMs policy fun packet hok => by rw [hparse] at hok; cases hok
    | ok packet =>
      by_cases hconfiguring : Configuring m
      · obtain ⟨hnakCall, hrejectCall⟩ := receive_of_configuring nowMs policy hconfiguring hparse
        by_cases hnak : knownCode packet = some .configureNak
        · have hreject : answerOptions m .configureReject (.receive input nowMs policy) = none :=
            answerOptions_of_code nowMs policy hparse (by simp [hnak])
          have hstep : (step m (.receive input nowMs policy)).localOptions = _ :=
            (congrArg (fun outcome : Outcome => outcome.1.localOptions) (hnakCall hnak)).trans
              (localOptions_receiveConfigureNak packet nowMs)
          rw [hstep, acceptedNak, acceptedReject, hreject]
          simp only [answerOptions, hparse, hconfiguring, hnak, true_and, Option.bind_none, Option.getD_none]
          cases Option.filter _ _ <;> rfl
        · have hnone : answerOptions m .configureNak (.receive input nowMs policy) = none :=
            answerOptions_of_code nowMs policy hparse hnak
          by_cases hreject : knownCode packet = some .configureReject
          · have hstep : (step m (.receive input nowMs policy)).localOptions = _ :=
              (congrArg (fun outcome : Outcome => outcome.1.localOptions) (hrejectCall hreject)).trans
                (localOptions_receiveConfigureReject packet nowMs)
            rw [hstep, acceptedNak, acceptedReject, hnone]
            simp [answerOptions, hparse, hconfiguring, hreject]
          · refine hsilent hnone (answerOptions_of_code nowMs policy hparse hreject) ?_
            refine localOptions_receive nowMs policy fun other hother _ => ?_
            obtain rfl : packet = other := by
              rw [hparse] at hother
              exact Except.ok.inj hother
            exact ⟨hnak, hreject⟩
      · refine hsilent (answerOptions_of_not_configuring _ hconfiguring)
          (answerOptions_of_not_configuring _ hconfiguring) ?_
        exact localOptions_receive nowMs policy fun _ _ h => absurd h hconfiguring

end Step

/-! ### Proper options -/

/-- The data of a Maximum-Receive-Unit has two octets, that of an Async-Control-Character-Map and that of a
Magic-Number four. -/
def RightLength (option : ConfigurationOption) : Prop :=
  match knownType option with
  | some .maximumReceiveUnit => option.data.length = 2
  | some .asyncControlCharacterMap => option.data.length = 4
  | some .magicNumber => option.data.length = 4
  | _ => True

/-- The length is right, and a Magic-Number is not zero. -/
def Proper (option : ConfigurationOption) : Prop :=
  RightLength option ∧ (knownType option = some .magicNumber → magicOf option.data ≠ 0)

def ProperOptions (data : List UInt8) : Prop := ∀ option ∈ (Tlv.items data).1, Proper option

instance (option : ConfigurationOption) : Decidable (RightLength option) := by
  unfold RightLength
  split <;> infer_instance

instance (option : ConfigurationOption) : Decidable (Proper option) := inferInstanceAs (Decidable (_ ∧ _))

instance (data : List UInt8) : Decidable (ProperOptions data) := inferInstanceAs (Decidable (∀ _ ∈ _, _))

/-- The call brings a Nak that is accepted, and that suggests an option of a wrong length for a local option. -/
def Malforms (m : Machine) (call : Call) : Prop :=
  ∃ suggestions ∈ acceptedNak m call, ∃ suggestion ∈ suggestions,
    ¬ RightLength suggestion ∧ suggestion.type ∈ (Tlv.items m.localOptions).1.map (·.type)

instance (m : Machine) (call : Call) : Decidable (Malforms m call) :=
  match h : acceptedNak m call with
  | none => .isFalse fun ⟨_, hsome, _⟩ => by
    rw [h] at hsome
    cases hsome
  | some suggestions => decidable_of_iff (∃ suggestion ∈ suggestions,
      ¬ RightLength suggestion ∧ suggestion.type ∈ (Tlv.items m.localOptions).1.map (·.type)) (by
    unfold Malforms
    rw [h]
    simp)

section Proper

variable {option suggestion : ConfigurationOption} {suggestions : List ConfigurationOption}

lemma proper_magicOption {magic : UInt32} (h : magic ≠ 0) : Proper (magicOption magic) := by
  refine ⟨BigEndian.length_octets 4 _, fun _ => ?_⟩
  show magicOf (magicOctets magic) ≠ 0
  rwa [magicOf_magicOctets]

lemma rightLength_congr (htype : suggestion.type = option.type) : knownType suggestion = knownType option := by
  unfold knownType
  rw [htype]

/-- **A suggestion of the right length** leaves a proper option. -/
theorem proper_nakReplacement (hproper : Proper option)
    (hlengths : ∀ suggestion ∈ suggestions, suggestion.type = option.type → RightLength suggestion) :
    Proper (nakReplacement suggestions option) := by
  unfold nakReplacement
  split
  · exact hproper
  · rename_i suggestion hfind
    have htype : suggestion.type = option.type := by simpa using List.find?_some hfind
    have hlength := hlengths suggestion (List.mem_of_find?_eq_some hfind) htype
    have hknown := rightLength_congr htype
    split_ifs with hmagic
    · dsimp only
      split_ifs with hsame
      · exact proper_magicOption (nextMagic_ne_zero _)
      · exact proper_magicOption (not_or.mp hsame).1
    · refine ⟨hlength, fun hmagicNumber => absurd ⟨hknown ▸ hmagicNumber, ?_, ?_⟩ hmagic⟩
      · have hown := hproper.1
        unfold RightLength at hown
        rwa [← hknown, hmagicNumber] at hown
      · unfold RightLength at hlength
        rwa [hmagicNumber] at hlength

/-- A suggestion of a wrong length takes the place of a proper option. -/
lemma not_proper_nakReplacement (hnodup : (suggestions.map (·.type)).Nodup) (hmem : suggestion ∈ suggestions)
    (htype : suggestion.type = option.type) (hwrong : ¬ RightLength suggestion) :
    ¬ Proper (nakReplacement suggestions option) := by
  have hfind : suggestions.find? (fun other => other.type = option.type) = some suggestion := by
    cases hfound : suggestions.find? fun other => other.type = option.type with
    | none =>
      rw [List.find?_eq_none] at hfound
      exact absurd htype (by simpa using hfound suggestion hmem)
    | some other =>
      have hother : other.type = option.type := by simpa using List.find?_some hfound
      exact congrArg some (List.inj_on_of_nodup_map hnodup (List.mem_of_find?_eq_some hfound) hmem
        (hother.trans htype.symm))
  unfold nakReplacement
  rw [hfind]
  dsimp only
  rw [if_neg]
  · exact fun h => hwrong h.1
  · rintro ⟨hmagic, -, hlength⟩
    apply hwrong
    unfold RightLength
    rw [rightLength_congr htype, hmagic]
    exact hlength

lemma items_applyNak (localOptions : List UInt8) (suggestions : List ConfigurationOption) :
    (Tlv.items (applyNak localOptions suggestions)).1 =
      (Tlv.items localOptions).1.map (nakReplacement suggestions) := by
  have hflat : applyNak localOptions suggestions =
      ((Tlv.items localOptions).1.map (nakReplacement suggestions)).flatMap Tlv.Item.encoded := by
    rw [List.flatMap_map]
    rfl
  rw [hflat, Tlv.items_flatMap]

/-- What a Reject leaves is some of the options. -/
lemma items_applyReject {localOptions updated : List UInt8} {rejected : List ConfigurationOption}
    (h : applyReject localOptions rejected = some updated) :
    (Tlv.items updated).1.Sublist (Tlv.items localOptions).1 := by
  unfold applyReject at h
  dsimp only at h
  split_ifs at h
  cases h
  rw [Tlv.items_flatMap]
  exact List.filter_sublist

end Proper

/-! ### The step and the run -/

section Run

variable {m : Machine} {call : Call}

lemma nodup_acceptedNak {suggestions : List ConfigurationOption} (h : acceptedNak m call = some suggestions) :
    (suggestions.map (·.type)).Nodup := by
  rw [acceptedNak, Option.filter_eq_some_iff] at h
  exact (hasDuplicateTypes_eq_false_iff suggestions).mp (by simpa using h.2)

/-- **The step lemma**: proper options stay proper unless the call malforms one. -/
theorem properOptions_step (hproper : ProperOptions m.localOptions) :
    ProperOptions (step m call).localOptions ↔ ¬ Malforms m call := by
  rw [localOptions_step]
  cases hnak : acceptedNak m call with
  | none =>
    have hnot : ¬ Malforms m call := by
      rintro ⟨suggestions, hsome, -⟩
      rw [hnak] at hsome
      cases hsome
    refine iff_of_true ?_ hnot
    cases hreject : acceptedReject m call with
    | none => exact hproper
    | some updated =>
      obtain ⟨rejected, -, happly⟩ := Option.bind_eq_some_iff.mp hreject
      exact fun option hmem => hproper option ((items_applyReject happly).subset hmem)
  | some suggestions =>
    dsimp only
    unfold ProperOptions
    rw [items_applyNak]
    constructor
    · rintro hafter ⟨suggestions', hsome, suggestion, hmem, hwrong, htype⟩
      rw [hnak] at hsome
      cases hsome
      obtain ⟨option, hoption, heq⟩ := List.mem_map.mp htype
      exact not_proper_nakReplacement (nodup_acceptedNak hnak) hmem heq.symm hwrong
        (hafter _ (List.mem_map_of_mem hoption))
    · intro hnot option hmem
      obtain ⟨own, hown, rfl⟩ := List.mem_map.mp hmem
      refine proper_nakReplacement (hproper own hown) fun suggestion hsuggestion htype => ?_
      by_contra hwrong
      refine hnot ⟨suggestions, hnak, suggestion, hsuggestion, hwrong, ?_⟩
      rw [htype]
      exact List.mem_map_of_mem hown

/-- The requests that a call sends carry the options that it leaves. -/
lemma data_of_request (hshort : Short m) {packet : Packet}
    (h : packet ∈ packetsIn .configureRequest (actions m call)) : packet.data = (step m call).localOptions := by
  cases call with
  | doOpen nowMs => exact ((doOpen_steps hshort nowMs).requester.fresh packet h).2
  | pollTimeout nowMs => exact ((pollTimeout_steps hshort nowMs).requester.fresh packet h).2
  | receive input nowMs policy => exact ((receive_steps hshort input nowMs policy).requester.fresh packet h).2
  | doClose nowMs =>
    exfalso
    unfold actions Call.outcome doClose at h
    dsimp only at h
    split_ifs at h
    · cases h
    · cases h
    · change packet ∈ packetsIn .configureRequest
        (emitted (sending [.thisLayerDown] (encode .terminateRequest (m.nextIdentifier + 1) []))) at h
      cases (packetsIn_sending .configureRequest rfl h).1
    · change packet ∈ packetsIn .configureRequest
        (emitted (sending [] (encode .terminateRequest (m.nextIdentifier + 1) []))) at h
      cases (packetsIn_sending .configureRequest rfl h).1
  | lowerDown =>
    exfalso
    unfold actions Call.outcome lowerDown at h
    dsimp only [emitted] at h
    split_ifs at h <;> cases h
  | rejectProtocol protocol information =>
    exfalso
    unfold actions Call.outcome rejectProtocol at h
    dsimp only at h
    split_ifs at h
    · cases h
    · cases (packetsIn_sending .configureRequest rfl h).1

/-- **Without a malforming Nak every request is proper**, by induction on the calls. -/
theorem requests_proper (hsound : RestartTimer.Sound m) (hproper : ProperOptions m.localOptions) {calls : List Call}
    (hguard : Run.Along step (fun m call => ¬ Malforms m call) m calls) :
    ∀ packet ∈ packetsIn .configureRequest (actionsOf m calls), ProperOptions packet.data := by
  induction calls generalizing m with
  | nil => intro packet h; cases h
  | cons call calls ih =>
    have hafter := (properOptions_step hproper).mpr hguard.1
    intro packet h
    rw [actionsOf, packetsIn_append, List.mem_append] at h
    rcases h with h | h
    · rw [data_of_request hsound.short h]
      exact hafter
    · exact ih (RestartTimer.sound_step hsound call) hafter hguard.2 packet h

end Run

/-- **Every Configure-Request is proper** in a run from proper local options, if no accepted Nak suggests an option
of a wrong length. -/
theorem requests_stay_proper {localOptions : List UInt8} {settings : Settings} {new : Machine}
    (hnew : Machine.new localOptions settings = .ok new) (hproper : ProperOptions localOptions) (calls : List Call)
    (hguard : Run.Along step (fun m call => ¬ Malforms m call) new calls) :
    ∀ packet ∈ packetsIn .configureRequest (actionsOf new calls), ProperOptions packet.data := by
  have hoptions : new.localOptions = localOptions := by
    unfold Machine.new at hnew
    split at hnew
    · cases hnew
    · cases hnew
      rfl
  exact requests_proper (RestartTimer.sound_new hnew) (hoptions ▸ hproper) hguard

/-- A machine that requests an MRU of 1500, and is offered one of 512 for it. -/
def mruCalls : List Call := [.doOpen 0, .receive [3, 1, 0, 8, 1, 4, 2, 0] 10 {}]

theorem requests_stay_proper_mru : ProperOptions (Packet.mk 1 2 [1, 4, 2, 0]).data :=
  requests_stay_proper (show Machine.new [1, 4, 5, 220] ⟨3000, 10, 2⟩ = .ok _ from rfl) (by decide +kernel) mruCalls
    (by decide +kernel) ⟨1, 2, [1, 4, 2, 0]⟩ (by decide +kernel)

/-- The same machine, offered a Maximum-Receive-Unit without a value. -/
def emptyMruCalls : List Call := [.doOpen 0, .receive [3, 1, 0, 6, 1, 2] 10 {}]

theorem empty_mru_is_requested : ¬ ∀ localOptions settings new calls, Machine.new localOptions settings = .ok new →
    ProperOptions localOptions →
    ∀ packet ∈ packetsIn .configureRequest (actionsOf new calls), ProperOptions packet.data := by
  intro h
  have hall := h [1, 4, 5, 220] ⟨3000, 10, 2⟩ _ emptyMruCalls rfl (by decide +kernel)
  exact absurd hall (by decide +kernel)

end SnesModem.Rust.LocalOptions
