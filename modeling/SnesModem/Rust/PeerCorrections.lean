import SnesModem.Rust.PeerAnswer

/-!
# A peer that follows the answers to its Configure-Requests

* `corrected`: the next request of a peer that drops what was rejected and takes what was suggested;
* `request_converges`: after at most two corrections it is acknowledged.
-/

namespace SnesModem.Rust.PeerCorrections

open SnesModem.Lib SnesModem.Rust.ControlPacket SnesModem.Rust.Lcp SnesModem.Rust.Negotiation
open SnesModem.Rust.PeerRequest SnesModem.Rust.PeerAnswer

/-! ### Corrections -/

/-- The next request of a peer that follows an answer: what was rejected is dropped, octet for octet, and what was
suggested takes the place of the option of its type. -/
def corrected (packet : Packet) (answer : PeerEvaluation) : Packet :=
  let options := (Tlv.items packet.data).1
  let answered := (Tlv.items answer.data).1
  match answer.code with
  | .configureReject => { packet with
      data := (options.filter fun option =>
        !answered.any fun rejected => rejected.encoded = option.encoded).flatMap Tlv.Item.encoded }
  | .configureNak => { packet with
      data := (options.map fun option =>
        (answered.find? fun suggested => suggested.type = option.type).getD option).flatMap Tlv.Item.encoded }
  | _ => packet

section Corrections

variable {policy : SfcPolicy} {magic : Option UInt32} {options : List ConfigurationOption} {packet : Packet}

lemma items_of_collectOptions (hoptions : collectOptions optionParseError packet.data = .ok options) :
    (Tlv.items packet.data).1 = options := by
  rw [← flatMap_of_collectOptions optionParseError hoptions, Tlv.items_flatMap]

/-- **The peer drops** exactly the options that have to be rejected. -/
lemma corrected_reject (hoptions : collectOptions optionParseError packet.data = .ok options) {answer : PeerEvaluation}
    (hcode : answer.code = .configureReject)
    (hdata : answer.data = (options.filter (mustReject policy options)).flatMap Tlv.Item.encoded) :
    corrected packet answer = { packet with
      data := (options.filter fun option => !mustReject policy options option).flatMap Tlv.Item.encoded } := by
  unfold corrected
  rw [hcode, hdata, Tlv.items_flatMap, items_of_collectOptions hoptions]
  dsimp only
  congr 2
  refine List.filter_congr fun option hmem => ?_
  congr 1
  rw [Bool.eq_iff_iff, List.any_eq_true]
  constructor
  · rintro ⟨rejected, hrejected, hsame⟩
    rw [decide_eq_true_eq] at hsame
    rw [← Tlv.eq_of_encoded hsame]
    exact (List.mem_filter.mp hrejected).2
  · intro hmust
    exact ⟨option, List.mem_filter.mpr ⟨hmem, hmust⟩, decide_eq_true rfl⟩

/-- The options that are left have nothing to be rejected. -/
lemma mustReject_filter {option : ConfigurationOption}
    (hmem : option ∈ options.filter fun option => !mustReject policy options option) :
    mustReject policy (options.filter fun option => !mustReject policy options option) option = false := by
  have hkept := (List.mem_filter.mp hmem).2
  rw [Bool.not_eq_true'] at hkept
  unfold mustReject at hkept ⊢
  rw [Bool.or_eq_false_iff] at hkept ⊢
  refine ⟨decide_eq_false fun hcount => of_decide_eq_false hkept.1 ?_, hkept.2⟩
  exact hcount.trans (List.Sublist.count_le _ (List.filter_sublist.map _))

/-- The types of options of which none is to be rejected. -/
lemma nodup_types (hclean : ∀ option ∈ options, mustReject policy options option = false) :
    (options.map (·.type)).Nodup := by
  rw [List.nodup_iff_count_le_one]
  intro type
  by_contra hcount
  have hmem : type ∈ options.map (·.type) := List.one_le_count_iff.mp (by omega)
  obtain ⟨option, hoption, rfl⟩ := List.mem_map.mp hmem
  have hkept := hclean option hoption
  unfold mustReject at hkept
  rw [Bool.or_eq_false_iff] at hkept
  exact of_decide_eq_false hkept.1 (by omega)

/-- Of options of different types each finds its own suggestion. -/
lemma find_suggestion (hnodup : (options.map (·.type)).Nodup) {option : ConfigurationOption}
    (hmem : option ∈ options) :
    (options.filterMap (suggestion policy magic)).find? (fun suggested => suggested.type = option.type) =
      suggestion policy magic option := by
  induction options with
  | nil => contradiction
  | cons first options ih =>
    rw [List.map_cons, List.nodup_cons] at hnodup
    obtain ⟨hnotin, hnodup⟩ := hnodup
    rcases List.mem_cons.mp hmem with rfl | hmem
    · cases hfirst : suggestion policy magic option with
      | some suggested =>
        rw [List.filterMap_cons_some hfirst]
        exact List.find?_cons_of_pos (decide_eq_true (of_suggestion hfirst).1)
      | none =>
        rw [List.filterMap_cons_none hfirst, List.find?_eq_none]
        intro suggested hsuggested hsame
        obtain ⟨other, hother, hfound⟩ := List.mem_filterMap.mp hsuggested
        rw [decide_eq_true_eq, (of_suggestion hfound).1] at hsame
        exact hnotin (hsame ▸ List.mem_map_of_mem hother)
    · have hother : first.type ≠ option.type := fun h => hnotin (h ▸ List.mem_map_of_mem hmem)
      cases hfirst : suggestion policy magic first with
      | none => rw [List.filterMap_cons_none hfirst, ih hnodup hmem]
      | some suggested =>
        have hskip : decide (suggested.type = option.type) = false := by
          rw [decide_eq_false_iff_not, (of_suggestion hfirst).1]
          exact hother
        simp only [List.filterMap_cons_some hfirst, List.find?_cons, hskip]
        exact ih hnodup hmem

/-- **The peer takes** the suggestions. -/
lemma corrected_nak (hoptions : collectOptions optionParseError packet.data = .ok options)
    (hnodup : (options.map (·.type)).Nodup) {answer : PeerEvaluation} (hcode : answer.code = .configureNak)
    (hdata : answer.data = (options.filterMap (suggestion policy magic)).flatMap Tlv.Item.encoded) :
    corrected packet answer = { packet with
      data := (options.map fun option =>
        (suggestion policy magic option).getD option).flatMap Tlv.Item.encoded } := by
  unfold corrected
  rw [hcode, hdata, Tlv.items_flatMap, items_of_collectOptions hoptions]
  dsimp only
  congr 2
  refine List.map_congr_left fun option hmem => ?_
  rw [find_suggestion hnodup hmem]

end Corrections

/-! ### Convergence -/

section Convergence

variable {policy : SfcPolicy} {magic : Option UInt32} {options : List ConfigurationOption} {packet : Packet}

/-- Acceptable options of different types are acknowledged. -/
lemma evaluatePeerRequest_acks (policy : SfcPolicy) (magic : Option UInt32)
    (hoptions : collectOptions optionParseError packet.data = .ok options)
    (hnodup : (options.map (·.type)).Nodup)
    (hack : ∀ option ∈ options, (evaluateOption option policy magic {}).1 = .ack) :
    ∃ answer, evaluatePeerRequest packet policy magic = .ok answer ∧ answer.code = .configureAck := by
  have hkept : ¬ options.any (mustReject policy options) = true := by
    rw [List.any_eq_true]
    rintro ⟨option, hmem, hmust⟩
    have hsupported : isReject (evaluateOption option policy magic {}).1 = _ := isReject_evaluateOption {}
    unfold mustReject at hmust
    rw [← hsupported, hack option hmem, Bool.or_eq_true, decide_eq_true_eq] at hmust
    rcases hmust with hcount | hreject
    · have hone := List.nodup_iff_count_le_one.mp hnodup option.type
      omega
    · cases hreject
  have hnone : ¬ options.any (fun option => (suggestion policy magic option).isSome) = true := by
    rw [List.any_eq_true]
    rintro ⟨option, hmem, hsome⟩
    unfold suggestion at hsome
    rw [hack option hmem] at hsome
    cases hsome
  exact ⟨_, evaluatePeerRequest_eq policy magic hoptions, by rw [if_neg hkept, if_neg hnone]⟩

/-- With the suggestions in it each option is acceptable. -/
lemma evaluateOption_getD {option : ConfigurationOption} (hsupported : unsupported policy option = false) :
    (evaluateOption ((suggestion policy magic option).getD option) policy magic {}).1 = .ack := by
  cases hsuggestion : suggestion policy magic option with
  | none => exact evaluateOption_eq_ack {} hsupported hsuggestion
  | some suggested => exact (of_suggestion hsuggestion).2 {}

lemma type_getD (option : ConfigurationOption) : ((suggestion policy magic option).getD option).type = option.type := by
  cases hsuggestion : suggestion policy magic option with
  | none => rfl
  | some suggested => exact (of_suggestion hsuggestion).1

/-- A corrected request is well formed. -/
lemma collectOptions_corrected (packet : Packet) (options : List ConfigurationOption) :
    collectOptions optionParseError { packet with data := options.flatMap Tlv.Item.encoded }.data = .ok options :=
  collectOptions_flatMap optionParseError options

lemma corrected_ack {answer : PeerEvaluation} (hcode : answer.code = .configureAck) :
    corrected packet answer = packet := by
  unfold corrected
  rw [hcode]

/-- A request without options to be rejected is acknowledged, at once or with the suggestions in it. -/
lemma clean_converges (magic : Option UInt32) (hoptions : collectOptions optionParseError packet.data = .ok options)
    (hclean : ∀ option ∈ options, mustReject policy options option = false) :
    ∃ answer final, evaluatePeerRequest packet policy magic = .ok answer ∧
      evaluatePeerRequest (corrected packet answer) policy magic = .ok final ∧
      (answer.code = .configureAck ∨ answer.code = .configureNak) ∧ final.code = .configureAck := by
  have hnodup := nodup_types hclean
  have hkept : ¬ options.any (mustReject policy options) = true := by
    rw [List.any_eq_true]
    rintro ⟨option, hmem, hmust⟩
    rw [hclean option hmem] at hmust
    cases hmust
  have hanswer := evaluatePeerRequest_eq policy magic hoptions
  rw [if_neg hkept] at hanswer
  by_cases hsome : options.any (fun option => (suggestion policy magic option).isSome) = true
  · rw [if_pos hsome] at hanswer
    have hcorrected : corrected packet {
        code := .configureNak
        data := (options.filterMap (suggestion policy magic)).flatMap Tlv.Item.encoded
        configuration := none } = _ := corrected_nak hoptions hnodup rfl rfl
    have htypes : ((options.map fun option => (suggestion policy magic option).getD option).map (·.type)) =
        options.map (·.type) := by
      rw [List.map_map]
      exact List.map_congr_left fun option _ => type_getD option
    have hacks : ∀ option ∈ options.map (fun option => (suggestion policy magic option).getD option),
        (evaluateOption option policy magic {}).1 = .ack := by
      intro option hmem
      obtain ⟨own, hown, rfl⟩ := List.mem_map.mp hmem
      have hkept := hclean own hown
      unfold mustReject at hkept
      rw [Bool.or_eq_false_iff] at hkept
      exact evaluateOption_getD hkept.2
    rw [← htypes] at hnodup
    obtain ⟨final, hfinal, hack⟩ := evaluatePeerRequest_acks policy magic
      (collectOptions_corrected packet (options.map fun option => (suggestion policy magic option).getD option)) hnodup
      hacks
    exact ⟨_, final, hanswer, by rw [hcorrected]; exact hfinal, Or.inr rfl, hack⟩
  · rw [if_neg hsome] at hanswer
    exact ⟨_, _, hanswer, by rw [corrected_ack rfl]; exact hanswer, Or.inl rfl, rfl⟩

/-- The answer to a request, from the options that have to be rejected. -/
structure Answered (policy : SfcPolicy) (magic : Option UInt32) (packet : Packet) (options : List ConfigurationOption)
    (answer : PeerEvaluation) : Prop where
  /-- A Reject comes before a Nak. -/
  rejects_iff : answer.code = .configureReject ↔ options.any (mustReject policy options) = true
  rejected : answer.code = .configureReject →
    answer.data = (options.filter (mustReject policy options)).flatMap Tlv.Item.encoded
  suggested : answer.code = .configureNak →
    answer.data = (options.filterMap (suggestion policy magic)).flatMap Tlv.Item.encoded
  acknowledged : answer.code = .configureAck →
    answer.data = packet.data ∧ answer.configuration = some (encodedConfiguration packet.data)

lemma answered {answer : PeerEvaluation} (hoptions : collectOptions optionParseError packet.data = .ok options)
    (hanswer : evaluatePeerRequest packet policy magic = .ok answer) : Answered policy magic packet options answer := by
  rw [evaluatePeerRequest_eq policy magic hoptions] at hanswer
  cases hanswer
  split_ifs with hany hnak
  · exact ⟨iff_of_true rfl hany, fun _ => rfl, nofun, nofun⟩
  · exact ⟨iff_of_false nofun hany, nofun, fun _ => rfl, nofun⟩
  · exact ⟨iff_of_false nofun hany, nofun, nofun, fun _ => ⟨rfl, rfl⟩⟩

/-- **A peer that follows the answers** has its request acknowledged after at most two corrections, for every policy and
local Magic-Number, and is taken to have the configuration of that request. -/
theorem request_converges (packet : Packet) (policy : SfcPolicy) (magic : Option UInt32)
    (options : List ConfigurationOption) (hoptions : collectOptions optionParseError packet.data = .ok options) :
    ∃ first second final,
      evaluatePeerRequest packet policy magic = .ok first ∧ Answered policy magic packet options first ∧
      evaluatePeerRequest (corrected packet first) policy magic = .ok second ∧
      (second.code = .configureAck ∨ first.code = .configureReject ∧ second.code = .configureNak) ∧
      evaluatePeerRequest (corrected (corrected packet first) second) policy magic = .ok final ∧
      final.code = .configureAck ∧ final.data = (corrected (corrected packet first) second).data ∧
      final.configuration = some (encodedConfiguration (corrected (corrected packet first) second).data) := by
  have hfirst := evaluatePeerRequest_eq policy magic hoptions
  by_cases hany : options.any (mustReject policy options) = true
  · rw [if_pos hany] at hfirst
    have hcorrected : corrected packet {
        code := .configureReject
        data := (options.filter (mustReject policy options)).flatMap Tlv.Item.encoded
        configuration := none } = _ := corrected_reject hoptions rfl rfl
    obtain ⟨second, final, hsecond, hfinal, hcode, hack⟩ := clean_converges magic
      (collectOptions_corrected packet (options.filter fun option => !mustReject policy options option))
      fun option hmem => mustReject_filter hmem
    obtain ⟨hdata, hconfiguration⟩ := evaluatePeerRequest_ack hfinal hack
    refine ⟨_, second, final, hfirst, answered hoptions hfirst, ?_, ?_, ?_, hack, ?_, ?_⟩
    · rw [hcorrected]
      exact hsecond
    · exact hcode.imp_right fun hnak => ⟨rfl, hnak⟩
    · rw [hcorrected]
      exact hfinal
    · rw [hcorrected]
      exact hdata
    · rw [hcorrected]
      exact hconfiguration
  · obtain ⟨first, second, hfirst, hsecond, -, hack⟩ := clean_converges magic hoptions fun option hmem =>
      Bool.eq_false_of_not_eq_true fun hmust => hany (List.any_eq_true.mpr ⟨option, hmem, hmust⟩)
    have hdone : corrected (corrected packet first) second = corrected packet first := corrected_ack hack
    obtain ⟨hdata, hconfiguration⟩ := evaluatePeerRequest_ack hsecond hack
    refine ⟨first, second, second, hfirst, answered hoptions hfirst, hsecond, Or.inl hack, ?_, hack, ?_, ?_⟩
    · rw [hdone]
      exact hsecond
    · rw [hdone]
      exact hdata
    · rw [hdone]
      exact hconfiguration

/-- An MRU of zero, field compression, and the Magic-Number of the machine itself. -/
def firstRequest : List ConfigurationOption :=
  [⟨1, [0, 0], by decide⟩, ⟨7, [], by decide⟩, magicOption 5]

theorem request_converges_short : ∃ first second final : PeerEvaluation,
    evaluatePeerRequest ⟨1, 9, firstRequest.flatMap Tlv.Item.encoded⟩ {} (some 5) = .ok first ∧
      first.code = .configureReject ∧
      first.data = (firstRequest.filter (mustReject {} firstRequest)).flatMap Tlv.Item.encoded ∧
      evaluatePeerRequest (corrected (corrected ⟨1, 9, firstRequest.flatMap Tlv.Item.encoded⟩ first) second) {}
        (some 5) = .ok final ∧ final.code = .configureAck := by
  obtain ⟨first, second, final, hfirst, hanswered, -, -, hfinal, hack, -⟩ := request_converges
    ⟨1, 9, firstRequest.flatMap Tlv.Item.encoded⟩ {} (some 5) firstRequest (collectOptions_flatMap _ _)
  have hreject : first.code = .configureReject := hanswered.rejects_iff.mpr (by decide)
  exact ⟨first, second, final, hfirst, hreject, hanswered.rejected hreject, hfinal, hack⟩

end Convergence

end SnesModem.Rust.PeerCorrections
