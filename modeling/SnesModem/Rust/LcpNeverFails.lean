import SnesModem.Rust.LcpPanics

/-!
# No operation of the reference LCP machine fails

* `DistinctTypes`, `Distinct`: local options of pairwise distinct types, which a call keeps;
* `Distinct.fits`, `response_fits`: the packets that a machine with such options sends are short enough;
* `call_ok`: no call returns an error;
* `never_fails`: no call of a run panics or returns an error.
-/

namespace SnesModem.Rust.LcpPanics

open SnesModem.Lib SnesModem.Rust.ControlPacket SnesModem.Rust.Lcp SnesModem.Rust.Negotiation
open SnesModem.Rust.Negotiation.Machine (peerMru sending)
open SnesModem.Rust.LcpRun SnesModem.Rust.NegotiationSteps

/-- Options of pairwise distinct types. -/
def DistinctTypes (data : List UInt8) : Prop :=
  ∃ options : List ConfigurationOption, data = options.flatMap Tlv.Item.encoded ∧ (options.map (·.type)).Nodup

/-- The local options have pairwise distinct types. -/
def Distinct (m : Machine) : Prop := DistinctTypes m.localOptions

/-! ### Lengths -/

section Lengths

lemma nodup_length_le {types : List UInt8} (h : types.Nodup) : types.length ≤ 256 := by
  have hnodup : (types.map UInt8.toNat).Nodup := h.map fun _ _ heq => UInt8.toNat_inj.mp heq
  have hsubset : types.map UInt8.toNat ⊆ List.range 256 := by
    intro n hn
    obtain ⟨type, -, rfl⟩ := List.mem_map.mp hn
    exact List.mem_range.mpr type.toNat_lt
  have hlength := (List.subperm_of_subset hnodup hsubset).length_le
  simpa using hlength

/-- Octets of pieces, none longer than a bound. -/
lemma length_flatten_le {bound : ℕ} {pieces : List (List UInt8)} (h : ∀ piece ∈ pieces, piece.length ≤ bound) :
    pieces.flatten.length ≤ pieces.length * bound := by
  induction pieces with
  | nil => simp
  | cons piece pieces ih =>
    have hrest := ih fun other hother => h other (List.mem_cons_of_mem _ hother)
    have hfirst := h piece List.mem_cons_self
    rw [List.flatten_cons, List.length_append, List.length_cons, Nat.succ_mul]
    omega

/-- **Options of distinct types fit a packet**. -/
lemma Distinct.fits {m : Machine} (h : Distinct m) : headerLength + m.localOptions.length < 2 ^ 16 := by
  obtain ⟨options, hoptions, hnodup⟩ := h
  have hcount := nodup_length_le hnodup
  have hbound : (options.map Tlv.Item.encoded).flatten.length ≤ (options.map Tlv.Item.encoded).length * 255 := by
    refine length_flatten_le fun piece hpiece => ?_
    obtain ⟨option, -, rfl⟩ := List.mem_map.mp hpiece
    have hfits := option.fits
    rw [Tlv.length_encoded]
    omega
  have hheader : headerLength = 4 := rfl
  rw [hoptions, List.flatMap_def]
  simp only [List.length_map] at hbound hcount
  omega

lemma Distinct.readable {m : Machine} (h : Distinct m) : Readable m.localOptions := by
  obtain ⟨options, hoptions, -⟩ := h
  rw [Readable, hoptions, Tlv.items_flatMap]

/-- The options of a Reject are some of the peer's. -/
lemma length_rejected_le (options : List ConfigurationOption) (dispositions : List OptionDisposition) :
    (((options.zip dispositions).filter fun entry => isReject entry.2).flatMap fun entry => entry.1.encoded).length ≤
      (options.flatMap Tlv.Item.encoded).length := by
  induction options generalizing dispositions with
  | nil => simp
  | cons option options ih =>
    cases dispositions with
    | nil => simp
    | cons disposition dispositions =>
      have hrest := ih dispositions
      rw [List.zip_cons_cons, List.filter_cons, List.flatMap_cons, List.length_append]
      split_ifs
      · rw [List.flatMap_cons, List.length_append]
        dsimp only
        omega
      · omega

/-- No replacement is longer than six octets. -/
lemma length_replacement_le {option : ConfigurationOption} {policy : SfcPolicy} {magic : Option UInt32}
    {configuration : PeerConfiguration} {data : List UInt8}
    (h : replacement (Negotiation.evaluateOption option policy magic configuration).1 = some data) : data.length ≤ 6 := by
  have hmagic (magic : UInt32) : (magicOption magic).encoded.length = 6 := by
    rw [Tlv.length_encoded]
    exact congrArg (· + 2) (BigEndian.length_octets 4 _)
  unfold Negotiation.evaluateOption at h
  split at h
  · dsimp only at h
    split_ifs at h <;> cases h
    simp
  · split_ifs at h <;> cases h
    simp
  · split_ifs at h <;> cases h <;> simp
  · dsimp only at h
    split_ifs at h <;> cases h
    rw [hmagic]
  · cases h

/-- Without a rejected option no type occurs twice, and the replacements are short. -/
lemma evaluateOptions_short {duplicates : UInt8 → Bool} {policy : SfcPolicy} {magic : Option UInt32}
    (configuration : PeerConfiguration) {options : List ConfigurationOption}
    (h : ∀ disposition ∈ (Negotiation.evaluateOptions duplicates policy magic configuration options).1,
      isReject disposition = false) :
    (∀ option ∈ options, duplicates option.type = false) ∧
    (Negotiation.evaluateOptions duplicates policy magic configuration options).1.length = options.length ∧
    ∀ data ∈ (Negotiation.evaluateOptions duplicates policy magic configuration options).1.filterMap replacement,
      data.length ≤ 6 := by
  induction options generalizing configuration with
  | nil => exact ⟨by simp, rfl, by simp [Negotiation.evaluateOptions]⟩
  | cons option options ih =>
    unfold Negotiation.evaluateOptions at h ⊢
    cases hduplicate : duplicates option.type with
    | true =>
      rw [hduplicate] at h
      exact absurd (h .reject (by simp)) (by simp [isReject])
    | false =>
      simp only [hduplicate, Bool.false_eq_true, if_false, List.mem_cons, forall_eq_or_imp] at h ⊢
      obtain ⟨hduplicates, hlength, hshort⟩ := ih _ h.2
      refine ⟨⟨trivial, hduplicates⟩, by simp [hlength], fun data hdata => ?_⟩
      rw [List.filterMap_cons] at hdata
      split at hdata
      · exact hshort data hdata
      · rename_i first hfirst
        rcases List.mem_cons.mp hdata with rfl | hrest
        · exact length_replacement_le hfirst
        · exact hshort data hrest

/-- **The response fits a packet**: a Reject and an Ack are made of the request, and a Nak has at most one short
replacement for each type. -/
lemma response_fits {packet : Packet} {policy : SfcPolicy} {magic : Option UInt32} {evaluation : PeerEvaluation}
    (h : Negotiation.evaluatePeerRequest packet policy magic = .ok evaluation)
    (hpacket : headerLength + packet.data.length < 2 ^ 16) : headerLength + evaluation.data.length < 2 ^ 16 := by
  unfold Negotiation.evaluatePeerRequest at h
  cases hoptions : ControlPacket.collectOptions optionParseError packet.data with
  | error error => simp [hoptions] at h
  | ok options =>
    have hdata := flatMap_of_collectOptions optionParseError hoptions
    rw [hoptions] at h
    dsimp only at h
    split_ifs at h with hreject hnak
    · cases h
      have hle := length_rejected_le options
        (Negotiation.evaluateOptions (duplicateTypeMap options) policy magic {} options).1
      rw [hdata] at hle
      dsimp only
      omega
    · cases h
      rw [Bool.not_eq_true, List.any_eq_false] at hreject
      obtain ⟨hduplicates, hlength, hshort⟩ := evaluateOptions_short {} fun disposition hmem => by
        simpa using hreject disposition hmem
      have hnodup : (options.map (·.type)).Nodup := by
        rw [List.nodup_iff_count_le_one]
        intro type
        by_contra hmany
        have hmem : type ∈ options.map (·.type) := List.count_pos_iff.mp (by omega)
        obtain ⟨option, hoption, rfl⟩ := List.mem_map.mp hmem
        have hsingle := hduplicates option hoption
        rw [duplicateTypeMap_eq, decide_eq_false_iff_not] at hsingle
        omega
      have hcount := nodup_length_le hnodup
      have hpieces := length_flatten_le hshort
      have hfewer := List.length_filterMap_le replacement
        (Negotiation.evaluateOptions (duplicateTypeMap options) policy magic {} options).1
      have hheader : headerLength = 4 := rfl
      rw [List.length_map] at hcount
      dsimp only
      omega
    · cases h
      exact hpacket

end Lengths

/-! ### Success -/

section Success

variable {m : Machine}

/-- A call that ends with a packet that fits. -/
lemma sending_ok {code : Code} {identifier : UInt8} {data : List UInt8} (actions : List Action)
    (hfits : headerLength + data.length < 2 ^ 16) :
    ∃ transition, sending actions (Negotiation.encode code identifier data) = .ok transition := by
  obtain ⟨octets, hencode⟩ : ∃ octets, Negotiation.encode code identifier data = .ok octets := encode_ok hfits
  rw [hencode]
  exact ⟨_, rfl⟩

lemma distinctTypes_applyNak {data : List UInt8} (h : DistinctTypes data) (suggestions : List ConfigurationOption) :
    DistinctTypes (Negotiation.applyNak data suggestions) := by
  obtain ⟨options, rfl, hnodup⟩ := h
  have htypes : (fun option : ConfigurationOption => option.type) ∘ Negotiation.nakReplacement suggestions = (·.type) := by
    funext option
    exact MagicNumber.type_nakReplacement option
  refine ⟨options.map (Negotiation.nakReplacement suggestions), ?_, ?_⟩
  · unfold Negotiation.applyNak
    rw [Tlv.items_flatMap, List.flatMap_map]
  · rw [List.map_map, htypes]
    exact hnodup

lemma distinctTypes_applyReject {data updated : List UInt8} {rejected : List ConfigurationOption} (h : DistinctTypes data)
    (happly : Negotiation.applyReject data rejected = some updated) : DistinctTypes updated := by
  obtain ⟨options, rfl, hnodup⟩ := h
  unfold Negotiation.applyReject at happly
  dsimp only at happly
  split_ifs at happly
  cases happly
  refine ⟨_, rfl, hnodup.sublist (List.Sublist.map _ ?_)⟩
  rw [Tlv.items_flatMap]
  exact List.filter_sublist

/-- **A call keeps the types distinct.** -/
theorem distinct_step (h : Distinct m) (call : Call) : Distinct (step m call) := by
  unfold Distinct
  rw [LocalOptions.localOptions_step]
  cases LocalOptions.acceptedNak m call with
  | some suggestions => exact distinctTypes_applyNak h suggestions
  | none =>
    cases hreject : LocalOptions.acceptedReject m call with
    | none => exact h
    | some updated =>
      obtain ⟨rejected, -, happly⟩ := Option.bind_eq_some_iff.mp hreject
      exact distinctTypes_applyReject h happly

lemma sendNewRequest_ok (h : Distinct m) (nowMs : ℕ) (resetCounter : Bool) (actions : List Action) :
    ∃ transition, sending actions (m.sendNewRequest nowMs resetCounter).2 = .ok transition := sending_ok actions h.fits

lemma receiveConfigureRequest_ok (h : Distinct m) {packet : Packet}
    (hpacket : headerLength + packet.data.length < 2 ^ 16) (nowMs : ℕ) (policy : SfcPolicy) :
    ∃ transition, (m.receiveConfigureRequest packet nowMs policy).2 = .ok transition := by
  unfold Negotiation.Machine.receiveConfigureRequest
  cases hevaluation : Negotiation.evaluatePeerRequest packet policy (Negotiation.localMagic m.localOptions) with
  | error error => exact ⟨_, rfl⟩
  | ok evaluation =>
    obtain ⟨response, hencode⟩ : ∃ response, Negotiation.encode evaluation.code packet.identifier evaluation.data =
        .ok response := encode_ok (response_fits hevaluation hpacket)
    dsimp only
    rw [hencode]
    dsimp only
    generalize hnext : (if decide (evaluation.code = .configureAck) then
      { m with peerConfiguration := evaluation.configuration } else m) = next
    have hoptions : next.localOptions = m.localOptions := by
      rw [← hnext]
      split_ifs <;> rfl
    have hdistinct : Distinct next := by
      unfold Distinct
      rw [hoptions]
      exact h
    split
    · exact ⟨_, rfl⟩
    · exact ⟨_, rfl⟩
    · split_ifs <;> exact ⟨_, rfl⟩
    · obtain ⟨request, hrequest⟩ : ∃ request, Negotiation.encode .configureRequest (next.nextIdentifier + 1)
          next.localOptions = .ok request := encode_ok hdistinct.fits
      have hsend : next.sendNewRequest nowMs true = ((next.sendNewRequest nowMs true).1, .ok request) :=
        Prod.ext rfl hrequest
      rw [hsend]
      exact ⟨_, rfl⟩
    · exact ⟨_, rfl⟩
    · exact ⟨_, rfl⟩
    · exact ⟨_, rfl⟩

lemma receiveConfigureAck_ok (h : Distinct m) (packet : Packet) (nowMs : ℕ) :
    ∃ transition, (m.receiveConfigureAck packet nowMs).2 = .ok transition := by
  unfold Negotiation.Machine.receiveConfigureAck
  split_ifs
  · exact ⟨_, rfl⟩
  · dsimp only
    split
    · exact ⟨_, rfl⟩
    · exact ⟨_, rfl⟩
    · exact sendNewRequest_ok h nowMs false _
    · exact sendNewRequest_ok h nowMs false _
    · exact ⟨_, rfl⟩
    · exact ⟨_, rfl⟩
    · exact ⟨_, rfl⟩

/-- The packets that carry back what came are bounded by the peer's MRU, a number of 16 bits. -/
lemma peerMru_lt (m : Machine) (least : ℕ) (hleast : least < 2 ^ 16) : peerMru m least < 2 ^ 16 := by
  have hmru := (m.peerConfiguration.getD {}).transmitMru.toNat_lt
  unfold Negotiation.Machine.peerMru
  omega

lemma receiveEchoRequest_ok (packet : Packet) : ∃ transition, (m.receiveEchoRequest packet).2 = .ok transition := by
  unfold Negotiation.Machine.receiveEchoRequest
  dsimp only
  split_ifs
  · exact ⟨_, rfl⟩
  · exact ⟨_, rfl⟩
  · exact ⟨_, rfl⟩
  · have hmru := peerMru_lt m 8 (by omega)
    have hmagic : (magicOctets (m.acknowledgedLocalMagic.getD 0)).length = 4 := BigEndian.length_octets 4 _
    have hheader : headerLength = 4 := rfl
    refine sending_ok [] ?_
    rw [List.length_append, hmagic, List.length_take]
    omega

lemma receiveUnknownCode_ok (input : List UInt8) (packet : Packet) :
    ∃ transition, (m.receiveUnknownCode input packet).2 = .ok transition := by
  have hmru := peerMru_lt m 8 (by omega)
  have hheader : headerLength = 4 := rfl
  refine sending_ok [] ?_
  rw [List.length_take]
  omega

lemma afterNegativeResponse_ok (h : Distinct m) (nowMs : ℕ) :
    ∃ transition, (m.afterNegativeResponse nowMs).2 = .ok transition := sending_ok _ h.fits

lemma receiveConfigureNak_ok (h : Distinct m) (packet : Packet) (nowMs : ℕ) :
    ∃ transition, (m.receiveConfigureNak packet nowMs).2 = .ok transition := by
  unfold Negotiation.Machine.receiveConfigureNak
  split
  · exact ⟨_, rfl⟩
  · split
    · exact ⟨_, rfl⟩
    · rename_i suggestions _
      split
      · exact ⟨_, rfl⟩
      · refine afterNegativeResponse_ok ?_ nowMs
        exact distinctTypes_applyNak h suggestions

lemma receiveConfigureReject_ok (h : Distinct m) (packet : Packet) (nowMs : ℕ) :
    ∃ transition, (m.receiveConfigureReject packet nowMs).2 = .ok transition := by
  unfold Negotiation.Machine.receiveConfigureReject
  split
  · exact ⟨_, rfl⟩
  · split
    · exact ⟨_, rfl⟩
    · split
      · exact ⟨_, rfl⟩
      · rename_i updated happly
        refine afterNegativeResponse_ok ?_ nowMs
        exact distinctTypes_applyReject h happly

lemma receive_ok (h : Distinct m) (input : List UInt8) (nowMs : ℕ) (policy : SfcPolicy) :
    ∃ transition, (m.receive input nowMs policy).2 = .ok transition := by
  have hempty : headerLength + ([] : List UInt8).length < 2 ^ 16 := by decide
  unfold Negotiation.Machine.receive
  split
  · exact ⟨_, rfl⟩
  · split
    · exact ⟨_, rfl⟩
    · rename_i packet hparse
      have hpacket := length_data_of_parsePacket parseErrors hparse
      split
      · exact ⟨_, rfl⟩
      · split
        · exact receiveConfigureRequest_ok h hpacket nowMs policy
        · exact receiveConfigureAck_ok h packet nowMs
        · exact receiveConfigureNak_ok h packet nowMs
        · exact receiveConfigureReject_ok h packet nowMs
        · obtain ⟨octets, hencode⟩ : ∃ octets, Negotiation.encode .terminateAck packet.identifier [] = .ok octets :=
            encode_ok hempty
          unfold Negotiation.Machine.receiveTerminateRequest
          rw [hencode]
          split <;> exact ⟨_, rfl⟩
        · unfold Negotiation.Machine.receiveTerminateAck
          split_ifs <;> exact ⟨_, rfl⟩
        · exact receiveEchoRequest_ok packet
        · split <;> exact ⟨_, rfl⟩
        · split <;> exact ⟨_, rfl⟩
        · exact receiveUnknownCode_ok input packet
        · exact ⟨_, rfl⟩

/-- **No call of a machine with distinct local options returns an error.** -/
theorem call_ok (h : Distinct m) (call : Call) : ∃ transition, (call.outcome m).2 = .ok transition := by
  have hempty : headerLength + ([] : List UInt8).length < 2 ^ 16 := by decide
  cases call with
  | doOpen nowMs =>
    unfold Call.outcome Negotiation.Machine.doOpen
    dsimp only
    split_ifs
    · exact ⟨_, rfl⟩
    · exact sendNewRequest_ok h nowMs true []
  | doClose nowMs =>
    unfold Call.outcome Negotiation.Machine.doClose
    dsimp only
    split
    · exact ⟨_, rfl⟩
    · split
      · exact ⟨_, rfl⟩
      · exact sending_ok _ hempty
  | lowerDown => exact ⟨_, rfl⟩
  | pollTimeout nowMs =>
    unfold Call.outcome Negotiation.Machine.pollTimeout
    dsimp only
    split
    · exact ⟨_, rfl⟩
    · split_ifs
      · exact ⟨_, rfl⟩
      · exact ⟨_, rfl⟩
      · exact sending_ok [] hempty
      · exact ⟨_, rfl⟩
      · exact ⟨_, rfl⟩
      · exact sending_ok [] h.fits
      · exact sending_ok [] h.fits
  | receive input nowMs policy => exact receive_ok h input nowMs policy
  | rejectProtocol protocol information =>
    unfold Call.outcome Negotiation.Machine.rejectProtocol
    dsimp only
    split_ifs
    · exact ⟨_, rfl⟩
    · have hmru := peerMru_lt m 6 (by omega)
      have hheader : headerLength = 4 := rfl
      refine sending_ok [] ?_
      rw [List.length_append, BigEndian.length_octets, List.length_take]
      omega

end Success

/-! ### Runs -/

/-- The machine that calls lead to, unless one of them panics. -/
def after : Machine → List Call → Option Machine
  | m, [] => some m
  | m, call :: calls => do
    let (m, _) ← outcome m call
    after m calls

/-- The run that may panic is the run. -/
lemma after_eq {m : Machine} (h : Distinct m) (calls : List Call) : after m calls = some (Run.run step m calls) := by
  induction calls generalizing m with
  | nil => rfl
  | cons call calls ih =>
    rw [after, outcome_eq h.readable]
    exact ih (distinct_step h call)

/-- **No operation of a machine with distinct local options panics or returns an error**, after any calls, and the
local options stay a list of distinct options. -/
theorem never_fails {localOptions : List UInt8} {settings : Settings} {new : Machine}
    (hnew : Machine.new localOptions settings = .ok new)
    (hdistinct : ((Tlv.items localOptions).1.map (·.type)).Nodup) (calls : List Call) :
    ∃ m, after new calls = some m ∧
      (∀ call, ∃ m' transition, outcome m call = some (m', .ok transition)) ∧
      ∃ options, ControlPacket.collectOptions optionParseError m.localOptions = .ok options ∧
        (options.map (·.type)).Nodup := by
  have hstart : Distinct new := by
    unfold Machine.new at hnew
    cases hoptions : ControlPacket.collectOptions optionParseError localOptions with
    | error error =>
      rw [hoptions] at hnew
      cases hnew
    | ok options =>
      rw [hoptions] at hnew
      cases hnew
      have hflat := flatMap_of_collectOptions optionParseError hoptions
      rw [← hflat, Tlv.items_flatMap] at hdistinct
      exact ⟨options, hflat.symm, hdistinct⟩
  have hafter : Distinct (Run.run step new calls) := Run.run_preserves (fun _ call h => distinct_step h call) hstart
  refine ⟨_, after_eq hstart calls, fun call => ?_, ?_⟩
  · obtain ⟨transition, hok⟩ := call_ok hafter call
    refine ⟨step (Run.run step new calls) call, transition, ?_⟩
    rw [outcome_eq hafter.readable]
    exact congrArg some (Prod.ext rfl hok)
  · obtain ⟨options, hoptions, hnodup⟩ := hafter
    refine ⟨options, ?_, hnodup⟩
    rw [hoptions]
    exact collectOptions_flatMap optionParseError options

/-- A machine that requests an MRU and is offered another one. -/
theorem never_fails_mru : ∃ m,
    after ⟨.closed, ⟨3000, 10, 2⟩, [1, 4, 5, 220], 0, 0, 0, 0, none, none, none⟩ LocalOptions.mruCalls = some m ∧
      (∀ call, ∃ m' transition, outcome m call = some (m', .ok transition)) ∧
      ∃ options, ControlPacket.collectOptions optionParseError m.localOptions = .ok options ∧
        (options.map (·.type)).Nodup :=
  never_fails (show Machine.new [1, 4, 5, 220] ⟨3000, 10, 2⟩ = .ok _ from rfl) (by decide +kernel) LocalOptions.mruCalls

end SnesModem.Rust.LcpPanics
