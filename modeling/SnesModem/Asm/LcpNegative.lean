import SnesModem.Asm.LcpEvaluation
import SnesModem.Rust.PeerAnswer

/-!
# What a refused Configure-Nak or Configure-Reject leaves behind

The scan over the options of a Configure-Nak or Configure-Reject applies a Magic-Number option as it passes,
and finds out later that the packet is invalid.

* `SameNegotiation`: what the next Configure-Request is built from, and what an Ack is matched with;
* `examined`: the options that the scan applies or refuses;
* `PartialNegative`: the packets that are refused behind an option that was applied;
* `negativeIntact_iff`: these, and no others, leave a trace.
-/

namespace SnesModem.Asm

open SnesModem.Lib SnesModem.Lib.Cpu65816 SnesModem.Lib.Octets
open SnesModem.Rust.Negotiation (magicOf)

/-- The local side of the negotiation: the proposal, the identifier and the state. -/
structure SameNegotiation (l l' : Lcp) : Prop where
  state : l'.state = l.state
  requestIdentifier : l'.requestIdentifier = l.requestIdentifier
  localMagic : l'.localMagic = l.localMagic
  magicRequest : l'.magicRequest = l.magicRequest
  magicAcknowledged : l'.magicAcknowledged = l.magicAcknowledged

lemma SameNegotiation.refl (l : Lcp) : SameNegotiation l l := ⟨rfl, rfl, rfl, rfl, rfl⟩

lemma SameNegotiation.trans {l l' l'' : Lcp} (h : SameNegotiation l l') (h' : SameNegotiation l' l'') :
    SameNegotiation l l'' :=
  ⟨h'.state.trans h.state, h'.requestIdentifier.trans h.requestIdentifier, h'.localMagic.trans h.localMagic,
    h'.magicRequest.trans h.magicRequest, h'.magicAcknowledged.trans h.magicAcknowledged⟩

lemma SameNegotiation.symm {l l' : Lcp} (h : SameNegotiation l l') : SameNegotiation l' l :=
  ⟨h.state.symm, h.requestIdentifier.symm, h.localMagic.symm, h.magicRequest.symm, h.magicAcknowledged.symm⟩

lemma SameNegotiation.congr_left {l l' l'' : Lcp} (h : SameNegotiation l l') :
    SameNegotiation l' l'' ↔ SameNegotiation l l'' := ⟨h.trans, h.symm.trans⟩

/-- The code of a Configure-Nak or of a Configure-Reject. -/
def Negative (d : Decoder) : Prop := d.frameBuffer 4 = 3 ∨ d.frameBuffer 4 = 4

/-- A Configure-Nak or Configure-Reject that is refused leaves the local side of the negotiation alone. -/
def NegativeIntact (d : Decoder) (l : Lcp) : Prop :=
  Negative d → (pppLcpReceiveFrame d l).2 = true → SameNegotiation l (pppLcpReceiveFrame d l).1

/-! ### The options that count -/

/-- The options that the scan applies or refuses: all those of a Reject, the magic numbers of a Nak. -/
def examined (buffer : Buffer) (code : UInt8) (offsets : List UInt16) : List UInt16 :=
  offsets.filter fun y => buffer y.toNat = 5 ∨ code = 4

/-- The scan applies the option at `y`: a magic number of six octets, and the requested one in a Reject. -/
def Applicable (buffer : Buffer) (code : UInt8) (l : Lcp) (y : UInt16) : Prop :=
  buffer y.toNat = 5 ∧ l.magicRequest = true ∧ buffer (y.toNat + 1) = 6 ∧
    (code = 4 → read buffer (y.toNat + 2) 4 = spelledMagic l.localMagic)

instance {buffer : Buffer} {code : UInt8} {l : Lcp} {y : UInt16} : Decidable (Applicable buffer code l y) :=
  inferInstanceAs (Decidable (_ ∧ _ ∧ _ ∧ _))

lemma SameNegotiation.applicable_congr {l l' : Lcp} (h : SameNegotiation l l') {buffer : Buffer} {code : UInt8}
    {y : UInt16} : Applicable buffer code l' y ↔ Applicable buffer code l y := by
  unfold Applicable
  rw [h.magicRequest, h.localMagic]

/-- The offsets at which the options of a frame's packet start. -/
def packetOptions (d : Decoder) : List UInt16 := options d.frameBuffer (declaredLength d + frameOffset)

/-- A packet for the outstanding request whose first examined option is applicable, and not the last one. -/
structure PartialNegative (d : Decoder) (l : Lcp) : Prop where
  negative : Negative d
  accepted : (pppLcpParseFrame d l).2 = false
  negotiating : l.state ≠ .closed ∧ l.state ≠ .stopped ∧ l.state ≠ .closing
  identifier : d.frameBuffer 5 = l.requestIdentifier
  behind : ∃ y y' offsets, examined d.frameBuffer (d.frameBuffer 4) (packetOptions d) = y :: y' :: offsets ∧
    Applicable d.frameBuffer (d.frameBuffer 4) l y

/-! ### Magic numbers -/

section Magic

variable (buffer : Buffer) (l : Lcp)

lemma readMagic_eq_magicOf (offset : ℕ) : readMagic buffer offset = magicOf (read buffer offset 4) := by
  have hread : read buffer offset 4 =
      [buffer offset, buffer (offset + 1), buffer (offset + 2), buffer (offset + 3)] := rfl
  rw [hread]
  unfold readMagic magicOf
  congr 1
  simp [BigEndian.value]
  omega

lemma readMagic_ne {y : UInt16} (h : ¬ pppLcpPeerMagicMatchesLocal buffer l y) :
    readMagic buffer (y.toNat + 2) ≠ l.localMagic := by
  intro heq
  apply h
  rw [readMagic_eq_magicOf, magicOf_eq_iff (length_read ..), ← spelledMagic_eq] at heq
  unfold pppLcpPeerMagicMatchesLocal
  exact decide_eq_true heq

/-- An applied option is one that changes the proposal. -/
lemma applyNegativeMagic_changes {y : UInt16} {l' : Lcp} (hrequest : l.magicRequest = true)
    (h : applyNegativeMagic buffer l y = some l') : ¬ SameNegotiation l l' := by
  intro hsame
  have hnext : nextMagic l.localMagic ≠ l.localMagic := Rust.PeerAnswer.nextMagic_ne l.localMagic
  unfold applyNegativeMagic pppLcpAdvanceLocalMagic at h
  generalize nextMagic l.localMagic = magic at h hnext
  split_ifs at h with hcode hmatches hretry
  · obtain rfl := Option.some.inj h
    have : false = l.magicRequest := hsame.magicRequest
    rw [hrequest] at this
    cases this
  · obtain rfl := Option.some.inj h
    exact hnext hsame.localMagic
  · obtain rfl := Option.some.inj h
    exact readMagic_ne buffer l (fun hmatches => hretry (Or.inr hmatches)) hsame.localMagic

lemma applyNegativeMagic_isSome {y : UInt16} :
    (applyNegativeMagic buffer l y).isSome = true ↔
      (l.lastCode = 4 → read buffer (y.toNat + 2) 4 = spelledMagic l.localMagic) := by
  unfold applyNegativeMagic pppLcpPeerMagicMatchesLocal
  by_cases hcode : l.lastCode = 4
  · by_cases hmatches : read buffer (y.toNat + 2) 4 = spelledMagic l.localMagic <;> simp [hcode, hmatches]
  · simp only [hcode, if_false, false_implies, iff_true]
    split_ifs <;> rfl

end Magic

/-! ### The scan -/

section Scan

variable (buffer : Buffer) (l : Lcp)

/-- The scan passes over the other options. -/
lemma applyNegativeOptions_examined (offsets : List UInt16) (hasNak : Bool) :
    applyNegativeOptions buffer offsets hasNak l =
      applyNegativeOptions buffer (examined buffer l.lastCode offsets) hasNak l := by
  induction offsets generalizing hasNak l with
  | nil => rfl
  | cons y offsets ih =>
    by_cases hexamined : buffer y.toNat = 5 ∨ l.lastCode = 4
    · have hcons : examined buffer l.lastCode (y :: offsets) = y :: examined buffer l.lastCode offsets := by
        simp [examined, hexamined]
      rw [hcons]
      unfold applyNegativeOptions
      split_ifs
      · rfl
      · cases hmagic : applyNegativeMagic buffer l y with
        | none => rfl
        | some l' =>
          rw [← (applyNegativeMagic_suggested buffer l hmagic).lastCode]
          exact ih l' true
      · rfl
      · exact ih l hasNak
    · have hskipped : examined buffer l.lastCode (y :: offsets) = examined buffer l.lastCode offsets := by
        simp [examined, hexamined]
      rw [not_or] at hexamined
      rw [hskipped, ← ih l hasNak]
      conv_lhs => unfold applyNegativeOptions
      rw [if_neg hexamined.1, if_neg hexamined.2]

/-- Behind a magic number, the next option that is examined is refused. -/
lemma applyNegativeOptions_behind (offsets : List UInt16)
    (h : ∀ y ∈ offsets, buffer y.toNat = 5 ∨ l.lastCode = 4) :
    applyNegativeOptions buffer offsets true l = (l, !offsets.isEmpty) := by
  cases offsets with
  | nil => simp [applyNegativeOptions]
  | cons y offsets =>
    unfold applyNegativeOptions
    rcases h y (by simp) with htype | hcode
    · simp [htype]
    · simp [hcode]

lemma mem_examined {code : UInt8} {offsets : List UInt16} {y : UInt16} (h : y ∈ examined buffer code offsets) :
    buffer y.toNat = 5 ∨ code = 4 := by
  simpa using (List.mem_filter.mp h).2

/-- An applicable option is applied, and the one behind it is refused. -/
lemma applyNegativeOptions_applicable {y : UInt16} (h : Applicable buffer l.lastCode l y) (rest : List UInt16)
    (hrest : ∀ y ∈ rest, buffer y.toNat = 5 ∨ l.lastCode = 4) :
    ∃ l', applyNegativeMagic buffer l y = some l' ∧
      applyNegativeOptions buffer (y :: rest) false l = (l', !rest.isEmpty) := by
  obtain ⟨htype, hrequest, hlength, hvalue⟩ := h
  obtain ⟨l', hmagic⟩ := Option.isSome_iff_exists.mp ((applyNegativeMagic_isSome buffer l).mpr hvalue)
  have hcode : l'.lastCode = l.lastCode := (applyNegativeMagic_suggested buffer l hmagic).lastCode
  refine ⟨l', hmagic, ?_⟩
  rw [← applyNegativeOptions_behind buffer l' rest (by rwa [hcode])]
  conv_lhs => unfold applyNegativeOptions
  simp [htype, hrequest, hlength, hmagic]

/-- An option that is examined, but not applicable, is refused before anything is written. -/
lemma applyNegativeOptions_refused {y : UInt16} (h : ¬ Applicable buffer l.lastCode l y) (rest : List UInt16)
    (hexamined : buffer y.toNat = 5 ∨ l.lastCode = 4) :
    applyNegativeOptions buffer (y :: rest) false l = (l, true) := by
  unfold applyNegativeOptions
  split_ifs with htype hchecks hreject
  · rfl
  · have hnone : applyNegativeMagic buffer l y = none := by
      rw [← Option.not_isSome_iff_eq_none, applyNegativeMagic_isSome]
      intro hvalue
      simp at hchecks
      exact h ⟨htype, hchecks.1, hchecks.2, hvalue⟩
    rw [hnone]
  · rfl
  · exact absurd hexamined (not_or.mpr ⟨htype, hreject⟩)

/-- **A scan that refuses the packet** leaves a trace if and only if it has applied the first option that it
examines, and there is another one. -/
theorem applyNegativeOptions_intact_iff (offsets : List UInt16) :
    ((applyNegativeOptions buffer offsets false l).2 = true →
        SameNegotiation l (applyNegativeOptions buffer offsets false l).1) ↔
      ¬ ∃ y y' rest, examined buffer l.lastCode offsets = y :: y' :: rest ∧ Applicable buffer l.lastCode l y := by
  rw [applyNegativeOptions_examined]
  have hmem (y : UInt16) (hy : y ∈ examined buffer l.lastCode offsets) := mem_examined buffer hy
  generalize examined buffer l.lastCode offsets = list at hmem ⊢
  cases list with
  | nil => exact iff_of_true (fun _ => .refl l) (by simp)
  | cons y rest =>
    by_cases happlicable : Applicable buffer l.lastCode l y
    · have hscan := applyNegativeOptions_applicable buffer l happlicable rest fun y hy =>
        hmem y (List.mem_cons_of_mem _ hy)
      obtain ⟨l', hmagic, hscan⟩ := hscan
      rw [hscan]
      have hchanged := applyNegativeMagic_changes buffer l happlicable.2.1 hmagic
      cases rest with
      | nil => exact iff_of_true (fun hrefused => by simp at hrefused) (by simp)
      | cons y' rest =>
        exact iff_of_false (fun h => hchanged (h rfl)) (not_not.mpr ⟨y, y', rest, rfl, happlicable⟩)
    · have hscan := applyNegativeOptions_refused buffer l happlicable rest (hmem y (by simp))
      rw [hscan]
      refine iff_of_true (fun _ => .refl l) ?_
      rintro ⟨y₁, y₂, rest', hcons, h⟩
      obtain ⟨rfl, -⟩ := List.cons.inj hcons
      exact happlicable h

end Scan

/-! ### The packet -/

section Packet

variable {d : Decoder} {l : Lcp}

lemma sameNegotiation_returnFailure {l' : Lcp} (error : LcpError) :
    SameNegotiation l (returnFailure l' error).1 ↔ SameNegotiation l l' :=
  ⟨fun h => ⟨h.state, h.requestIdentifier, h.localMagic, h.magicRequest, h.magicAcknowledged⟩,
    fun h => ⟨h.state, h.requestIdentifier, h.localMagic, h.magicRequest, h.magicAcknowledged⟩⟩

/-- The parser leaves the negotiation alone. -/
lemma parseFrame_sameNegotiation : SameNegotiation l (pppLcpParseFrame d l).1 := by
  unfold pppLcpParseFrame parseOptions
  dsimp only
  split_ifs
  · exact ⟨rfl, rfl, rfl, rfl, rfl⟩
  · exact ⟨rfl, rfl, rfl, rfl, rfl⟩
  · exact ⟨rfl, rfl, rfl, rfl, rfl⟩
  · exact ⟨rfl, rfl, rfl, rfl, rfl⟩
  · split <;> exact ⟨rfl, rfl, rfl, rfl, rfl⟩
  · exact ⟨rfl, rfl, rfl, rfl, rfl⟩

/-- The handler, on the variables that the parser leaves. -/
lemma receiveConfigureNegative_intact_iff :
    ((receiveConfigureNegative d l).2 = true → SameNegotiation l (receiveConfigureNegative d l).1) ↔
      ¬ (l.state ≠ .closing ∧ l.lastIdentifier = l.requestIdentifier ∧
        ∃ y y' rest, examined d.frameBuffer l.lastCode (options d.frameBuffer l.packetEnd) = y :: y' :: rest ∧
          Applicable d.frameBuffer l.lastCode l y) := by
  have hscan := applyNegativeOptions_intact_iff d.frameBuffer l (options d.frameBuffer l.packetEnd)
  unfold receiveConfigureNegative
  by_cases hclosing : l.state = .closing
  · rw [if_pos hclosing, sameNegotiation_returnFailure]
    exact iff_of_true (fun _ => .refl l) fun h => h.1 hclosing
  rw [if_neg hclosing]
  by_cases hidentifier : l.lastIdentifier = l.requestIdentifier
  · rw [if_neg (not_not.mpr hidentifier)]
    simp only [ne_eq, hclosing, not_false_eq_true, hidentifier, true_and]
    rw [← hscan]
    split
    · rename_i l' happly
      rw [happly, sameNegotiation_returnFailure]
      rfl
    · rename_i l' happly
      rw [happly]
      exact iff_of_true (fun h => by cases h) (fun h => by cases h)
  · rw [if_pos hidentifier, sameNegotiation_returnFailure]
    exact iff_of_true (fun _ => .refl l) fun h => hidentifier h.2.1

/-- A packet of the two codes, once it is parsed. -/
lemma receiveFrame_negative (hnegative : Negative d) (haccepted : (pppLcpParseFrame d l).2 = false)
    (hstate : l.state ≠ .closed ∧ l.state ≠ .stopped) :
    pppLcpReceiveFrame d l = receiveConfigureNegative d (pppLcpParseFrame d l).1 := by
  have hparsed : (pppLcpParseFrame d l).1.state = l.state := parseFrame_sameNegotiation.state
  unfold pppLcpReceiveFrame
  generalize pppLcpParseFrame d l = parsed at haccepted hparsed
  obtain ⟨l', dropped⟩ := parsed
  obtain rfl : dropped = false := haccepted
  have hopen : ¬ (l'.state = .closed ∨ l'.state = .stopped) := by
    rw [show l'.state = l.state from hparsed]
    exact not_or.mpr hstate
  show receivePacket d l' = _
  unfold receivePacket
  rw [if_neg hopen]
  rcases hnegative with hcode | hcode
  · rw [hcode]
    rfl
  · rw [hcode]
    rfl

/-- A frame that the parser drops, or that arrives in `Closed` or `Stopped`. -/
lemma receiveFrame_unreached
    (h : ¬ ((pppLcpParseFrame d l).2 = false ∧ l.state ≠ .closed ∧ l.state ≠ .stopped)) :
    SameNegotiation l (pppLcpReceiveFrame d l).1 := by
  have hparse := parseFrame_sameNegotiation (d := d) (l := l)
  unfold pppLcpReceiveFrame
  generalize pppLcpParseFrame d l = parsed at h hparse
  obtain ⟨l', dropped⟩ := parsed
  have hstate : l'.state = l.state := hparse.state
  cases dropped with
  | true => exact hparse
  | false =>
    have hopen : l'.state = .closed ∨ l'.state = .stopped := by
      rw [hstate]
      by_contra hopen
      exact h ⟨rfl, not_or.mp hopen⟩
    show SameNegotiation l (receivePacket d l').1
    unfold receivePacket
    rw [if_pos hopen, sameNegotiation_returnFailure]
    exact hparse

/-- **A refused Configure-Nak or Configure-Reject leaves the local negotiation state alone**, except behind a
Magic-Number option that the scan has applied. -/
theorem negativeIntact_iff (d : Decoder) (l : Lcp) : NegativeIntact d l ↔ ¬ PartialNegative d l := by
  by_cases hnegative : Negative d
  · by_cases hreached : (pppLcpParseFrame d l).2 = false ∧ l.state ≠ .closed ∧ l.state ≠ .stopped
    · obtain ⟨haccepted, hstate⟩ := hreached
      have hhandler := receiveConfigureNegative_intact_iff (d := d) (l := (pppLcpParseFrame d l).1)
      rw [← receiveFrame_negative hnegative haccepted hstate] at hhandler
      have hparse := parseFrame_sameNegotiation (d := d) (l := l)
      obtain ⟨-, -, error, hheader⟩ := parseFrame_eq_of_accepted haccepted
      have hcode : (pppLcpParseFrame d l).1.lastCode = d.frameBuffer 4 := by rw [hheader, readHeader]
      have hidentifier : (pppLcpParseFrame d l).1.lastIdentifier = d.frameBuffer 5 := by rw [hheader, readHeader]
      have hend : (pppLcpParseFrame d l).1.packetEnd = declaredLength d + frameOffset := by rw [hheader, readHeader]
      simp only [hparse.congr_left, hparse.applicable_congr, hparse.state, hparse.requestIdentifier, hcode,
        hidentifier, hend] at hhandler
      refine (show NegativeIntact d l ↔ _ from ⟨fun h => h hnegative, fun h _ => h⟩).trans (hhandler.trans ?_)
      refine not_congr ⟨fun h => ?_, fun h => ⟨h.negotiating.2.2, h.identifier, h.behind⟩⟩
      exact ⟨hnegative, haccepted, ⟨hstate.1, hstate.2, h.1⟩, h.2.1, h.2.2⟩
    · refine iff_of_true (fun _ _ => receiveFrame_unreached hreached) fun h => hreached ?_
      exact ⟨h.accepted, h.negotiating.1, h.negotiating.2.1⟩
  · exact iff_of_true (fun h => absurd h hnegative) fun h => hnegative h.negative

end Packet

/-! ### A Configure-Nak with two magic numbers -/

/-- LCP after it has sent its first Configure-Request. -/
def awaitingAck : Lcp := afterBegin 0 (pppLcpOpen 0 (pppLcpInitialize default))

/-- A Configure-Nak of 16 octets that suggests two magic numbers. -/
def doubleMagicNak : Decoder :=
  { (default : Decoder) with
    lastFrameLength := 20
    lastProtocol := protocolLcp
    frameBuffer := write default 0 [0xff, 0x03, 0xc0, 0x21, 3, 0, 0, 16, 5, 6, 0, 0, 0, 1, 5, 6, 0, 0, 0, 2] }

/-- The Configure-Nak is refused, and the next Configure-Request proposes its first magic number. -/
theorem not_negativeIntact_doubleMagicNak : ¬ NegativeIntact doubleMagicNak awaitingAck := by
  intro h
  have hrefused : (pppLcpReceiveFrame doubleMagicNak awaitingAck).2 = true := by decide +kernel
  have hproposed : (pppLcpReceiveFrame doubleMagicNak awaitingAck).1.localMagic = 1 := by decide +kernel
  have hbefore : awaitingAck.localMagic ≠ 1 := by decide
  exact hbefore ((h (Or.inl rfl) hrefused).localMagic.symm.trans hproposed)

end SnesModem.Asm
