import SnesModem.Asm.Receive
import SnesModem.Lib.Matcher
import SnesModem.Lib.Run

/-!
# When the receive path reports the loss of the carrier

The receive path over a run of its entry points, with the octets that it has consumed.

* `Reception.step`: the entry points; `receive_step`: the receive path is left as they leave it;
* `Tracked`: the matcher runs over all octets since it was cleared, whatever lies between them;
* `Exact`: the loss is reported by the line of the current activation alone;
* `carrierLoss_exact_iff`: so it is, unless a line spans the start of the activation.
-/

namespace SnesModem.Asm

open SnesModem.Lib SnesModem.Lib.Octets SnesModem.Lib.Matcher

/-! ### The receive path and what it has consumed -/

/-- The receive path with the octets consumed since its matcher was cleared, those of the current activation, the
decoder at the start of that activation, and whether a reported loss has ended it. -/
structure Reception where
  receive : Receive
  stream : List UInt8
  consumed : List UInt8
  origin : Decoder
  lost : Bool

/-- The entry points of `receive.asm`; a poll comes with the state of the modem driver and the RX ring. -/
inductive ReceiveEvent where
  | reset | start | stop | release
  | poll (connected : Bool) (ring : List UInt8)

/-- The receive path after an entry point. -/
def ReceiveEvent.apply (r : Receive) : ReceiveEvent → Receive
  | .reset => pppReceiveInitialize r
  | .start => pppReceiveStart r
  | .stop => pppReceiveStop r
  | .release => pppReleaseFrame r
  | .poll connected ring => pppReceivePoll connected ring r

namespace Reception

/-- A session whose matcher is clear. -/
def cleared (r : Receive) : Reception where
  receive := r
  stream := []
  consumed := []
  origin := r.decoder
  lost := false

/-- The start of an activation; a reported loss has cleared the matcher. -/
def activation (s : Reception) (r : Receive) : Reception where
  receive := r
  stream := if s.lost then [] else s.stream
  consumed := []
  origin := r.decoder
  lost := false

def push (s : Reception) (octet : UInt8) : Reception where
  receive := (pppReceivePushConnectedByte s.receive octet).1
  stream := s.stream ++ [octet]
  consumed := s.consumed ++ [octet]
  origin := s.origin
  lost := (pppReceivePushConnectedByte s.receive octet).2

def drain : ℕ → List UInt8 → Reception → Reception
  | 0, _, s => s
  | _ + 1, [], s => s
  | budget + 1, octet :: octets, s =>
    if (s.push octet).lost || (s.push octet).receive.frameReady then s.push octet
    else drain budget octets (s.push octet)

/-- What is left of the poll once the ring is taken over. -/
def poll (s : Reception) (ring : List UInt8) : Reception :=
  if s.receive.frameReady then s else s.drain receiveDrainBudget ring

def step (s : Reception) : ReceiveEvent → Reception
  | .reset => cleared (pppReceiveInitialize s.receive)
  | .start => s.activation (pppReceiveStart s.receive)
  | .stop => { s with receive := pppReceiveStop s.receive }
  | .release => { s with receive := pppReleaseFrame s.receive }
  | .poll connected ring =>
    if !s.receive.enabled || !connected then { s with receive := { s.receive with active := false } }
    else if s.receive.active then s.poll ring
    else (s.activation (activate s.receive)).poll ring

/-- The session after a run from the initialization. -/
def after (r : Receive) (events : List ReceiveEvent) : Reception :=
  Run.run step (cleared (pppReceiveInitialize r)) events

end Reception

/-! ### The receive path is left as it is -/

section Receive

lemma receive_drain (budget : ℕ) (ring : List UInt8) (s : Reception) :
    (s.drain budget ring).receive = drain budget ring s.receive := by
  induction budget generalizing ring s with
  | zero => cases ring <;> rfl
  | succ budget ih =>
    cases ring with
    | nil => rfl
    | cons octet ring =>
      unfold Reception.drain drain
      cases hpushed : pppReceivePushConnectedByte s.receive octet with
      | mk r lost =>
        have hreceive : (s.push octet).receive = r := congrArg Prod.fst hpushed
        have hlost : (s.push octet).lost = lost := congrArg Prod.snd hpushed
        rw [hlost, hreceive]
        cases lost with
        | true => exact hreceive
        | false =>
          dsimp only
          rw [Bool.false_or]
          split_ifs
          · exact hreceive
          · rw [ih, hreceive]

lemma receive_poll (ring : List UInt8) (s : Reception) :
    (s.poll ring).receive =
      if s.receive.frameReady then s.receive else drain receiveDrainBudget ring s.receive := by
  unfold Reception.poll
  split_ifs
  · rfl
  · exact receive_drain _ _ _

/-- **A step leaves the receive path** as its entry point does. -/
theorem receive_step (s : Reception) (event : ReceiveEvent) : (s.step event).receive = event.apply s.receive := by
  cases event with
  | reset | start | stop | release => rfl
  | poll connected ring =>
    unfold Reception.step ReceiveEvent.apply pppReceivePoll
    dsimp only
    by_cases hidle : (!s.receive.enabled || !connected) = true
    · rw [if_pos hidle, if_pos hidle]
    · rw [if_neg hidle, if_neg hidle]
      by_cases hactive : s.receive.active = true
      · rw [if_pos hactive, receive_poll, activate, if_pos hactive]
      · rw [if_neg hactive, receive_poll]
        rfl

end Receive

/-! ### The matcher -/

/-- The decoder has got the octets of the activation, but not the one that has reported a loss. -/
def Reception.decoded (s : Reception) : Decoder :=
  if s.lost then pppDecoderDiscardPartial (s.consumed.dropLast.foldl pppDecoderPush s.origin)
  else s.consumed.foldl pppDecoderPush s.origin

/-- The index is that of a matcher over all octets consumed since it was cleared. -/
structure Tracked (s : Reception) : Prop where
  suffix : s.consumed <:+ s.stream
  decoder : s.receive.decoder = s.decoded
  searching : s.lost = false → Longest carrierLine s.stream s.receive.carrierLineIndex ∧ ¬ carrierLine <:+: s.stream
  found : s.lost = true → carrierLine <:+ s.stream ∧ ¬ carrierLine <:+: s.stream.dropLast ∧
    s.receive.carrierLineIndex = 0 ∧ s.receive.enabled = false

section Tracked

variable {s : Reception} {r : Receive}

lemma borderless_carrierLine : Borderless carrierLine := by
  unfold Borderless
  decide

lemma length_carrierLine : carrierLine.length = 12 := rfl

/-- The line is not complete. -/
lemma Tracked.index_lt (h : Tracked s) (hlost : s.lost = false) : s.receive.carrierLineIndex < 12 := by
  obtain ⟨hlongest, hnone⟩ := h.searching hlost
  have hle := hlongest.le
  rw [length_carrierLine] at hle
  apply Nat.lt_of_le_of_ne hle
  intro heq
  apply hnone
  exact (hlongest.complete_iff.mp heq).isInfix

/-- The routine is the matcher, which clears itself when the line is complete. -/
lemma pushConnectedByte_eq (octet : UInt8) :
    pppReceivePushConnectedByte r octet =
      if advance carrierLine r.carrierLineIndex octet = 12 then
        ({ r with
          carrierLineIndex := 0
          enabled := false
          active := false
          frameReady := false
          decoder := pppDecoderDiscardPartial r.decoder }, true)
      else (pppReceivePushByte { r with carrierLineIndex := advance carrierLine r.carrierLineIndex octet } octet, false) := by
  have hfirst : carrierLine[0]? = some octet ↔ octet = 0x4e := by
    constructor
    · intro h
      exact (Option.some_inj.mp h).symm
    · rintro rfl
      rfl
  unfold pppReceivePushConnectedByte advance
  split_ifs with hnext <;> first | rfl | omega | simp_all

lemma tracked_cleared (hindex : r.carrierLineIndex = 0) : Tracked (Reception.cleared r) where
  suffix := List.suffix_rfl
  decoder := rfl
  searching := by
    intro _
    refine ⟨?_, by simp [Reception.cleared, carrierLine]⟩
    show Longest carrierLine [] r.carrierLineIndex
    rw [hindex]
    exact longest_nil carrierLine
  found := fun h => by cases h

/-- A new activation keeps the index, and with it the octets that it has counted. -/
lemma Tracked.activation (h : Tracked s) (hindex : r.carrierLineIndex = s.receive.carrierLineIndex) :
    Tracked (s.activation r) where
  suffix := List.nil_suffix
  decoder := rfl
  searching := by
    intro _
    show Longest carrierLine (if s.lost then [] else s.stream) r.carrierLineIndex ∧
      ¬ carrierLine <:+: (if s.lost then [] else s.stream)
    rw [hindex]
    cases hlost : s.lost with
    | true =>
      rw [(h.found hlost).2.2.1]
      exact ⟨longest_nil carrierLine, by simp [carrierLine]⟩
    | false => exact h.searching hlost
  found := fun h => by cases h

/-- A step that consumes nothing, and does not enable a path that a loss has disabled. -/
lemma Tracked.keep (h : Tracked s) (hindex : r.carrierLineIndex = s.receive.carrierLineIndex)
    (hdecoder : r.decoder = s.receive.decoder) (henabled : r.enabled = true → s.receive.enabled = true) :
    Tracked { s with receive := r } where
  suffix := h.suffix
  decoder := hdecoder.trans h.decoder
  searching := by
    intro hlost
    show Longest carrierLine s.stream r.carrierLineIndex ∧ _
    rw [hindex]
    exact h.searching hlost
  found := by
    intro hlost
    obtain ⟨hends, hfirst, hzero, hdisabled⟩ := h.found hlost
    refine ⟨hends, hfirst, hindex.trans hzero, ?_⟩
    show r.enabled = false
    cases hr : r.enabled with
    | true => exact absurd (henabled hr) (by simp [hdisabled])
    | false => rfl

/-- **An octet** is the last one of the line, or goes to the decoder. -/
theorem Tracked.push (h : Tracked s) (hlost : s.lost = false) (octet : UInt8) : Tracked (s.push octet) := by
  obtain ⟨hlongest, hnone⟩ := h.searching hlost
  have hindex := h.index_lt hlost
  have hnext := hlongest.advance borderless_carrierLine hindex octet
  have hcomplete := hnext.complete_iff
  rw [length_carrierLine] at hcomplete
  have hdecoder : s.receive.decoder = s.consumed.foldl pppDecoderPush s.origin := by
    have := h.decoder
    rwa [Reception.decoded, hlost, if_neg Bool.false_ne_true] at this
  have hsuffix : s.consumed ++ [octet] <:+ s.stream ++ [octet] := by
    obtain ⟨before, hbefore⟩ := h.suffix
    exact ⟨before, by rw [← List.append_assoc, hbefore]⟩
  have hpush := pushConnectedByte_eq (r := s.receive) octet
  by_cases hends : advance carrierLine s.receive.carrierLineIndex octet = 12
  · rw [if_pos hends] at hpush
    have hfound : (s.push octet).lost = true := congrArg Prod.snd hpush
    refine ⟨hsuffix, ?_, fun hsearching => absurd (hfound.symm.trans hsearching) (by simp), fun _ => ?_⟩
    · unfold Reception.decoded
      rw [hfound, if_pos rfl]
      unfold Reception.push
      rw [hpush, List.dropLast_concat, ← hdecoder]
    · unfold Reception.push
      rw [hpush, List.dropLast_concat]
      exact ⟨hcomplete.mp hends, hnone, rfl, rfl⟩
  · rw [if_neg hends] at hpush
    have hsearching : (s.push octet).lost = false := congrArg Prod.snd hpush
    refine ⟨hsuffix, ?_, fun _ => ?_, fun hfound => absurd (hsearching.symm.trans hfound) (by simp)⟩
    · unfold Reception.decoded
      rw [hsearching, if_neg Bool.false_ne_true]
      unfold Reception.push
      rw [hpush, List.foldl_append, ← hdecoder]
      rfl
    · unfold Reception.push
      rw [hpush]
      refine ⟨hnext, fun hinfix => ?_⟩
      rcases List.infix_concat_iff.mp hinfix with hline | hline
      · exact hends (hcomplete.mpr hline)
      · exact hnone hline

lemma Tracked.drain (h : Tracked s) (hlost : s.lost = false) (budget : ℕ) (ring : List UInt8) :
    Tracked (s.drain budget ring) := by
  induction budget generalizing s ring with
  | zero => cases ring <;> exact h
  | succ budget ih =>
    cases ring with
    | nil => exact h
    | cons octet ring =>
      have hpush := h.push hlost octet
      unfold Reception.drain
      split_ifs with hdone
      · exact hpush
      · rw [Bool.not_eq_true, Bool.or_eq_false_iff] at hdone
        exact ih hpush hdone.1 ring

lemma Tracked.poll (h : Tracked s) (hlost : s.lost = false) (ring : List UInt8) : Tracked (s.poll ring) := by
  unfold Reception.poll
  split_ifs
  · exact h
  · exact h.drain hlost _ ring

/-- **The step lemma.** -/
theorem Tracked.step (h : Tracked s) (event : ReceiveEvent) : Tracked (s.step event) := by
  cases event with
  | reset => exact tracked_cleared rfl
  | start => exact h.activation rfl
  | stop => exact h.keep rfl rfl fun henabled => by cases henabled
  | release => exact h.keep rfl rfl id
  | poll connected ring =>
    unfold Reception.step
    dsimp only
    split_ifs with hidle hactive
    · exact h.keep rfl rfl id
    · have hlost : s.lost = false := by
        by_contra hlost
        have hdisabled := (h.found (by simpa using hlost)).2.2.2
        simp [hdisabled] at hidle
      exact h.poll hlost ring
    · refine (h.activation ?_).poll rfl ring
      rw [activate, if_neg hactive]

/-- **The run lemma.** -/
theorem tracked_after (r : Receive) (events : List ReceiveEvent) : Tracked (Reception.after r events) :=
  Run.run_preserves (fun _ event h => h.step event) (tracked_cleared rfl)

end Tracked

/-! ### The line of an activation -/

/-- The loss is reported exactly if the activation has consumed the line, at its first occurrence, and the octets
before that went to the decoder. -/
structure Exact (s : Reception) : Prop where
  reported : s.lost = true ↔ carrierLine <:+: s.consumed
  first : ¬ carrierLine <:+: s.consumed.dropLast
  decoder : s.receive.decoder = s.decoded

/-- The octets consumed since the matcher was cleared end with the line, but those of the activation do not. -/
def Spans (s : Reception) : Prop := carrierLine <:+ s.stream ∧ ¬ carrierLine <:+ s.consumed

lemma dropLast_suffix {α : Type*} {l l' : List α} (h : l <:+ l') : l.dropLast <:+: l'.dropLast := by
  obtain ⟨before, rfl⟩ := h
  cases l using List.reverseRecOn with
  | nil => simp
  | append_singleton l last =>
    rw [← List.append_assoc, List.dropLast_concat, List.dropLast_concat]
    exact (List.suffix_append before l).isInfix

lemma Tracked.exact_iff {s : Reception} (h : Tracked s) : Exact s ↔ ¬ Spans s := by
  have hshorter := dropLast_suffix h.suffix
  constructor
  · rintro hexact ⟨hends, hnot⟩
    cases hlost : s.lost with
    | false => exact (h.searching hlost).2 hends.isInfix
    | true =>
      obtain ⟨before, after, hline⟩ := hexact.reported.mp hlost
      cases after using List.reverseRecOn with
      | nil => exact hnot ⟨before, by simpa using hline⟩
      | append_singleton after last =>
        apply hexact.first
        rw [← hline, ← List.append_assoc, List.dropLast_concat]
        exact ⟨before, after, rfl⟩
  · intro hspans
    have hwithin (hends : carrierLine <:+ s.stream) : carrierLine <:+ s.consumed := by
      by_contra hnot
      exact hspans ⟨hends, hnot⟩
    refine ⟨⟨fun hlost => (hwithin (h.found hlost).1).isInfix, fun hline => ?_⟩, fun hline => ?_, h.decoder⟩
    · by_contra hlost
      exact (h.searching (by simpa using hlost)).2 (hline.trans h.suffix.isInfix)
    · cases hlost : s.lost with
      | true => exact (h.found hlost).2.1 (hline.trans hshorter)
      | false =>
        have hprefix := (List.dropLast_prefix s.consumed).isInfix
        exact (h.searching hlost).2 ((hline.trans hprefix).trans h.suffix.isInfix)

/-- **The loss of the carrier** is reported exactly by the line of the current activation, in every state of every
run, unless a line that has begun before the activation ends in it. -/
theorem carrierLoss_exact_iff (r : Receive) (events : List ReceiveEvent) :
    Exact (Reception.after r events) ↔ ¬ Spans (Reception.after r events) :=
  (tracked_after r events).exact_iff

/-- `NO CARR` before a restart, and the rest of the line behind it, report a loss. -/
theorem not_exact_split_line : ¬ Exact (Reception.after default [.start,
    .poll true [0x4e, 0x4f, 0x20, 0x43, 0x41, 0x52, 0x52], .stop, .start, .poll true [0x49, 0x45, 0x52, 0x0d, 0x0a]]) := by
  rintro ⟨hreported, -, -⟩
  have hline := hreported.mp (by decide +kernel)
  exact absurd hline.length_le (by decide +kernel)

end SnesModem.Asm
