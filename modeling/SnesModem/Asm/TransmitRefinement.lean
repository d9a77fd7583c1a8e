import SnesModem.Lib.Run
import SnesModem.Asm.Transmit
import SnesModem.Asm.DecoderRefinement

/-!
# The transmitter of the console writes what the reference encoder writes

* `remaining`: the octets that the state of the encoder still stands for;
* `advance_remaining`: an accepted octet is the first of them, and leaves the others;
* `transmits_frame`: so the octets in the TX ring are a prefix of the encoded frame, whatever room the polls find, and all
  of it once the encoder has come to rest.
-/

namespace SnesModem.Asm.TransmitRefinement

open SnesModem.Lib SnesModem.Lib.Octets SnesModem.Rust SnesModem.Asm.DecoderRefinement

/-! ### The octets on the wire -/

/-- The encoded octets of a part of a frame, up to its closing flag. -/
def wire (octets : List UInt8) : List UInt8 :=
  octets.flatMap (Framing.escape Framing.defaultAccm) ++ [Framing.flagSequence]

/-- The octets of the frame and its check sequence that are not done yet. -/
def logicalLeft (t : Transmit) : List UInt8 :=
  match t.stage with
  | .frame =>
    let rest := read t.buffer t.position.toNat (t.length.toNat - t.position.toNat)
    rest ++ Framing.leBytes (rest.foldl Framing.updateFcs16 t.fcs ^^^ 0xffff)
  | .fcsLow => Framing.leBytes (t.fcs ^^^ 0xffff)
  | .fcsHigh => [high t.fcs ^^^ 0xff]
  | _ => []

/-- The octets that are still to be written. -/
def remaining (t : Transmit) : List UInt8 :=
  match t.stage with
  | .idle | .complete => []
  | .openingFlag => Framing.encodeAsync t.frame Framing.defaultAccm
  | .frame | .fcsLow | .fcsHigh => if t.escapeSecond then (wire (logicalLeft t)).tail else wire (logicalLeft t)
  | .closingFlag => [Framing.flagSequence]

/-- The stages of an octet of the frame or of its check sequence. -/
def logicalStage (stage : TransmitStage) : Prop := stage = .frame ∨ stage = .fcsLow ∨ stage = .fcsHigh

/-- What holds of an encoder between two octets. -/
structure Sound (t : Transmit) : Prop where
  active : t.active = false ↔ t.stage = .idle ∨ t.stage = .complete
  opening : t.stage = .openingFlag → t.position = 0 ∧ t.fcs = 0xffff
  position : t.stage = .frame → t.position.toNat < t.length.toNat
  /-- The second half of an escape is due only for an octet that needs one. -/
  second : t.escapeSecond = true → logicalStage t.stage ∧ escaped (logicalByteOf t) = true

section Octet

variable {t : Transmit}

lemma mustEscape_eq (octet : UInt8) : Framing.mustEscape octet Framing.defaultAccm = escaped octet := by
  unfold Framing.mustEscape escaped
  rw [accmContains_default, Bool.or_comm, Bool.or_comm (octet == _), ← Bool.or_assoc]
  rfl

lemma escape_of_escaped {octet : UInt8} (h : escaped octet = true) :
    Framing.escape Framing.defaultAccm octet = [0x7d, octet ^^^ 0x20] := by
  unfold Framing.escape
  rw [mustEscape_eq, if_pos h]

lemma escape_of_not_escaped {octet : UInt8} (h : escaped octet = false) :
    Framing.escape Framing.defaultAccm octet = [octet] := by
  unfold Framing.escape
  rw [mustEscape_eq, h]
  rfl

lemma wire_cons (octet : UInt8) (octets : List UInt8) :
    wire (octet :: octets) = Framing.escape Framing.defaultAccm octet ++ wire octets := by
  unfold wire
  rw [List.flatMap_cons, List.append_assoc]

lemma high_eq (value : UInt16) : high value = (value >>> 8).toUInt8 := by
  apply UInt8.toNat_inj.mp
  rw [toNat_high, UInt16.toNat_toUInt8, UInt16.toNat_shiftRight]
  have hvalue := value.toNat_lt
  change _ = value.toNat >>> 8 % 256
  rw [Nat.shiftRight_eq_div_pow]
  omega

/-- The encoder complements the octets, and the reference the word. -/
lemma leBytes_complement (fcs : UInt16) : Framing.leBytes (fcs ^^^ 0xffff) = [low fcs ^^^ 0xff, high fcs ^^^ 0xff] := by
  unfold Framing.leBytes
  rw [show low fcs = fcs.toUInt8 from rfl, high_eq, UInt16.shiftRight_xor, UInt16.toUInt8_xor, UInt16.toUInt8_xor]
  rfl

/-- At a stage of an octet the first one left is the octet of the stage. -/
lemma logicalLeft_cons (h : Sound t) (hstage : logicalStage t.stage) :
    ∃ octets, logicalLeft t = logicalByteOf t :: octets := by
  unfold logicalLeft logicalByteOf
  rcases hstage with hstage | hstage | hstage
  · rw [hstage]
    have hspace := h.position hstage
    obtain ⟨left, hleft⟩ : ∃ left, t.length.toNat - t.position.toNat = left + 1 :=
      ⟨t.length.toNat - t.position.toNat - 1, by omega⟩
    rw [hleft, read_succ]
    exact ⟨_, rfl⟩
  · rw [hstage, leBytes_complement]
    exact ⟨_, rfl⟩
  · rw [hstage]
    exact ⟨_, rfl⟩

/-- **The octet of the stage is done**: the others are left. -/
theorem finishLogical_remaining (h : Sound t) (hstage : logicalStage t.stage) (hsecond : t.escapeSecond = false)
    (hlogical : t.logicalByte = logicalByteOf t) : Sound (finishLogical t) ∧
    wire (logicalLeft t) = Framing.escape Framing.defaultAccm t.logicalByte ++ remaining (finishLogical t) := by
  have hactive : ¬ t.active = false := by
    rw [h.active]
    rcases hstage with hstage | hstage | hstage <;> simp [hstage]
  rcases hstage with hstage | hstage | hstage
  · have hspace := h.position hstage
    have hnext : (t.position + 1).toNat = t.position.toNat + 1 := by
      have hlength := t.length.toNat_lt
      exact toNat_add_of_lt (by change t.position.toNat + 1 < 2 ^ 16; omega)
    have hbyte : t.logicalByte = t.buffer t.position.toNat := by
      rw [hlogical]
      unfold logicalByteOf
      rw [hstage]
    have hleft : logicalLeft t = t.logicalByte ::
        (read t.buffer (t.position.toNat + 1) (t.length.toNat - (t.position.toNat + 1)) ++
          Framing.leBytes ((read t.buffer (t.position.toNat + 1) (t.length.toNat - (t.position.toNat + 1))).foldl
            Framing.updateFcs16 (updateFcs t.fcs t.logicalByte) ^^^ 0xffff)) := by
      have hcount : t.length.toNat - t.position.toNat = t.length.toNat - (t.position.toNat + 1) + 1 := by omega
      unfold logicalLeft
      rw [hstage]
      dsimp only
      rw [hcount, read_succ, ← hbyte, List.foldl_cons, updateFcs_eq, List.cons_append]
    rw [hleft, wire_cons]
    unfold finishLogical
    rw [hstage]
    dsimp only
    by_cases hlast : t.position + 1 = t.length
    · have hnone : t.length.toNat - (t.position.toNat + 1) = 0 := by
        rw [← hlast, hnext, Nat.sub_self]
      rw [if_pos hlast, hnone]
      refine ⟨⟨by simpa using hactive, by simp, by simp, by simp [hsecond]⟩, ?_⟩
      unfold remaining logicalLeft
      simp [hsecond]
    · rw [if_neg hlast]
      have hmore : (t.position + 1).toNat < t.length.toNat := by
        rw [hnext]
        refine lt_of_le_of_ne hspace fun heq => hlast ?_
        rw [← UInt16.toNat_inj, hnext, heq]
      refine ⟨⟨by simpa using hactive, by simp, fun _ => hmore, by simp [hsecond]⟩, ?_⟩
      unfold remaining logicalLeft
      simp [hsecond, hnext]
  · have hleft : logicalLeft t = [t.logicalByte, high t.fcs ^^^ 0xff] := by
      unfold logicalLeft
      rw [hlogical]
      unfold logicalByteOf
      rw [hstage]
      exact leBytes_complement t.fcs
    rw [hleft, wire_cons]
    unfold finishLogical
    rw [hstage]
    refine ⟨⟨by simpa using hactive, by simp, by simp, by simp [hsecond]⟩, ?_⟩
    unfold remaining logicalLeft
    simp [hsecond]
  · have hleft : logicalLeft t = [t.logicalByte] := by
      unfold logicalLeft
      rw [hlogical]
      unfold logicalByteOf
      rw [hstage]
    rw [hleft, wire_cons]
    unfold finishLogical
    rw [hstage]
    exact ⟨⟨by simpa using hactive, by simp, by simp, by simp [hsecond]⟩, rfl⟩

/-! ### One octet -/

lemma peek_of_logicalStage (hstage : logicalStage t.stage) : pppTransmitPeek t =
    ({ t with logicalByte := logicalByteOf t }, some
      (if escaped (logicalByteOf t) then if t.escapeSecond then logicalByteOf t ^^^ 0x20 else 0x7d
        else logicalByteOf t)) := by
  unfold pppTransmitPeek
  rcases hstage with hstage | hstage | hstage <;>
    (rw [hstage]; dsimp only; cases escaped (logicalByteOf t) <;> rfl)

lemma remaining_of_logicalStage (hstage : logicalStage t.stage) :
    remaining t = if t.escapeSecond then (wire (logicalLeft t)).tail else wire (logicalLeft t) := by
  unfold remaining
  rcases hstage with hstage | hstage | hstage <;> rw [hstage]

/-- Peeking twice is peeking once. -/
lemma advance_peek (t : Transmit) : pppTransmitAdvance (pppTransmitPeek t).1 = pppTransmitAdvance t := by
  cases hstage : t.stage with
  | idle | complete | openingFlag | closingFlag => simp only [pppTransmitPeek, hstage]
  | frame | fcsLow | fcsHigh =>
    have hpeek : (pppTransmitPeek t).1 = { t with logicalByte := logicalByteOf t } := by
      rw [peek_of_logicalStage (by simp [logicalStage, hstage])]
    rw [hpeek]
    unfold pppTransmitAdvance
    rw [peek_of_logicalStage (by simp [logicalStage, hstage]), peek_of_logicalStage (by simp [logicalStage, hstage])]
    rfl

lemma advance_logical_remaining (h : Sound t) (hstage : logicalStage t.stage) : Sound (pppTransmitAdvance t) ∧
    ∃ octet, (pppTransmitPeek t).2 = some octet ∧ remaining t = octet :: remaining (pppTransmitAdvance t) := by
  set u : Transmit := { t with logicalByte := logicalByteOf t } with hu
  have hpeek := peek_of_logicalStage hstage
  have hsound : Sound u := ⟨h.active, h.opening, h.position, h.second⟩
  have hadvance : pppTransmitAdvance t =
      if escaped (logicalByteOf t) then
        if t.escapeSecond then finishLogical { u with escapeSecond := false } else { u with escapeSecond := true }
      else finishLogical u := by
    unfold pppTransmitAdvance
    rw [hpeek]
    rcases hstage with hstage | hstage | hstage <;> simp only [hu, hstage]
  obtain ⟨octets, hcons⟩ := logicalLeft_cons h hstage
  have hlogical : logicalLeft u = logicalLeft t := rfl
  rw [hpeek, hadvance, remaining_of_logicalStage hstage]
  dsimp only
  cases hescaped : escaped (logicalByteOf t) with
  | false =>
    have hsecond : t.escapeSecond = false := by
      by_contra hnot
      exact Bool.false_ne_true (hescaped.symm.trans (h.second (by simpa using hnot)).2)
    obtain ⟨hafter, hwire⟩ := finishLogical_remaining hsound hstage hsecond rfl
    rw [hsecond]
    refine ⟨hafter, _, rfl, ?_⟩
    rw [if_neg (by simp), ← hlogical, hwire, escape_of_not_escaped hescaped]
    rfl
  | true =>
    rw [if_pos rfl, if_pos rfl]
    cases hsecond : t.escapeSecond with
    | false =>
      have hhalf : Sound { u with escapeSecond := true } :=
        ⟨h.active, h.opening, h.position, fun _ => ⟨hstage, hescaped⟩⟩
      have hrest : remaining { u with escapeSecond := true } = (wire (logicalLeft t)).tail :=
        remaining_of_logicalStage (t := { u with escapeSecond := true }) hstage
      refine ⟨hhalf, _, rfl, ?_⟩
      rw [if_neg (by simp), if_neg (by simp), hcons, wire_cons, escape_of_escaped hescaped]
      simp only [Bool.false_eq_true, if_false, hrest, hcons, wire_cons, escape_of_escaped hescaped]
      rfl
    | true =>
      have hwhole : Sound { u with escapeSecond := false } := ⟨h.active, h.opening, h.position, fun h => by cases h⟩
      obtain ⟨hafter, hwire⟩ := finishLogical_remaining hwhole hstage rfl rfl
      have hsame : logicalLeft { u with escapeSecond := false } = logicalLeft t := rfl
      refine ⟨hafter, _, rfl, ?_⟩
      rw [if_pos rfl, if_pos rfl, ← hsame, hwire, escape_of_escaped hescaped]
      rfl

/-- **An accepted octet is the first one that remains**, and the others remain behind it. -/
theorem advance_remaining (h : Sound t) : Sound (pppTransmitAdvance t) ∧
    remaining t = (pppTransmitPeek t).2.toList ++ remaining (pppTransmitAdvance t) := by
  cases hstage : t.stage with
  | frame | fcsLow | fcsHigh =>
    obtain ⟨hafter, octet, hpeek, hremaining⟩ := advance_logical_remaining h (by simp [logicalStage, hstage])
    rw [hpeek]
    exact ⟨hafter, hremaining⟩
  | idle | complete =>
    have hsame : pppTransmitAdvance t = t := by simp only [pppTransmitAdvance, pppTransmitPeek, hstage]
    rw [hsame]
    exact ⟨h, by simp [pppTransmitPeek, hstage]⟩
  | closingFlag =>
    refine ⟨?_, ?_⟩
    · simp only [pppTransmitAdvance, pppTransmitPeek, hstage]
      refine ⟨by simp, by simp, by simp, fun hsecond => ?_⟩
      have := (h.second hsecond).1
      simp [logicalStage, hstage] at this
    · simp [remaining, pppTransmitAdvance, pppTransmitPeek, hstage]
  | openingFlag =>
    obtain ⟨hposition, hfcs⟩ := h.opening hstage
    have hsecond : t.escapeSecond = false := by
      by_contra hnot
      have := (h.second (by simpa using hnot)).1
      simp [logicalStage, hstage] at this
    have hactive : ¬ t.active = false := by
      rw [h.active]
      simp [hstage]
    have hadvance : pppTransmitAdvance t = { t with stage := if t.length = 0 then .fcsLow else .frame } := by
      simp only [pppTransmitAdvance, pppTransmitPeek, hstage]
    rw [hadvance]
    have hwire : remaining t = Framing.flagSequence :: wire (Framing.appendFcs16 t.frame) := by
      unfold remaining
      rw [hstage]
      rfl
    rw [hwire]
    by_cases hempty : t.length = 0
    · rw [if_pos hempty]
      refine ⟨⟨by simpa using hactive, by simp, by simp, by simp [hsecond]⟩, ?_⟩
      have hframe : t.frame = [] := by
        unfold Transmit.frame
        rw [hempty]
        rfl
      simp [remaining, logicalLeft, pppTransmitPeek, hstage, hsecond, hframe, hfcs, Framing.appendFcs16,
        Framing.transmittedFcs16, Framing.fcs16]
    · rw [if_neg hempty]
      have hspace : t.position.toNat < t.length.toNat := by
        rw [hposition]
        exact word_pos hempty
      refine ⟨⟨by simpa using hactive, by simp, fun _ => hspace, by simp [hsecond]⟩, ?_⟩
      simp [remaining, logicalLeft, pppTransmitPeek, hstage, hsecond, hposition, hfcs, Framing.appendFcs16,
        Framing.transmittedFcs16, Framing.fcs16, Transmit.frame]

end Octet

/-! ### One poll -/

section Poll

variable {t : Transmit}

lemma sound_peek (h : Sound t) : Sound (pppTransmitPeek t).1 ∧ remaining (pppTransmitPeek t).1 = remaining t := by
  by_cases hstage : logicalStage t.stage
  · rw [peek_of_logicalStage hstage]
    exact ⟨⟨h.active, h.opening, h.position, h.second⟩, rfl⟩
  · have hsame : (pppTransmitPeek t).1 = t := by
      unfold pppTransmitPeek
      cases ht : t.stage with
      | frame | fcsLow | fcsHigh => exact absurd (by simp [logicalStage, ht]) hstage
      | idle | complete | openingFlag | closingFlag => rfl
    rw [hsame]
    exact ⟨h, rfl⟩

/-- An encoder at rest has nothing to write, and one that is not has an octet to write. -/
lemma remaining_of_inactive (h : Sound t) (hidle : t.active = false) : remaining t = [] := by
  unfold remaining
  rcases h.active.mp hidle with hstage | hstage <;> rw [hstage]

/-- **The octets that a poll writes** are the first ones that remain. -/
theorem fill_remaining (h : Sound t) (budget room : ℕ) :
    Sound (fill budget room t).1 ∧ remaining t = (fill budget room t).2 ++ remaining (fill budget room t).1 := by
  induction budget generalizing t room with
  | zero => exact ⟨h, rfl⟩
  | succ budget ih =>
    obtain ⟨hpeeked, hkept⟩ := sound_peek h
    obtain ⟨hafter, hremaining⟩ := advance_remaining h
    have hadvance := advance_peek t
    unfold fill
    cases hpeek : pppTransmitPeek t with
    | mk u next =>
      rw [hpeek] at hpeeked hkept hremaining hadvance
      dsimp only at hpeeked hkept hremaining hadvance
      cases next with
      | none => exact ⟨hpeeked, hkept.symm⟩
      | some octet =>
        cases room with
        | zero => exact ⟨hpeeked, hkept.symm⟩
        | succ room =>
          dsimp only
          rw [hadvance]
          split_ifs
          · exact ⟨hafter, hremaining⟩
          · obtain ⟨hend, hrest⟩ := ih hafter room
            refine ⟨hend, ?_⟩
            rw [hremaining, hrest]
            rfl

lemma sound_abort (h : Sound t) : Sound (pppTransmitAbort t) := by
  unfold pppTransmitAbort
  split_ifs
  · exact ⟨by simp, by simp, by simp, by simp⟩
  · exact h

lemma active_abort (t : Transmit) : (pppTransmitAbort t).active = false := by
  unfold pppTransmitAbort
  split_ifs with hactive
  · rfl
  · simpa using hactive

lemma abort_of_inactive (hidle : t.active = false) : pppTransmitAbort t = t := by
  unfold pppTransmitAbort
  rw [if_neg (by simp [hidle])]

lemma poll_of_inactive (hidle : t.active = false) (connected : Bool) (room : ℕ) :
    pppTransmitPoll connected room t = (t, []) := by
  unfold pppTransmitPoll
  rw [abort_of_inactive hidle, hidle]
  cases connected <;> rfl

/-- An encoder that has been given a frame has all of it to write. -/
lemma begin_remaining {length : UInt16} (hidle : t.active = false) (hfits : length ≤ maximumTransmitFrameLength) :
    Sound (pppTransmitBegin t length).1 ∧ remaining (pppTransmitBegin t length).1 =
      Framing.encodeAsync (read t.buffer 0 length.toNat) Framing.defaultAccm := by
  rw [transmitBegin_eq, if_pos ⟨hidle, hfits⟩]
  exact ⟨⟨by simp, fun _ => ⟨rfl, rfl⟩, by simp, by simp⟩, rfl⟩

end Poll

/-! ### Runs of polls -/

/-- What happens to the encoder: a poll with the state of the modem driver and the room that it finds, or a layer that
goes down. -/
inductive Event where
  | poll (connected : Bool) (room : ℕ)
  | abort

/-- The encoder after an event, and the octets that go to the TX ring. -/
def Event.run (t : Transmit) : Event → Transmit × List UInt8
  | .poll connected room => pppTransmitPoll connected room t
  | .abort => (pppTransmitAbort t, [])

/-- The encoder of a run with the octets that it has put into the TX ring. -/
structure Sending where
  encoder : Transmit
  sent : List UInt8

def Sending.step (s : Sending) (event : Event) : Sending :=
  let (encoder, octets) := event.run s.encoder
  ⟨encoder, s.sent ++ octets⟩

/-- The event does not end a frame before its closing flag. -/
def Undisturbed (s : Sending) : Event → Prop
  | .poll connected _ => s.encoder.active = true → connected = true
  | .abort => s.encoder.active = false

section Runs

variable {s : Sending} {octets : List UInt8}

/-- What has been sent and what remains make up the frame. -/
structure Underway (octets : List UInt8) (s : Sending) : Prop where
  sound : Sound s.encoder
  whole : s.sent ++ remaining s.encoder = octets

/-- A frame is underway, or it has been cut off. -/
structure Sends (octets : List UInt8) (s : Sending) : Prop where
  sound : Sound s.encoder
  sent : s.sent ++ remaining s.encoder = octets ∨ s.encoder.active = false ∧ s.sent <+: octets

lemma step_of_inactive (hidle : s.encoder.active = false) (event : Event) : s.step event = s := by
  have hrun : event.run s.encoder = (s.encoder, []) := by
    cases event with
    | poll connected room => exact poll_of_inactive hidle connected room
    | abort => exact Prod.ext (abort_of_inactive hidle) rfl
  unfold Sending.step
  rw [hrun]
  dsimp only
  rw [List.append_nil]

/-- An event that leaves the frame alone moves its octets from the encoder to the ring. -/
lemma underway_step (h : Underway octets s) {event : Event} (hundisturbed : Undisturbed s event) :
    Underway octets (s.step event) := by
  by_cases hidle : s.encoder.active = false
  · rw [step_of_inactive hidle]
    exact h
  have hactive : s.encoder.active = true := by simpa using hidle
  cases event with
  | abort => exact absurd hundisturbed hidle
  | poll connected room =>
    obtain rfl : connected = true := hundisturbed hactive
    obtain ⟨hafter, hremaining⟩ := fill_remaining h.sound transmitFillBudget room
    have hstep : s.step (.poll true room) =
        ⟨(fill transmitFillBudget room s.encoder).1, s.sent ++ (fill transmitFillBudget room s.encoder).2⟩ := by
      simp [Sending.step, Event.run, pppTransmitPoll, hactive]
    rw [hstep]
    refine ⟨hafter, ?_⟩
    rw [List.append_assoc, ← hremaining, h.whole]

/-- An event that cuts the frame off writes nothing. -/
lemma step_disturbed (h : Sound s.encoder) {event : Event} (hdisturbed : ¬ Undisturbed s event) :
    Sound (s.step event).encoder ∧ (s.step event).encoder.active = false ∧ (s.step event).sent = s.sent := by
  cases event with
  | abort => exact ⟨sound_abort h, active_abort _, List.append_nil _⟩
  | poll connected room =>
    obtain rfl : connected = false := by
      cases connected with
      | true => exact absurd (fun _ => rfl) hdisturbed
      | false => rfl
    exact ⟨sound_abort h, active_abort _, List.append_nil _⟩

lemma sends_step (h : Sends octets s) (event : Event) : Sends octets (s.step event) := by
  rcases h.sent with hsent | ⟨hidle, hcut⟩
  · by_cases hundisturbed : Undisturbed s event
    · have hkept := underway_step ⟨h.sound, hsent⟩ hundisturbed
      exact ⟨hkept.sound, Or.inl hkept.whole⟩
    · obtain ⟨hsound, hidle, hsame⟩ := step_disturbed h.sound hundisturbed
      refine ⟨hsound, Or.inr ⟨hidle, ?_⟩⟩
      rw [hsame]
      exact ⟨_, hsent⟩
  · rw [step_of_inactive hidle]
    exact h

end Runs

/-- **The octets in the TX ring are a prefix of the encoded frame**, for every schedule of polls and every room that
they find; and they are the encoded frame when the encoder has come to rest and no event has cut the frame off. -/
theorem transmits_frame (t : Transmit) (length : UInt16) (hidle : t.active = false)
    (hfits : length ≤ maximumTransmitFrameLength) (events : List Event) :
    let wire := Framing.encodeAsync (read t.buffer 0 length.toNat) Framing.defaultAccm
    let s := Run.run Sending.step ⟨(pppTransmitBegin t length).1, []⟩ events
    (pppTransmitBegin t length).2 = false ∧ s.sent <+: wire ∧
      (Run.Along Sending.step Undisturbed ⟨(pppTransmitBegin t length).1, []⟩ events → s.encoder.active = false →
        s.sent = wire) := by
  intro wire s
  obtain ⟨hsound, hremaining⟩ := begin_remaining hidle hfits
  refine ⟨?_, ?_, fun hundisturbed hrest => ?_⟩
  · rw [transmitBegin_eq, if_pos ⟨hidle, hfits⟩]
  · have hsends : Sends wire s :=
      Run.run_preserves (fun s event h => sends_step h event) ⟨hsound, Or.inl hremaining⟩
    rcases hsends.sent with hsent | ⟨-, hcut⟩
    · exact ⟨_, hsent⟩
    · exact hcut
  · have hunderway : Underway wire s :=
      Run.run_invariant (fun s event h hguard => underway_step h hguard) ⟨hsound, hremaining⟩ hundisturbed
    rw [← hunderway.whole, remaining_of_inactive hunderway.sound hrest, List.append_nil]

/-- The ring is full between the two halves of an escape, and again before the end. -/
theorem transmits_frame_full_ring : (Run.run Sending.step
      ⟨(pppTransmitBegin ⟨false, .idle, false, 0, 0, 0, 0, fun _ => 0x7e⟩ 1).1, []⟩
      [.poll true 2, .poll true 0, .poll true 2, .poll true 10]).sent = [0x7e, 0x7d, 0x5e, 0x81, 0x6a, 0x7e] := by
  refine ((transmits_frame ⟨false, .idle, false, 0, 0, 0, 0, fun _ => 0x7e⟩ 1 rfl (by decide)
    [.poll true 2, .poll true 0, .poll true 2, .poll true 10]).2.2 ?_ ?_).trans ?_
  · exact ⟨fun _ => rfl, fun _ => rfl, fun _ => rfl, fun _ => rfl, trivial⟩
  · decide +kernel
  · decide +kernel

end SnesModem.Asm.TransmitRefinement
