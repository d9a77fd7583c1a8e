import SnesModem.Asm.Receive
import SnesModem.Rust.Framing

/-!
# The decoder of the console refines the reference decoder

* `abstraction`: the reference decoder that the variables of the console stand for;
* `push_refines`: an octet takes both to the same decoder, and both report the same;
* `outcomes_eq`: so the two report the same for every stream, and the console stays within its buffer.
-/

namespace SnesModem.Asm.DecoderRefinement

open SnesModem.Lib.Octets SnesModem.Rust

/-! ### The check sequences -/

lemma updateFcsBit_eq (fcs : UInt16) : updateFcsBit fcs = Framing.shiftFcs16 fcs := by
  have hbit : fcs &&& 1 ≠ 0 ↔ fcs.toNat % 2 = 1 := by
    rw [Ne, ← UInt16.toNat_inj, UInt16.toNat_and]
    change ¬ fcs.toNat &&& 1 = 0 ↔ _
    rw [Nat.and_one_is_mod]
    omega
  unfold updateFcsBit Framing.shiftFcs16
  by_cases h : fcs.toNat % 2 = 1
  · rw [if_pos h, if_pos (hbit.mpr h)]
  · rw [if_neg h, if_neg (mt hbit.mp h)]

/-- The two update the check sequence alike. -/
theorem updateFcs_eq (fcs : UInt16) (octet : UInt8) : updateFcs fcs octet = Framing.updateFcs16 fcs octet := by
  have hbit : updateFcsBit = Framing.shiftFcs16 := funext updateFcsBit_eq
  unfold updateFcs Framing.updateFcs16
  rw [hbit]
  rfl

lemma fcs16_append (octets : List UInt8) (octet : UInt8) :
    Framing.fcs16 (octets ++ [octet]) = updateFcs (Framing.fcs16 octets) octet := by
  rw [updateFcs_eq]
  exact List.foldl_concat ..

/-- The default ACCM holds all controls. -/
lemma accmContains_default (octet : UInt8) : Framing.accmContains Framing.defaultAccm octet = decide (octet < 0x20) :=
  octet_forall (P := fun octet => Framing.accmContains Framing.defaultAccm octet = decide (octet < 0x20))
    (by decide +kernel) octet

/-! ### What the two report -/

inductive Outcome where
  | frame (octets : List UInt8)
  | tooShort | fcsError | overflow | escapeBeforeFlag
  deriving DecidableEq, Repr

/-- The outcome that an event of the reference decoder reports. -/
def outcomeOf : Framing.DecodeEvent → Outcome
  | .frame octets => .frame octets
  | .fcsError _ => .fcsError
  | .invalidFrame .tooShort => .tooShort
  | .invalidFrame .escapeBeforeFlag => .escapeBeforeFlag
  | .overflow _ => .overflow

/-- The outcome that the variables of the console report, with the frame that the host copies. -/
def outcome (a : Decoder) : Option Outcome :=
  match a.lastEvent with
  | .frame => some (.frame (read a.frameBuffer 0 a.lastFrameLength.toNat))
  | .fcsError => some .fcsError
  | .overflow => some .overflow
  | .invalid => match a.lastInvalidReason with
    | .tooShort => some .tooShort
    | .escapeBeforeFlag => some .escapeBeforeFlag
    | .none => none
  | .none | .carrierLost => none

/-- The console after a stream, and its outcomes in order. -/
def outcomes (a : Decoder) : List UInt8 → Decoder × List Outcome
  | [] => (a, [])
  | octet :: stream =>
    let next := pppDecoderPush a octet
    ((outcomes next stream).1, (outcome next).toList ++ (outcomes next stream).2)

/-! ### The simulation -/

/-- The reference decoder that the variables stand for. -/
def abstraction (a : Decoder) : Framing.AsyncDecoder where
  receiveAccm := Framing.defaultAccm
  maximumUnescapedLength := Framing.defaultMaxUnescapedFrameLength
  frame := read a.frameBuffer 0 a.length.toNat
  synchronized := a.synchronized
  escaped := a.escaped
  overflowed := a.overflowed

/-- The frame so far fits, and the running check sequence is its own; past an overflow that one is stale. -/
structure Sound (a : Decoder) : Prop where
  bounded : a.length.toNat ≤ Framing.defaultMaxUnescapedFrameLength
  fcs : a.overflowed = false → a.fcs = Framing.fcs16 (read a.frameBuffer 0 a.length.toNat)

section Simulation

variable {a : Decoder}

lemma sound_prepared (a : Decoder) : Sound (pppPrepareNextFrame a) := ⟨Nat.zero_le _, fun _ => rfl⟩

lemma sound_reset (a : Decoder) : Sound (pppDecoderReset a) := sound_prepared _

lemma abstraction_reset (a : Decoder) : abstraction (pppDecoderReset a) =
    Framing.AsyncDecoder.new Framing.defaultAccm Framing.defaultMaxUnescapedFrameLength := rfl

lemma finishAtFlag_refines (h : Sound a) (hevent : a.lastEvent = .none) : Sound (pppFinishAtFlag a) ∧
    (abstraction a).finishAtFlag.1 = abstraction (pppFinishAtFlag a) ∧
    outcome (pppFinishAtFlag a) = (abstraction a).finishAtFlag.2.map outcomeOf := by
  obtain ⟨synchronized, escaped, overflowed, fcs, length, event, reason, lastLength, protocol, buffer⟩ := a
  obtain rfl : event = .none := hevent
  cases synchronized with
  | false => exact ⟨sound_prepared _, rfl, rfl⟩
  | true =>
  cases escaped with
  | true => exact ⟨sound_prepared _, rfl, rfl⟩
  | false =>
  cases overflowed with
  | true => exact ⟨sound_prepared _, rfl, rfl⟩
  | false =>
  have hfcs : fcs = Framing.fcs16 (read buffer 0 length.toNat) := h.fcs rfl
  have hempty : read buffer 0 length.toNat = [] ↔ length = 0 := by
    rw [← List.length_eq_zero_iff, length_read, ← UInt16.toNat_inj]
    rfl
  have hshort : (read buffer 0 length.toNat).length < Framing.minimumFrameWithFcsLength ↔
      length < minimumFrameWithFcsLength := by
    rw [length_read]
    rfl
  have hvalid : Framing.hasValidFcs16 (read buffer 0 length.toNat) = true ↔ fcs = goodFcs16 := by
    rw [hfcs]
    exact beq_iff_eq
  unfold pppFinishAtFlag Framing.AsyncDecoder.finishAtFlag
  simp only [abstraction, Bool.not_true, Bool.false_eq_true, if_false, hempty, hshort, Bool.not_eq_true', ← Bool.not_eq_true,
    hvalid]
  by_cases hzero : length = 0
  · rw [if_pos hzero, if_pos hzero]
    exact ⟨h, rfl, rfl⟩
  rw [if_neg hzero, if_neg hzero]
  by_cases hless : length < minimumFrameWithFcsLength
  · rw [if_pos hless, if_pos hless]
    exact ⟨sound_prepared _, rfl, rfl⟩
  rw [if_neg hless, if_neg hless]
  by_cases hgood : fcs = goodFcs16
  · rw [if_pos hgood, if_neg (not_not.mpr hgood)]
    refine ⟨sound_prepared _, rfl, ?_⟩
    -- The frame that the host copies is the one without its check sequence.
    have hlast : (length - 2).toNat = length.toNat - 2 :=
      UInt16.toNat_sub_of_le _ _ (UInt16.le_iff_toNat_le.mpr (by
        have hfour : 4 ≤ length.toNat := UInt16.le_iff_toNat_le.mp (UInt16.not_lt.mp hless)
        exact le_trans (by decide) hfour))
    simp only [outcome, pppPrepareNextFrame, Option.map_some, outcomeOf, hlast, length_read]
    rw [take_read _ _ (Nat.sub_le _ _)]
  · rw [if_neg hgood, if_pos hgood]
    exact ⟨sound_prepared _, rfl, rfl⟩

lemma read_update (buffer : Buffer) (n : ℕ) (octet : UInt8) :
    read (Function.update buffer n octet) 0 (n + 1) = read buffer 0 n ++ [octet] := by
  have hbefore : read (Function.update buffer n octet) 0 n = read buffer 0 n := by
    refine read_congr 0 fun i _ hi => Function.update_of_ne ?_ octet buffer
    omega
  have hlast : read (Function.update buffer n octet) (0 + n) 1 = [octet] := by
    rw [Nat.zero_add, read_succ, read_zero, Function.update_self]
  rw [read_append, hbefore, hlast]

lemma appendOctet_refines (h : Sound a) (octet : UInt8) (hoverflowed : a.overflowed = false) :
    Sound (appendOctet a octet) ∧ (abstraction a).store octet = abstraction (appendOctet a octet) ∧
      (appendOctet a octet).lastEvent = a.lastEvent := by
  have hmaximum : maximumUnescapedFrameLength.toNat = Framing.defaultMaxUnescapedFrameLength := rfl
  unfold appendOctet Framing.AsyncDecoder.store
  by_cases hfull : maximumUnescapedFrameLength ≤ a.length
  · have hlength : (abstraction a).frame.length = (abstraction a).maximumUnescapedLength := by
      rw [show (abstraction a).frame.length = a.length.toNat from length_read _ _ _]
      exact le_antisymm h.bounded (UInt16.le_iff_toNat_le.mp hfull)
    rw [if_pos hfull, if_pos hlength]
    refine ⟨⟨Nat.zero_le _, fun hnot => by cases hnot⟩, rfl, rfl⟩
  · have hspace : a.length.toNat < Framing.defaultMaxUnescapedFrameLength := by
      rw [UInt16.le_iff_toNat_le, hmaximum] at hfull
      exact Nat.lt_of_not_le hfull
    have hlength : (abstraction a).frame.length ≠ (abstraction a).maximumUnescapedLength := by
      rw [show (abstraction a).frame.length = a.length.toNat from length_read _ _ _]
      exact hspace.ne
    have hnext : (a.length + 1).toNat = a.length.toNat + 1 := by
      rw [UInt16.toNat_add]
      exact Nat.mod_eq_of_lt (lt_of_le_of_lt hspace (by decide))
    have hread : read (Function.update a.frameBuffer a.length.toNat octet) 0 (a.length + 1).toNat =
        read a.frameBuffer 0 a.length.toNat ++ [octet] := by
      rw [hnext, read_update]
    rw [if_neg hfull, if_neg hlength]
    refine ⟨⟨?_, fun _ => ?_⟩, ?_, rfl⟩
    · change (a.length + 1).toNat ≤ _
      rw [hnext]
      exact hspace
    · change updateFcs a.fcs octet = Framing.fcs16 (read (Function.update a.frameBuffer a.length.toNat octet) 0
        (a.length + 1).toNat)
      rw [hread, fcs16_append, h.fcs hoverflowed]
    · unfold abstraction
      dsimp only
      rw [hread]

/-- **An octet takes both decoders to the same one**, and both report the same. -/
theorem push_refines (h : Sound a) (octet : UInt8) : Sound (pppDecoderPush a octet) ∧
    ((abstraction a).push octet).1 = abstraction (pppDecoderPush a octet) ∧
    outcome (pppDecoderPush a octet) = ((abstraction a).push octet).2.map outcomeOf := by
  have hidle : Sound { a with lastEvent := .none } := ⟨h.bounded, h.fcs⟩
  have hstays {b : Decoder} (hevent : b.lastEvent = .none) : outcome b = none := by simp [outcome, hevent]
  have hignored : (!(abstraction a).synchronized || (abstraction a).overflowed) = (!a.synchronized || a.overflowed) := rfl
  have hpending : (abstraction a).escaped = a.escaped := rfl
  unfold pppDecoderPush Framing.AsyncDecoder.push
  rw [hignored, hpending, show (abstraction a).receiveAccm = Framing.defaultAccm from rfl, accmContains_default]
  dsimp only
  by_cases hflag : octet = 0x7e
  · rw [if_pos hflag, if_pos hflag]
    exact finishAtFlag_refines hidle rfl
  rw [if_neg hflag, if_neg hflag]
  by_cases hignore : (!a.synchronized || a.overflowed) = true
  · rw [if_pos hignore, if_pos hignore]
    exact ⟨hidle, rfl, rfl⟩
  rw [if_neg hignore, if_neg hignore]
  have hoverflowed : a.overflowed = false := by
    rw [Bool.not_eq_true, Bool.or_eq_false_iff] at hignore
    exact hignore.2
  by_cases hcontrol : octet < 0x20
  · rw [if_pos hcontrol, if_pos (decide_eq_true hcontrol)]
    exact ⟨hidle, rfl, rfl⟩
  have hkept : ¬ decide (octet < 0x20) = true := fun h => hcontrol (of_decide_eq_true h)
  rw [if_neg hcontrol, if_neg hkept]
  by_cases hescaped : a.escaped = true
  · rw [if_pos hescaped, if_pos hescaped]
    obtain ⟨hsound, hsame, hevent⟩ :=
      appendOctet_refines (a := { a with lastEvent := .none, escaped := false }) ⟨h.bounded, h.fcs⟩ (octet ^^^ 0x20)
        hoverflowed
    exact ⟨hsound, hsame, hstays hevent⟩
  rw [if_neg hescaped, if_neg hescaped]
  by_cases hescape : octet = 0x7d
  · rw [if_pos hescape, if_pos hescape]
    exact ⟨⟨h.bounded, h.fcs⟩, rfl, rfl⟩
  rw [if_neg hescape, if_neg hescape]
  obtain ⟨hsound, hsame, hevent⟩ := appendOctet_refines hidle octet hoverflowed
  exact ⟨hsound, hsame, hstays hevent⟩

theorem outcomes_refines (h : Sound a) (stream : List UInt8) : Sound (outcomes a stream).1 ∧
    (outcomes a stream).2 = ((abstraction a).feed stream).2.map outcomeOf := by
  induction stream generalizing a with
  | nil => exact ⟨h, rfl⟩
  | cons octet stream ih =>
    obtain ⟨hsound, hsame, hreport⟩ := push_refines h octet
    obtain ⟨hend, hrest⟩ := ih hsound
    refine ⟨hend, ?_⟩
    simp only [outcomes, Framing.AsyncDecoder.feed]
    rw [hreport, hrest, hsame, List.map_append]
    cases ((abstraction a).push octet).2 <;> rfl

lemma appendOctet_buffer (a : Decoder) (octet : UInt8) : (appendOctet a octet).frameBuffer = a.frameBuffer ∨
    a.length.toNat < Framing.defaultMaxUnescapedFrameLength ∧
      (appendOctet a octet).frameBuffer = Function.update a.frameBuffer a.length.toNat octet := by
  unfold appendOctet
  split_ifs with hfull
  · exact Or.inl rfl
  · rw [UInt16.le_iff_toNat_le] at hfull
    exact Or.inr ⟨Nat.lt_of_not_le hfull, rfl⟩

/-- An octet is written behind the frame so far, below the maximum, or not at all. -/
theorem push_buffer (a : Decoder) (octet : UInt8) : (pppDecoderPush a octet).frameBuffer = a.frameBuffer ∨
    a.length.toNat < Framing.defaultMaxUnescapedFrameLength ∧
      ∃ value, (pppDecoderPush a octet).frameBuffer = Function.update a.frameBuffer a.length.toNat value := by
  unfold pppDecoderPush
  dsimp only
  split_ifs
  · left
    unfold pppFinishAtFlag
    split_ifs <;> rfl
  · exact Or.inl rfl
  · exact Or.inl rfl
  · rcases appendOctet_buffer { a with lastEvent := .none, escaped := false } (octet ^^^ 0x20) with h | ⟨hspace, h⟩
    · exact Or.inl h
    · exact Or.inr ⟨hspace, _, h⟩
  · exact Or.inl rfl
  · rcases appendOctet_buffer { a with lastEvent := .none } octet with h | ⟨hspace, h⟩
    · exact Or.inl h
    · exact Or.inr ⟨hspace, _, h⟩

end Simulation

/-- **The console decodes as the reference does**: from a reset on the two report the same outcomes for every stream,
and behind it an octet is written below the maximum or not at all. -/
theorem outcomes_eq (a : Decoder) (stream : List UInt8) :
    (outcomes (pppDecoderReset a) stream).2 =
      ((Framing.AsyncDecoder.new Framing.defaultAccm Framing.defaultMaxUnescapedFrameLength).feed stream).2.map outcomeOf ∧
    ∀ octet, let b := (outcomes (pppDecoderReset a) stream).1
      (pppDecoderPush b octet).frameBuffer = b.frameBuffer ∨
      b.length.toNat < Framing.defaultMaxUnescapedFrameLength ∧
        ∃ value, (pppDecoderPush b octet).frameBuffer = Function.update b.frameBuffer b.length.toNat value :=
  ⟨(outcomes_refines (sound_reset a) stream).2, fun octet => push_buffer _ octet⟩

/-- A frame behind noise, a segment that is too short, and an escape before the flag. -/
example (a : Decoder) : (outcomes (pppDecoderReset a)
    [1, 0x7e, 0xff, 0x7d, 0x11, 0x5e, 0x7d, 0x5e, 0x6a, 0x7e, 0xff, 0x7e, 0x7d, 0x7e]).2 =
      [.frame [0xff, 0x7e], .tooShort, .escapeBeforeFlag] := by
  rw [(outcomes_refines (sound_reset a) _).2, abstraction_reset]
  decide +kernel

end SnesModem.Asm.DecoderRefinement
