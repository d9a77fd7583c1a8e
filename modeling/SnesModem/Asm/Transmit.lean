import SnesModem.Asm.State

/-!
# `ppp/transmit.asm`

The restartable encoder, which hands the transmit buffer to the TX ring octet by octet.
-/

namespace SnesModem.Asm

open SnesModem.Lib.Octets

/-- `pppTransmitInitialize`; the buffer stays. -/
def pppTransmitInitialize (t : Transmit) : Transmit where
  active := false
  stage := .idle
  escapeSecond := false
  length := 0
  position := 0
  fcs := 0
  logicalByte := 0
  buffer := t.buffer

/-- `pppTransmitBegin`: the carry is set if the frame is too long or the encoder busy. -/
def pppTransmitBegin (t : Transmit) (length : UInt16) : Transmit × Bool :=
  if maximumTransmitFrameLength < length then (t, true)
  else if t.active then (t, true)
  else
    ({ t with
      length := length
      position := 0
      fcs := 0xffff
      escapeSecond := false
      stage := .openingFlag
      active := true }, false)

/-- The frame that the encoder was given. -/
def Transmit.frame (t : Transmit) : List UInt8 := read t.buffer 0 t.length.toNat

/-- A frame put into the transmit buffer and given to the encoder. -/
def sendFrame (t : Transmit) (frame : List UInt8) : Transmit × Bool :=
  pppTransmitBegin { t with buffer := write t.buffer 0 frame } (UInt16.ofNat frame.length)

/-- The header of a frame and its first payload octet lie before the octets that are wiped. -/
abbrev scrubOffset : ℕ := 8
abbrev scrubEnd : ℕ := 42

/-- `pppPapScrubTransmitBuffer`: credentials and responses do not outlive their frame. -/
def pppPapScrubTransmitBuffer (buffer : Buffer) : Buffer :=
  if (buffer 2 = 0xc0 ∨ buffer 2 = 0xc2) ∧ buffer 3 = 0x23 then
    write buffer scrubOffset (List.replicate (scrubEnd - scrubOffset) 0)
  else buffer

def pppTransmitAbort (t : Transmit) : Transmit :=
  if t.active then
    { t with buffer := pppPapScrubTransmitBuffer t.buffer, active := false, escapeSecond := false, stage := .idle }
  else t

/-- The octet that needs a control escape. -/
def escaped (octet : UInt8) : Bool := octet < 0x20 || octet = 0x7d || octet = 0x7e

/-- The octet of the frame or of its check sequence at this stage. -/
def logicalByteOf (t : Transmit) : UInt8 :=
  match t.stage with
  | .fcsLow => low t.fcs ^^^ 0xff
  | .fcsHigh => high t.fcs ^^^ 0xff
  | _ => t.buffer t.position.toNat

/-- `pppTransmitPeek`: the next octet on the wire. -/
def pppTransmitPeek (t : Transmit) : Transmit × Option UInt8 :=
  match t.stage with
  | .idle | .complete => (t, none)
  | .openingFlag | .closingFlag => (t, some 0x7e)
  | .frame | .fcsLow | .fcsHigh =>
    let octet := logicalByteOf t
    let t := { t with logicalByte := octet }
    if escaped octet then (t, some (if t.escapeSecond then octet ^^^ 0x20 else 0x7d)) else (t, some octet)

/-- One turn of `bitLoop`. -/
def updateFcsBit (fcs : UInt16) : UInt16 :=
  if fcs.toNat % 2 = 1 then (fcs >>> 1) ^^^ 0x8408 else fcs >>> 1

/-- `pppUpdateFcs` and `pppTransmitUpdateFcs`. -/
def updateFcs (fcs : UInt16) (octet : UInt8) : UInt16 :=
  (List.range 8).foldl (fun fcs _ => updateFcsBit fcs) (fcs ^^^ octet.toUInt16)

/-- `finishLogical`. -/
def finishLogical (t : Transmit) : Transmit :=
  match t.stage with
  | .frame =>
    let t := { t with fcs := updateFcs t.fcs t.logicalByte, position := t.position + 1 }
    if t.position = t.length then { t with stage := .fcsLow } else t
  | .fcsLow => { t with stage := .fcsHigh }
  | _ => { t with stage := .closingFlag }

/-- `pppTransmitAdvance`: the octet peeked at was accepted. -/
def pppTransmitAdvance (t : Transmit) : Transmit :=
  match pppTransmitPeek t with
  | (t, none) => t
  | (t, some _) =>
    match t.stage with
    | .openingFlag => { t with stage := if t.length = 0 then .fcsLow else .frame }
    | .closingFlag =>
      { t with buffer := pppPapScrubTransmitBuffer t.buffer, stage := .complete, active := false }
    | _ =>
      if escaped t.logicalByte then
        if t.escapeSecond then finishLogical { t with escapeSecond := false } else { t with escapeSecond := true }
      else finishLogical t

abbrev transmitFillBudget : ℕ := 32

/-- `fill`: the octets that go to the TX ring, which has room for so many. -/
def fill : ℕ → ℕ → Transmit → Transmit × List UInt8
  | 0, _, t => (t, [])
  | budget + 1, room, t =>
    match pppTransmitPeek t, room with
    | (t, none), _ => (t, [])
    | (t, some _), 0 => (t, [])
    | (t, some octet), room + 1 =>
      let t := pppTransmitAdvance t
      if !t.active then (t, [octet])
      else
        let filled := fill budget room t
        (filled.1, octet :: filled.2)

/-- `pppTransmitPoll`, with the state of the modem driver and the room in the TX ring. -/
def pppTransmitPoll (connected : Bool) (room : ℕ) (t : Transmit) : Transmit × List UInt8 :=
  if !connected then (pppTransmitAbort t, [])
  else if !t.active then (t, [])
  else fill transmitFillBudget room t

/-! ### What the encoder was given -/

section Begin

variable {t : Transmit} {length : UInt16}

/-- The encoder takes a frame exactly when it is idle and the frame fits. -/
lemma transmitBegin_eq : pppTransmitBegin t length =
    if t.active = false ∧ length ≤ maximumTransmitFrameLength then
      ({ t with
        length := length
        position := 0
        fcs := 0xffff
        escapeSecond := false
        stage := .openingFlag
        active := true }, false)
    else (t, true) := by
  unfold pppTransmitBegin
  by_cases hlong : maximumTransmitFrameLength < length
  · rw [if_pos hlong, if_neg fun h => absurd h.2 (UInt16.not_le.mpr hlong)]
  · rw [if_neg hlong]
    cases hactive : t.active with
    | true => simp
    | false =>
      have hfits : false = false ∧ length ≤ maximumTransmitFrameLength := ⟨rfl, UInt16.not_lt.mp hlong⟩
      rw [if_pos hfits]
      rfl

/-- A short frame given to an idle encoder is the frame it has. -/
theorem sendFrame_idle {frame : List UInt8} (hidle : t.active = false) (hshort : frame.length ≤ 1504) :
    (sendFrame t frame).2 = false ∧ (sendFrame t frame).1.active = true ∧ (sendFrame t frame).1.frame = frame := by
  have hlength : (UInt16.ofNat frame.length).toNat = frame.length :=
    UInt16.toNat_ofNat_of_lt' (show frame.length < 2 ^ 16 by omega)
  have hle : UInt16.ofNat frame.length ≤ maximumTransmitFrameLength := by
    rw [UInt16.le_iff_toNat_le, hlength]
    exact hshort
  have hsend : sendFrame t frame = ({ t with
      buffer := write t.buffer 0 frame
      length := UInt16.ofNat frame.length
      position := 0
      fcs := 0xffff
      escapeSecond := false
      stage := .openingFlag
      active := true }, false) := by
    unfold sendFrame
    rw [transmitBegin_eq, if_pos ⟨hidle, hle⟩]
  rw [hsend]
  refine ⟨rfl, rfl, ?_⟩
  unfold Transmit.frame
  dsimp only
  rw [hlength, read_write]

end Begin

end SnesModem.Asm
