import SnesModem.Asm.Transmit

/-!
# `ppp/framing.asm` and `ppp/receive.asm`

The decoder of the asynchronous octet stream, and the drain of the RX ring into it.  A completed frame stops
the drain until it is released.
-/

namespace SnesModem.Asm

open SnesModem.Lib.Cpu65816 SnesModem.Lib.Octets

abbrev maximumUnescapedFrameLength : UInt16 := 1506
abbrev minimumFrameWithFcsLength : UInt16 := 4
abbrev initialFcs16 : UInt16 := 0xffff
abbrev goodFcs16 : UInt16 := 0xf0b8
abbrev receiveDrainBudget : ℕ := 32

/-! ### The decoder -/

/-- `pppPrepareNextFrame`; the flag of the synchronization stays. -/
def pppPrepareNextFrame (d : Decoder) : Decoder :=
  { d with escaped := false, overflowed := false, length := 0, fcs := initialFcs16 }

def pppDecoderReset (d : Decoder) : Decoder :=
  pppPrepareNextFrame { d with
    synchronized := false
    lastEvent := .none
    lastInvalidReason := .none
    lastFrameLength := 0
    lastProtocol := 0 }

def pppDecoderDiscardPartial : Decoder → Decoder := pppPrepareNextFrame

/-- The protocol of an uncompressed header, else `$0000`. -/
def frameProtocol (buffer : Buffer) : UInt16 :=
  if buffer 0 = 0xff ∧ buffer 1 = 0x03 then word (buffer 2) (buffer 3) else 0

/-- `pppFinishAtFlag`. -/
def pppFinishAtFlag (d : Decoder) : Decoder :=
  if !d.synchronized then pppPrepareNextFrame { d with synchronized := true }
  else if d.escaped then
    pppPrepareNextFrame { d with lastInvalidReason := .escapeBeforeFlag, lastEvent := .invalid }
  else if d.overflowed then pppPrepareNextFrame { d with lastEvent := .overflow }
  else if d.length = 0 then d
  else if d.length < minimumFrameWithFcsLength then
    pppPrepareNextFrame { d with lastInvalidReason := .tooShort, lastEvent := .invalid }
  else if d.fcs = goodFcs16 then
    pppPrepareNextFrame { d with
      lastFrameLength := d.length - 2
      lastProtocol := frameProtocol d.frameBuffer
      lastEvent := .frame }
  else pppPrepareNextFrame { d with lastEvent := .fcsError }

/-- `@append`. -/
def appendOctet (d : Decoder) (octet : UInt8) : Decoder :=
  if maximumUnescapedFrameLength ≤ d.length then { d with overflowed := true, length := 0 }
  else { d with
    frameBuffer := Function.update d.frameBuffer d.length.toNat octet
    fcs := updateFcs d.fcs octet
    length := d.length + 1 }

/-- `pppDecoderPush`; the event is `lastEvent`. -/
def pppDecoderPush (d : Decoder) (octet : UInt8) : Decoder :=
  let d := { d with lastEvent := .none }
  if octet = 0x7e then pppFinishAtFlag d
  else if !d.synchronized || d.overflowed then d
  -- An injected control octet leaves a pending escape pending.
  else if octet < 0x20 then d
  else if d.escaped then appendOctet { d with escaped := false } (octet ^^^ 0x20)
  else if octet = 0x7d then { d with escaped := true }
  else appendOctet d octet

/-! ### The owner of the RX ring -/

/-- `pppReceiveInitialize`; the frame buffer stays. -/
def pppReceiveInitialize (r : Receive) : Receive where
  enabled := false
  active := false
  frameReady := false
  carrierLineIndex := 0
  decoder := pppDecoderReset r.decoder

def pppReceivePushByte (r : Receive) (octet : UInt8) : Receive :=
  let decoder := pppDecoderPush r.decoder octet
  { r with decoder := decoder, frameReady := r.frameReady || decoder.lastEvent = .frame }

/-- `NO CARRIER` and the end of the line. -/
def carrierLine : List UInt8 := [0x4e, 0x4f, 0x20, 0x43, 0x41, 0x52, 0x52, 0x49, 0x45, 0x52, 0x0d, 0x0a]

/-- `pppReceivePushConnectedByte`: whether the octet completes the line that reports the loss of the carrier.
-/
def pppReceivePushConnectedByte (r : Receive) (octet : UInt8) : Receive × Bool :=
  if carrierLine[r.carrierLineIndex]? = some octet then
    if r.carrierLineIndex = 11 then
      ({ r with
        carrierLineIndex := 0
        enabled := false
        active := false
        frameReady := false
        decoder := pppDecoderDiscardPartial r.decoder }, true)
    else (pppReceivePushByte { r with carrierLineIndex := r.carrierLineIndex + 1 } octet, false)
  else (pppReceivePushByte { r with carrierLineIndex := if octet = 0x4e then 1 else 0 } octet, false)

/-- `drain`: the octets in the ring, until the budget is spent, a frame is complete or the carrier is lost.
What is left in the ring after a loss is discarded. -/
def drain : ℕ → List UInt8 → Receive → Receive
  | 0, _, r => r
  | _, [], r => r
  | budget + 1, octet :: octets, r =>
    match pppReceivePushConnectedByte r octet with
    | (r, true) => r
    | (r, false) => if r.frameReady then r else drain budget octets r

/-- `connected`, up to `checkFrameOwnership`: the decoder starts afresh when the ring is taken over. -/
def activate (r : Receive) : Receive :=
  if r.active then r
  else { r with active := true, frameReady := false, decoder := pppDecoderReset r.decoder }

/-- `pppReceivePoll`, with the state of the modem driver and the octets in the RX ring. -/
def pppReceivePoll (connected : Bool) (ring : List UInt8) (r : Receive) : Receive :=
  if !r.enabled || !connected then { r with active := false }
  else
    let r := activate r
    if r.frameReady then r else drain receiveDrainBudget ring r

def pppReceiveStart (r : Receive) : Receive := { r with enabled := true, active := false, frameReady := false }

def pppReceiveStop (r : Receive) : Receive := { r with enabled := false, active := false, frameReady := false }

def pppReleaseFrame (r : Receive) : Receive := { r with frameReady := false }

/-! ### A frame that is not released -/

/-- A poll that does not take the ring over leaves a completed frame alone. -/
lemma receivePoll_of_frameReady {connected : Bool} {r : Receive} (ring : List UInt8) (hready : r.frameReady = true)
    (hactive : r.enabled = true → connected = true → r.active = true) :
    (pppReceivePoll connected ring r).frameReady = true ∧ (pppReceivePoll connected ring r).decoder = r.decoder ∧
      (pppReceivePoll connected ring r).enabled = r.enabled := by
  unfold pppReceivePoll
  by_cases hidle : (!r.enabled || !connected) = true
  · rw [if_pos hidle]
    exact ⟨hready, rfl, rfl⟩
  · rw [if_neg hidle]
    have hup : r.enabled = true ∧ connected = true := by simpa using hidle
    have hsame : activate r = r := if_pos (hactive hup.1 hup.2)
    rw [hsame]
    dsimp only
    rw [if_pos hready]
    exact ⟨hready, rfl, rfl⟩

end SnesModem.Asm
