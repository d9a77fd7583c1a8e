import SnesModem.Asm.Mailbox
import SnesModem.Asm.RingFifo
import SnesModem.Lib.Words

/-!
# `modem/speedTest.asm`, word by word

The speed test with its long numbers as pairs of words.  The frame counter can go on between any two of its reads, so
a routine takes the values that its reads find, in their order.

* `Test`, `Tester`: the variables of the test, the modem and the mailbox;
* `modemSpeedTestBeginTransmit`, `modemSpeedTestBeginReceive`: the carry is set if the test is refused;
* `modemSpeedTestPoll`: its loops stop without a result if their fuel does not last.
-/

namespace SnesModem.Asm.Speed

open SnesModem.Lib.Cpu65816 SnesModem.Lib.Octets SnesModem.Lib.Words

/-- The variables of the speed test. -/
structure Test where
  mode : SpeedTestMode
  remaining : Long
  processed : Long
  lfsr : UInt16
  mismatchCount : Long
  firstMismatch : Long
  expected : UInt8
  actual : UInt8
  startFrame : Long
  endFrame : Long
  lastFrame : UInt16
  frameQuota : UInt8
  deriving Inhabited

structure Tester where
  modem : Modem
  mailbox : Mailbox
  test : Test
  deriving Inhabited

namespace Test

/-- `modemSpeedTestHasRemaining`. -/
def hasRemaining (t : Test) : Bool := t.remaining ≠ ⟨0, 0⟩

/-- `modemSpeedTestAdvance`. -/
def advance (t : Test) : Test :=
  { t with
    lfsr := if t.lfsr &&& 1 = 0 then t.lfsr >>> 1 else (t.lfsr >>> 1) ^^^ 0xb400
    processed := t.processed.inc
    remaining := t.remaining.dec }

/-- `modemSpeedTestRecordMismatch`. -/
def recordMismatch (t : Test) : Test :=
  { t with
    firstMismatch := if t.mismatchCount = ⟨0, 0⟩ then t.processed else t.firstMismatch
    mismatchCount := t.mismatchCount.inc }

def longOctets (x : Long) : List UInt8 := [low x.low, high x.low, low x.high, high x.high]

/-- The octets that the test leaves in the output. -/
def report (t : Test) : List UInt8 :=
  longOctets t.processed ++ longOctets t.mismatchCount ++ longOctets t.firstMismatch ++ [t.expected, t.actual] ++
    longOctets t.startFrame ++ longOctets t.endFrame

end Test

namespace Tester

/-! ### Beginning -/

def argumentLength (s : Tester) : Long :=
  ⟨word (s.mailbox.arguments 1) (s.mailbox.arguments 0), word (s.mailbox.arguments 3) (s.mailbox.arguments 2)⟩

def argumentSeed (s : Tester) : UInt16 := word (s.mailbox.arguments 5) (s.mailbox.arguments 4)

def argumentBytesPerFrame (s : Tester) : UInt8 := s.mailbox.arguments 6

def modemSpeedTestBegin (mode : SpeedTestMode) (frames : ℕ → Long) (s : Tester) : Tester × Bool :=
  if s.argumentLength = ⟨0, 0⟩ ∨ s.argumentSeed = 0 ∨ s.argumentBytesPerFrame = 0 then (s, true)
  else
    ({ s with
      test :=
        { s.test with
          remaining := s.argumentLength
          lfsr := s.argumentSeed
          processed := ⟨0, 0⟩
          mismatchCount := ⟨0, 0⟩
          firstMismatch := ⟨0xffff, 0xffff⟩
          startFrame := ⟨(frames 0).low, (frames 1).high⟩
          lastFrame := (frames 0).low
          expected := 0
          actual := 0
          frameQuota := s.argumentBytesPerFrame
          mode := mode } }, false)

def modemSpeedTestBeginTransmit (frames : ℕ → Long) (s : Tester) : Tester × Bool :=
  if s.modem.driverState ≠ .connected then (s, true)
  else if s.modem.transmit.readIndex ≠ s.modem.transmit.writeIndex then (s, true)
  else s.modemSpeedTestBegin .transmit frames

def modemSpeedTestBeginReceive (frames : ℕ → Long) (s : Tester) : Tester × Bool :=
  if s.modem.driverState ≠ .connected then (s, true) else s.modemSpeedTestBegin .receive frames

/-! ### Polling -/

/-- `modemSpeedTestRefreshQuota`; the quota is read from the arguments again. -/
def refreshQuota (frameCounter : UInt16) (s : Tester) : Tester :=
  if frameCounter = s.test.lastFrame then s
  else { s with test := { s.test with lastFrame := frameCounter, frameQuota := s.argumentBytesPerFrame } }

/-- `modemSpeedTestFinish`. -/
def finish (frames : ℕ → Long) (s : Tester) : Tester :=
  let t := { s.test with endFrame := ⟨(frames 0).low, (frames 1).high⟩ }
  { s with
    mailbox :=
      { s.mailbox with
        output := write s.mailbox.output 0 t.report
        result := t.mismatchCount.low
        status := .passed }
    test := { t with mode := .idle } }

/-- `@transmit`. -/
def transmit : ℕ → (ℕ → Long) → Tester → Option Tester
  | 0, _, _ => none
  | fuel + 1, frames, s =>
    if !s.test.hasRemaining then
      -- `@transmitDrain`
      some (if s.modem.transmit.readIndex ≠ s.modem.transmit.writeIndex then s else s.finish frames)
    else
      let s := s.refreshQuota (frames 0).low
      if s.test.frameQuota = 0 then some s
      else if s.modem.transmit.writeIndex + 1 = s.modem.transmit.readIndex then some s
      else
        match modemQueueByte s.test.lfsr.toUInt8 s.modem with
        | (modem, true) => some { s with modem := modem }
        | (modem, false) =>
          transmit fuel (fun i => frames (i + 1))
            { s with modem := modem, test := { s.test.advance with frameQuota := s.test.frameQuota - 1 } }

/-- `@receive`. -/
def receive (frames : ℕ → Long) : ℕ → Tester → Option Tester
  | 0, _ => none
  | fuel + 1, s =>
    if !s.test.hasRemaining then some (s.finish frames)
    else
      match modemReadByte s.modem with
      | (modem, none) => some { s with modem := modem }
      | (modem, some octet) =>
        let t := { s.test with actual := octet, expected := s.test.lfsr.toUInt8 }
        let t := if t.expected = t.actual then t else t.recordMismatch
        receive frames fuel { s with modem := modem, test := t.advance }

/-- The end of a test whose connection is gone. -/
def abandon (s : Tester) : Tester :=
  { s with
    mailbox := { s.mailbox with result := storeLow s.mailbox.result ModemError.atInvalid.code, status := .failed }
    test := { s.test with mode := .idle } }

def modemSpeedTestPoll (fuel : ℕ) (frames : ℕ → Long) (s : Tester) : Option Tester :=
  match s.test.mode with
  | .idle => some s
  | .transmit => if s.modem.driverState ≠ .connected then some s.abandon else transmit fuel frames s
  | .receive => if s.modem.driverState ≠ .connected then some s.abandon else receive frames fuel s

end Tester

end SnesModem.Asm.Speed
