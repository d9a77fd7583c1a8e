import SnesModem.Asm.Modem

/-!
# `modem/mailbox.asm` and `modem/speedTest.asm`

The mailbox that the host shares with the console, and the speed test that publishes its result in it.  What the
PPP stack answers to a command is an input.
-/

namespace SnesModem.Asm

open SnesModem.Lib.Cpu65816 SnesModem.Lib.Octets

/-- `MODEM_MAILBOX_STATUS_*`. -/
inductive MailboxStatus where
  | idle | pending | running | passed | failed
  deriving DecidableEq, Repr, Inhabited

/-- The variables of the mailbox. -/
structure Mailbox where
  hostSequence : UInt32
  processedSequence : UInt32
  command : UInt8
  status : MailboxStatus
  result : UInt16
  arguments : Buffer
  output : Buffer
  deriving Inhabited

/-- `MODEM_SPEED_TEST_*`. -/
inductive SpeedTestMode where
  | idle | transmit | receive
  deriving DecidableEq, Repr, Inhabited

/-- The variables of the speed test. -/
structure SpeedTest where
  mode : SpeedTestMode
  remaining : UInt32
  processed : UInt32
  lfsr : UInt16
  mismatchCount : UInt32
  firstMismatch : UInt32
  expected : UInt8
  actual : UInt8
  startFrame : UInt32
  endFrame : UInt32
  lastFrame : UInt16
  frameQuota : UInt8
  deriving Inhabited

/-- The modem driver, the mailbox and the speed test. -/
structure Console where
  modem : Modem
  mailbox : Mailbox
  speedTest : SpeedTest

/-- The variables after the initializations of `reset.asm`, in cleared memory. -/
def Console.initial : Console := ⟨modemInitializeDiagnostics, default, default⟩

/-- A word whose low octet is stored. -/
def storeLow (value : UInt16) (octet : UInt8) : UInt16 := word (high value) octet

/-- The double word at an offset, low octet first. -/
def longAt (buffer : Buffer) (offset : ℕ) : UInt32 :=
  (word (buffer (offset + 3)) (buffer (offset + 2))).toUInt32 <<< 16 |||
    (word (buffer (offset + 1)) (buffer offset)).toUInt32

/-- The octets of a double word, low octet first. -/
def longOctets (value : UInt32) : List UInt8 :=
  [value.toUInt8, (value >>> 8).toUInt8, (value >>> 16).toUInt8, (value >>> 24).toUInt8]

namespace Console

variable (c : Console)

/-- The end of a command, with the low octet of its result. -/
def finish (status : MailboxStatus) (result : UInt8) : Console :=
  { c with mailbox := { c.mailbox with status := status, result := storeLow c.mailbox.result result } }

/-- The end of a command that leaves the result alone. -/
def pass : Console := { c with mailbox := { c.mailbox with status := .passed } }

/-- `@binaryInvalid`. -/
def binaryInvalid : Console := c.finish .failed ModemError.atInvalid.code

/-! ### The speed test -/

/-- `modemSpeedTestBegin`; the carry is set if the arguments are refused. -/
def speedTestBegin (mode : SpeedTestMode) (now : UInt32) : Console × Bool :=
  let length := longAt c.mailbox.arguments 0
  let seed := word (c.mailbox.arguments 5) (c.mailbox.arguments 4)
  let bytesPerFrame := c.mailbox.arguments 6
  if length = 0 ∨ seed = 0 ∨ bytesPerFrame = 0 then (c, true)
  else
    ({ c with
      speedTest :=
        { c.speedTest with
          mode := mode
          remaining := length
          processed := 0
          lfsr := seed
          mismatchCount := 0
          firstMismatch := 0xffffffff
          expected := 0
          actual := 0
          startFrame := now
          lastFrame := now.toUInt16
          frameQuota := bytesPerFrame } }, false)

/-- `modemSpeedTestBeginTransmit`. -/
def speedTestBeginTransmit (now : UInt32) : Console × Bool :=
  if c.modem.driverState ≠ .connected ∨ !c.modem.transmit.isEmpty then (c, true) else c.speedTestBegin .transmit now

/-- `modemSpeedTestBeginReceive`. -/
def speedTestBeginReceive (now : UInt32) : Console × Bool :=
  if c.modem.driverState ≠ .connected then (c, true) else c.speedTestBegin .receive now

end Console

namespace SpeedTest

/-- `modemSpeedTestAdvance`. -/
def advance (t : SpeedTest) : SpeedTest :=
  { t with
    lfsr := if t.lfsr &&& 1 = 0 then t.lfsr >>> 1 else (t.lfsr >>> 1) ^^^ 0xb400
    processed := t.processed + 1
    remaining := t.remaining - 1 }

/-- `modemSpeedTestRefreshQuota`; the quota is read from the arguments again. -/
def refreshQuota (now : UInt32) (arguments : Buffer) (t : SpeedTest) : SpeedTest :=
  if now.toUInt16 = t.lastFrame then t else { t with lastFrame := now.toUInt16, frameQuota := arguments 6 }

/-- `modemSpeedTestRecordMismatch`. -/
def recordMismatch (t : SpeedTest) : SpeedTest :=
  { t with
    firstMismatch := if t.mismatchCount = 0 then t.processed else t.firstMismatch
    mismatchCount := t.mismatchCount + 1 }

/-- An octet of a receive test. -/
def receive (octet : UInt8) (t : SpeedTest) : SpeedTest :=
  let t := { t with actual := octet, expected := t.lfsr.toUInt8 }
  if t.expected = t.actual then t.advance else t.recordMismatch.advance

/-- The octets that the test leaves in the output. -/
def report (t : SpeedTest) : List UInt8 :=
  longOctets t.processed ++ longOctets t.mismatchCount ++ longOctets t.firstMismatch ++ [t.expected, t.actual] ++
    longOctets t.startFrame ++ longOctets t.endFrame

end SpeedTest

namespace Console

/-- `modemSpeedTestFinish`. -/
def speedTestFinish (now : UInt32) (c : Console) : Console :=
  let t := { c.speedTest with endFrame := now, mode := .idle }
  { c with
    speedTest := t
    mailbox :=
      { c.mailbox with
        status := .passed
        result := t.mismatchCount.toUInt16
        output := write c.mailbox.output 0 t.report } }

/-- `@transmit`: octets are queued until the quota of the frame is spent or the ring is full. -/
def speedTestTransmit (now : UInt32) : ℕ → Console → Console
  | 0, c => c
  | fuel + 1, c =>
    if c.speedTest.remaining = 0 then if c.modem.transmit.isEmpty then c.speedTestFinish now else c
    else
      let t := c.speedTest.refreshQuota now c.mailbox.arguments
      let c := { c with speedTest := t }
      if t.frameQuota = 0 then c
      else
        match c.modem.transmit.push t.lfsr.toUInt8 with
        | (_, true) => c
        | (transmit, false) =>
          speedTestTransmit now fuel { c with
            modem := { c.modem with transmit := transmit }
            speedTest := { t.advance with frameQuota := t.frameQuota - 1 } }

/-- `@receive`: the octets in the ring, as far as the test goes. -/
def speedTestReceive (now : UInt32) : ℕ → Console → Console
  | 0, c => c
  | fuel + 1, c =>
    if c.speedTest.remaining = 0 then c.speedTestFinish now
    else
      match c.modem.receive.pop with
      | none => c
      | some (octet, receive) =>
        speedTestReceive now fuel { c with
          modem := { c.modem with receive := receive }
          speedTest := c.speedTest.receive octet }

/-- A quota has at most 255 octets, and so has a ring. -/
abbrev speedTestFuel : ℕ := 257

/-- `modemSpeedTestPoll`. -/
def speedTestPoll (now : UInt32) (c : Console) : Console :=
  match c.speedTest.mode with
  | .idle => c
  | .transmit =>
    if c.modem.driverState = .connected then c.speedTestTransmit now speedTestFuel
    else { c.binaryInvalid with speedTest := { c.speedTest with mode := .idle } }
  | .receive =>
    if c.modem.driverState = .connected then c.speedTestReceive now speedTestFuel
    else { c.binaryInvalid with speedTest := { c.speedTest with mode := .idle } }

/-! ### The mailbox -/

abbrev commandInitialize : UInt8 := 0x01
abbrev commandQuickTest : UInt8 := 0x02
abbrev commandAtTransaction : UInt8 := 0x06

abbrev binaryChunkMaxLength : ℕ := 31
abbrev ringCapacity : ℕ := 255

/-- What the PPP stack answers to a command: the error that comes with the carry, and the arguments as it leaves them.
-/
structure Answer where
  error : Option UInt8 := none
  arguments : Buffer := default

/-- `@quickPassed`, `@quickFailed` or neither. -/
def pollQuickTest (c : Console) : Console :=
  match c.modem.driverState with
  | .ready => c.pass
  | .error => c.finish .failed 1
  | _ => c

/-- `@atPassed`, `@atFailed` or neither. -/
def pollAtTransaction (c : Console) : Console :=
  match c.modem.atStatus with
  | .passed => c.finish .passed c.modem.lastResult.code
  | .failed => c.finish .failed c.modem.lastError.code
  | _ => c

/-- The first part of `modemMailboxPoll`: a running command is looked after, or the sequences are compared; whether
there is a new command. -/
def look (c : Console) : Console × Bool :=
  if c.mailbox.status = .running ∧ c.mailbox.command = commandQuickTest then (c.pollQuickTest, false)
  else if c.mailbox.status = .running ∧ c.mailbox.command = commandAtTransaction then (c.pollAtTransaction, false)
  else (c, c.mailbox.hostSequence ≠ c.mailbox.processedSequence)

/-- `@atTransaction`. -/
def atTransaction (now : UInt32) (c : Console) : Console :=
  match modemAtBegin now c.mailbox.arguments c.modem with
  | (m, true) => { c with modem := m }.finish .failed m.lastError.code
  | (m, false) => { c with modem := m }

/-- The octets are queued, which takes an empty ring. -/
def binaryQueue (octets : List UInt8) (c : Console) : Console :=
  if c.modem.driverState ≠ .connected ∨ !c.modem.transmit.isEmpty then c.binaryInvalid
  else
    match Modem.queueBytes octets c.modem with
    | (m, true) => { c with modem := m }.binaryInvalid
    | (m, false) => { c with modem := m }.finish .passed (UInt8.ofNat octets.length)

/-- `@binaryTransmit`. -/
def binaryTransmit (c : Console) : Console :=
  let length := (c.mailbox.arguments 0).toNat
  if length = 0 ∨ binaryChunkMaxLength < length then c.binaryInvalid
  else c.binaryQueue (read c.mailbox.arguments 1 length)

/-- `@binaryStressTransmit`. -/
def binaryStressTransmit (c : Console) : Console := c.binaryQueue ((List.range ringCapacity).map UInt8.ofNat)

/-- `@binaryReceiveLoop`, with the octets that have been read. -/
def binaryReceiveLoop : ℕ → UInt8 → Console → Console
  | 0, x, c => c.finish .passed x
  | left + 1, x, c =>
    match c.modem.receive.pop with
    | none => c.finish .passed x
    | some (octet, receive) =>
      binaryReceiveLoop left (x + 1) { c with
        modem := { c.modem with receive := receive }
        mailbox := { c.mailbox with output := Function.update c.mailbox.output x.toNat octet } }

/-- `@binaryReceive`. -/
def binaryReceive (c : Console) : Console :=
  if c.modem.driverState = .connected ∨ c.modem.driverState = .ready then c.binaryReceiveLoop binaryChunkMaxLength 0
  else c.binaryInvalid

/-- A command of the PPP stack that can fail. -/
def stackCommand (answer : Answer) (c : Console) : Console :=
  match answer.error with
  | none => c.pass
  | some error => c.finish .failed error

/-- A command of the credentials leaves the arguments wiped, and so does the self-test. -/
def scrub (answer : Answer) (c : Console) : Console :=
  { c with mailbox := { c.mailbox with arguments := answer.arguments } }

/-- `@binaryPrbsTransmit` and `@binaryPrbsReceive`. -/
def prbs (begun : Console × Bool) : Console :=
  match begun with
  | (c, true) => c.binaryInvalid
  | (c, false) => c

/-- `@newCommand`, up to `@commitCommand`.  The self-test leaves the modem as it was. -/
def dispatch (now : UInt32) (answer : Answer) (c : Console) : Console :=
  let c := { c with mailbox := { c.mailbox with status := .running, result := 0 } }
  match c.mailbox.command.toNat with
  | 0x01 => { c with modem := modemInitialize now c.modem }.pass
  | 0x02 => { c with modem := modemInitialize now c.modem }
  | 0x03 | 0x04 | 0x05 => c.pass
  | 0x06 => c.atTransaction now
  | 0x07 => c.binaryTransmit
  | 0x08 => c.binaryReceive
  | 0x09 => c.binaryStressTransmit
  | 0x0a => (c.scrub answer).stackCommand answer
  | 0x0b | 0x0c => c.pass
  | 0x0d | 0x0e | 0x0f => c.stackCommand answer
  | 0x10 | 0x11 => c.pass
  | 0x12 => (c.scrub answer).pass
  | 0x13 | 0x14 => (c.scrub answer).stackCommand answer
  | 0x15 => prbs (c.speedTestBeginTransmit now)
  | 0x16 => prbs (c.speedTestBeginReceive now)
  | _ => c.finish .failed 0xff

/-- `@commitCommand`: the sequence of the host is read again. -/
def commitCommand (c : Console) : Console :=
  { c with mailbox := { c.mailbox with processedSequence := c.mailbox.hostSequence } }

end Console

end SnesModem.Asm
