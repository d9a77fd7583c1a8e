import SnesModem.Asm.Modem
import SnesModem.Asm.Receive
import SnesModem.Lib.Seqlock

/-!
# The diagnostic block

The drivers of `modem/` store by store: each instruction that stores into the block which the host reads is a step of
the history of that block.

* The rings, the line of the session and the other variables lie outside of the block; so does the trace, whose events
  are left out.
* `frameCounter` is read once by each routine, and what the controller port returns is an input.
-/

namespace SnesModem.Asm

open SnesModem.Lib.Cpu65816 SnesModem.Lib.Octets SnesModem.Lib.Seqlock

/-! ### The layout -/

namespace Diagnostic

abbrev blockSize : ℕ := 0x80

abbrev magic : ℕ := 0x00
abbrev version : ℕ := 0x04
abbrev size : ℕ := 0x06
abbrev snapshotSequence : ℕ := 0x08
abbrev driverState : ℕ := 0x0c
abbrev flags : ℕ := 0x0d
abbrev lastError : ℕ := 0x0e
abbrev lastDiscardReason : ℕ := 0x0f
abbrev pollTick : ℕ := 0x10
abbrev traceFrozen : ℕ := 0x11
abbrev receiveReadIndex : ℕ := 0x12
abbrev receiveWriteIndex : ℕ := 0x13
abbrev transmitReadIndex : ℕ := 0x14
abbrev transmitWriteIndex : ℕ := 0x15
abbrev lastReceiveByte : ℕ := 0x16
abbrev lastTransmitByte : ℕ := 0x17
abbrev lastDataReport : ℕ := 0x18
abbrev lastStatusReport : ℕ := 0x1a
abbrev traceNextSequence : ℕ := 0x1c
abbrev receiveAcceptedCount : ℕ := 0x20
abbrev receiveDiscardedCount : ℕ := 0x24
abbrev transmitByteCount : ℕ := 0x28
abbrev receiveOverflowCount : ℕ := 0x2c
abbrev transmitOverflowCount : ℕ := 0x30
abbrev pollBudgetYieldCount : ℕ := 0x34
abbrev timeoutCount : ℕ := 0x38
abbrev reinitializeCount : ℕ := 0x3c
abbrev traceOverwrittenCount : ℕ := 0x40
abbrev resetStartFrame : ℕ := 0x44
abbrev terminalDroppedCount : ℕ := 0x48
abbrev atStatus : ℕ := 0x4c
abbrev atExpectedResult : ℕ := 0x4d
abbrev sessionLastResult : ℕ := 0x4e
abbrev sessionLineLength : ℕ := 0x4f
abbrev atStartFrame : ℕ := 0x50

abbrev flagPollBudgetYield : UInt8 := 0x01
abbrev flagReceiveOverflow : UInt8 := 0x02
abbrev flagTransmitOverflow : UInt8 := 0x04
abbrev flagTimeout : UInt8 := 0x08
abbrev flagTraceOverwrite : UInt8 := 0x10

abbrev receivePresentMask : UInt8 := 0x80
abbrev transferHintMask : UInt8 := 0x40

end Diagnostic

open Diagnostic

def DriverState.code : DriverState → UInt8
  | .off => 0
  | .resetting => 1
  | .probing => 2
  | .ready => 3
  | .error => 4
  | .atCommand => 5
  | .dialing => 6
  | .connected => 7
  | .disconnecting => 8

def AtStatus.code : AtStatus → UInt8
  | .idle => 0
  | .running => 1
  | .passed => 2
  | .failed => 3

/-- `MODEM_DISCARD_*`. -/
inductive DiscardReason where
  | none | fullReport | statusNotReady | noData | rxOverflow
  deriving DecidableEq, Repr

def DiscardReason.code : DiscardReason → UInt8
  | .none => 0
  | .fullReport => 1
  | .statusNotReady => 2
  | .noData => 3
  | .rxOverflow => 4

/-- `MODEM_TRACE_*`. -/
inductive TraceKind where
  | poll16 | transfer9 | rxAccepted | rxDiscarded | tx | state | error
  deriving DecidableEq, Repr

/-- The diagnostic block with its history, and the variables outside of it. -/
structure Driver where
  history : History Buffer
  receiveBuffer : Buffer
  transmitBuffer : Buffer
  burstPending : Bool
  sessionLine : Buffer
  probeSent : Bool
  retryCount : UInt8
  probeStartFrame : UInt32
  atTimeoutFrames : UInt16
  displayReadIndex : UInt8
  displayWriteIndex : UInt8
  /-- The PPP receive path, which takes the octets of a connection. -/
  receive : Receive

namespace Driver

section Instructions

variable (d : Driver)

def block : Buffer := d.history.current

/-! ### The instructions that store -/

def store (offset : ℕ) (octet : UInt8) : Driver :=
  { d with history := d.history.store (Function.update d.block offset octet) }

/-- A store with a 16-bit accumulator. -/
def store16 (offset : ℕ) (value : UInt16) : Driver :=
  { d with history :=
      d.history.store (Function.update (Function.update d.block offset (low value)) (offset + 1) (high value)) }

def word16 (offset : ℕ) : UInt16 := word (d.block (offset + 1)) (d.block offset)

/-- `modemIncrement32`. -/
def increment32 (offset : ℕ) : Driver :=
  let d := d.store16 offset (d.word16 offset + 1)
  if d.word16 offset = 0 then d.store16 (offset + 2) (d.word16 (offset + 2) + 1) else d

/-- A double word, low word first. -/
def store32 (offset : ℕ) (value : UInt32) : Driver :=
  (d.store16 offset value.toUInt16).store16 (offset + 2) (value >>> 16).toUInt16

/-- `rol`, with the carry that it leaves. -/
def rol (offset : ℕ) (carry : Bool) : Driver × Bool :=
  (d.store offset (d.block offset <<< 1 ||| if carry then 1 else 0), 0x80 ≤ d.block offset)

def rol16 (offset : ℕ) (carry : Bool) : Driver := ((d.rol offset carry).1.rol (offset + 1) (d.rol offset carry).2).1

/-! ### The rings in the block -/

def receiveRing : Ring := ⟨d.receiveBuffer, d.block receiveReadIndex, d.block receiveWriteIndex⟩

def transmitRing : Ring := ⟨d.transmitBuffer, d.block transmitReadIndex, d.block transmitWriteIndex⟩

end Instructions

/-! ### `trace.asm` -/

def modemRecordTrace (kind : TraceKind) (d : Driver) : Driver :=
  if d.block traceFrozen ≠ 0 then d
  else
    let overwriting := d.block (traceNextSequence + 1) ||| d.block (traceNextSequence + 2) |||
      d.block (traceNextSequence + 3)
    let d :=
      if overwriting = 0 then d
      else (d.store flags (d.block flags ||| flagTraceOverwrite)).increment32 traceOverwrittenCount
    let d := d.increment32 traceNextSequence
    if kind = .error then d.store traceFrozen 1 else d

def modemSetState (state : DriverState) (d : Driver) : Driver :=
  modemRecordTrace .state (d.store driverState state.code)

def modemClearTrace (d : Driver) : Driver :=
  let d := (((d.store traceNextSequence 0).store (traceNextSequence + 1) 0).store (traceNextSequence + 2) 0).store
    (traceNextSequence + 3) 0
  let d := (((d.store traceOverwrittenCount 0).store (traceOverwrittenCount + 1) 0).store
    (traceOverwrittenCount + 2) 0).store (traceOverwrittenCount + 3) 0
  d.store flags (d.block flags &&& (0xff ^^^ flagTraceOverwrite))

def modemFreezeTrace (d : Driver) : Driver := d.store traceFrozen 1

def modemResumeTrace (d : Driver) : Driver := d.store traceFrozen 0

/-! ### `buffer.asm` -/

/-- `modemSnapshotBegin` and `modemSnapshotBeginI8`. -/
def modemSnapshotBegin (d : Driver) : Driver := d.increment32 snapshotSequence

/-- `modemSnapshotEnd` and `modemSnapshotEndI8`. -/
def modemSnapshotEnd (d : Driver) : Driver := d.increment32 snapshotSequence

/-- The stores are in the order of the source; the poll tick is one of them. -/
def modemResetQueues (d : Driver) : Driver :=
  let d := ((d.store flags 0).store lastError 0).store lastDiscardReason 0
  let d := ((d.store pollTick 0).store receiveReadIndex 0).store receiveWriteIndex 0
  let d := ((d.store transmitReadIndex 0).store transmitWriteIndex 0).store atStatus 0
  ((d.store atExpectedResult 0).store sessionLastResult 0).store sessionLineLength 0

/-- `terminalQueueByte` of `print.asm`; the octets that it displays are left out. -/
def terminalMirrorReceivedByte (d : Driver) : Driver :=
  let d :=
    if d.displayWriteIndex + 1 = d.displayReadIndex then
      { d with displayReadIndex := d.displayReadIndex + 1 }.increment32 terminalDroppedCount
    else d
  { d with displayWriteIndex := d.displayWriteIndex + 1 }

/-- The carry is set if the ring is full. -/
def modemStoreReceivedByte (octet : UInt8) (d : Driver) : Driver × Bool :=
  let y := d.block receiveWriteIndex
  if y + 1 = d.block receiveReadIndex then
    let d := (d.store flags (d.block flags ||| flagReceiveOverflow)).store lastDiscardReason DiscardReason.rxOverflow.code
    ((d.increment32 receiveOverflowCount).increment32 receiveDiscardedCount, true)
  else
    let d := { d with receiveBuffer := Function.update d.receiveBuffer y.toNat octet }.store lastReceiveByte octet
    let d := (terminalMirrorReceivedByte d).store receiveWriteIndex (y + 1)
    (d.increment32 receiveAcceptedCount, false)

/-- `none` stands for the carry. -/
def modemReadByte (d : Driver) : Driver × Option UInt8 :=
  let d := modemSnapshotBegin d
  let y := d.block receiveReadIndex
  if y = d.block receiveWriteIndex then (modemSnapshotEnd d, none)
  else (modemSnapshotEnd (d.store receiveReadIndex (y + 1)), some (d.receiveBuffer y.toNat))

/-- The carry is set if the ring is full. -/
def modemQueueByte (octet : UInt8) (d : Driver) : Driver × Bool :=
  let d := modemSnapshotBegin d
  let y := d.block transmitWriteIndex
  if y + 1 = d.block transmitReadIndex then
    let d := d.store flags (d.block flags ||| flagTransmitOverflow)
    (modemSnapshotEnd (d.increment32 transmitOverflowCount), true)
  else
    let d := { d with transmitBuffer := Function.update d.transmitBuffer y.toNat octet }
    (modemSnapshotEnd (d.store transmitWriteIndex (y + 1)), false)

/-- While credentials are exposed, the octet is not shown. -/
def modemConsumeTransmitByte (exposed : Bool) (d : Driver) : Driver :=
  let y := d.block transmitReadIndex
  if y = d.block transmitWriteIndex then d
  else
    let d := d.store lastTransmitByte (if exposed then 0 else d.transmitBuffer y.toNat)
    let d := { d with transmitBuffer := Function.update d.transmitBuffer y.toNat 0 }
    (d.store transmitReadIndex (y + 1)).increment32 transmitByteCount

def modemRecordPollBudgetYield (d : Driver) : Driver :=
  (d.store flags (d.block flags ||| flagPollBudgetYield)).increment32 pollBudgetYieldCount

/-! ### `initialize.asm` -/

def modemInitialize (now : UInt32) (d : Driver) : Driver :=
  let d := modemResetQueues (modemSnapshotBegin d)
  let d := { d with probeSent := false, retryCount := 0 }.store sessionLineLength 0
  let d := (d.store32 resetStartFrame now).increment32 reinitializeCount
  modemSnapshotEnd (modemSetState .resetting d)

/-! ### `transfer9.asm` and `poll.asm` -/

/-- Both reports are cleared. -/
def clearReports (d : Driver) : Driver :=
  (((d.store lastDataReport 0).store (lastDataReport + 1) 0).store lastStatusReport 0).store (lastStatusReport + 1) 0

def shiftReports (data status : Bool) (d : Driver) : Driver :=
  (d.rol16 lastDataReport data).rol16 lastStatusReport status

/-- The lines of the controller port in a read of `JOYSER1`. -/
def dataLine (joyser1 : UInt8) : Bool := joyser1 &&& 1 ≠ 0

def statusLine (joyser1 : UInt8) : Bool := joyser1 &&& 2 ≠ 0

/-- So many reads of `JOYSER1`, shifted into the reports. -/
def readBits (joyser1 : ℕ → UInt8) : ℕ → Driver → Driver
  | 0, d => d
  | n + 1, d => shiftReports (dataLine (joyser1 n)) (statusLine (joyser1 n)) (readBits joyser1 n d)

/-- `@alignReports`. -/
def alignReports : ℕ → Driver → Driver
  | 0, d => d
  | n + 1, d => shiftReports false false (alignReports n d)

/-- An octet that came with a report is stored, and the trace says so. -/
def receivePresent (d : Driver) : Driver :=
  let d := d.store lastDiscardReason DiscardReason.none.code
  match modemStoreReceivedByte (d.block (lastDataReport + 1)) d with
  | (d, true) => modemRecordTrace .rxDiscarded d
  | (d, false) => modemRecordTrace .rxAccepted d

/-- The waveform of a transfer: one read into the low octets of the reports, eight into both, and seven shifts. -/
def transferReports (joyser1 : ℕ → UInt8) (d : Driver) : Driver :=
  let d := (d.rol lastDataReport (dataLine (joyser1 0))).1
  let d := (d.rol lastStatusReport (statusLine (joyser1 0))).1
  alignReports 7 (readBits (fun i => joyser1 (i + 1)) 8 d)

/-- `modemTransferHadTransmit` decides about the octet that is sent. -/
def modemTransfer9 (exposed : Bool) (joyser1 : ℕ → UInt8) (d : Driver) : Driver :=
  let d := clearReports d
  let hadTransmit : Bool := d.block transmitReadIndex ≠ d.block transmitWriteIndex
  let d := transferReports joyser1 d
  let d := if hadTransmit then modemRecordTrace .tx (modemConsumeTransmitByte exposed d) else d
  let d :=
    if d.block lastDataReport &&& receivePresentMask = receivePresentMask then receivePresent d
    else d.store lastDiscardReason DiscardReason.noData.code
  modemRecordTrace .transfer9 d

/-- The conditions of `@checkTransfer` for one more transfer. -/
def moreToTransfer (d : Driver) : Bool :=
  d.block lastDiscardReason = DiscardReason.none.code || d.block (lastStatusReport + 1) &&& transferHintMask ≠ 0 ||
    d.block transmitReadIndex ≠ d.block transmitWriteIndex

/-- `@checkTransfer`, with the transfers that the budget leaves and the reads of the port before them. -/
def checkTransfer (exposed : Bool) (joyser1 : ℕ → UInt8) : ℕ → ℕ → Driver → Driver
  | 0, _, d => if moreToTransfer d then modemRecordPollBudgetYield { d with burstPending := true } else d
  | budget + 1, n, d =>
    if moreToTransfer d then
      checkTransfer exposed joyser1 budget (n + 9) (modemTransfer9 exposed (fun i => joyser1 (n + i)) d)
    else d

/-- The guard time of a reset. -/
def resetGuard (now : UInt32) (d : Driver) : Driver :=
  if d.block driverState = DriverState.resetting.code ∧
      Modem.resetGuardFrames ≤ now.toUInt16 - d.word16 resetStartFrame then modemSetState .probing d
  else d

/-- `@readCompleteReport`. -/
def readCompleteReport (joyser1 : ℕ → UInt8) (d : Driver) : Driver :=
  let d := readBits joyser1 16 (clearReports d)
  let d := modemRecordTrace .poll16 (d.store lastDiscardReason DiscardReason.fullReport.code)
  if d.block lastDataReport &&& receivePresentMask = 0 then d else receivePresent d

/-- What `poll.asm` does between the beginning and the end of its snapshot. -/
def pollReports (now : UInt32) (exposed : Bool) (joyser1 : ℕ → UInt8) (d : Driver) : Driver :=
  let d := { d.store pollTick 0 with burstPending := false }
  let d := readCompleteReport joyser1 (resetGuard now d)
  if d.block driverState = DriverState.resetting.code then d else checkTransfer exposed joyser1 Modem.pollBudget 16 d

def modemPoll (now : UInt32) (exposed : Bool) (joyser1 : ℕ → UInt8) (d : Driver) : Driver :=
  if d.block driverState = DriverState.off.code ∨ d.block driverState = DriverState.error.code then d
  else if d.block pollTick = 0 ∧ d.burstPending = false ∧ d.block transmitReadIndex = d.block transmitWriteIndex then d
  else modemSnapshotEnd (pollReports now exposed joyser1 (modemSnapshotBegin d))

end Driver

end SnesModem.Asm
