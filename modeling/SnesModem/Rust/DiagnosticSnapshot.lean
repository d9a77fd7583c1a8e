import SnesModem.Lib.Md5
import SnesModem.Lib.Octets

/-!
# The diagnostic block as the host decodes it

`DiagnosticSnapshot` of the protocol crate, and what the crate says about the reports of the controller port.

* `DiagnosticSnapshot.decode`: the checks of the header and the fields at their offsets;
* `receiveDecision`, `transferRequested`: the decisions on a report.
-/

namespace SnesModem.Rust.Protocol

open SnesModem.Lib.Cpu65816 (word)
open SnesModem.Lib.Md5 (leWord)

inductive DriverState where
  | off | resetting | probing | ready | error | atCommand | dialing | connected | disconnecting
  deriving DecidableEq, Repr

def DriverState.tryFrom (value : UInt8) : Except String DriverState :=
  match value.toNat with
  | 0 => .ok .off
  | 1 => .ok .resetting
  | 2 => .ok .probing
  | 3 => .ok .ready
  | 4 => .ok .error
  | 5 => .ok .atCommand
  | 6 => .ok .dialing
  | 7 => .ok .connected
  | 8 => .ok .disconnecting
  | _ => .error s!"unknown modem state {value}"

structure DiagnosticSnapshot where
  snapshotSequence : UInt32
  driverState : DriverState
  flags : UInt8
  lastError : UInt8
  lastDiscardReason : UInt8
  pollTick : Bool
  traceFrozen : Bool
  rxReadIndex : UInt8
  rxWriteIndex : UInt8
  txReadIndex : UInt8
  txWriteIndex : UInt8
  lastRxByte : UInt8
  lastTxByte : UInt8
  lastDataReport : UInt16
  lastStatusReport : UInt16
  traceNextSequence : UInt32
  rxAccepted : UInt32
  rxDiscarded : UInt32
  txBytes : UInt32
  rxOverflow : UInt32
  txOverflow : UInt32
  pollBudgetYield : UInt32
  timeout : UInt32
  reinitialize : UInt32
  traceOverwritten : UInt32
  resetStartFrame : UInt32
  terminalDropped : UInt32
  atStatus : UInt8
  atExpectedResult : UInt8
  sessionLastResult : UInt8
  sessionLineLength : UInt8
  atStartFrame : UInt32
  deriving DecidableEq, Repr

abbrev diagnosticSize : ℕ := 128

def diagnosticMagic : List UInt8 := [78, 68, 77, 50]

def readU16 (data : List UInt8) (offset : ℕ) : Except String UInt16 :=
  if data.length < offset + 2 then .error "u16 field is outside the input"
  else .ok (word (data.getD (offset + 1) 0) (data.getD offset 0))

def readU32 (data : List UInt8) (offset : ℕ) : Except String UInt32 :=
  if data.length < offset + 4 then .error "u32 field is outside the input"
  else .ok (leWord ((data.drop offset).take 4))

def ensure (condition : Bool) (message : String) : Except String Unit := if condition then .ok () else .error message

/-- An index below the size is in range. -/
def DiagnosticSnapshot.decode (data : List UInt8) : Except String DiagnosticSnapshot := do
  ensure (diagnosticSize ≤ data.length)
    s!"diagnostic block is {data.length} bytes; expected at least {diagnosticSize}"
  ensure (data.take 4 = diagnosticMagic) "diagnostic magic does not match NDM2"
  let version ← readU16 data 4
  ensure (version = 2) "unsupported diagnostic ABI version"
  let size ← readU16 data 6
  ensure (size.toNat = diagnosticSize) "diagnostic size field does not match the generated ABI"
  let sequence ← readU32 data 8
  ensure (sequence &&& 1 = 0) "diagnostic snapshot is being updated"
  return {
    snapshotSequence := sequence
    driverState := ← DriverState.tryFrom (data.getD 12 0)
    flags := data.getD 13 0
    lastError := data.getD 14 0
    lastDiscardReason := data.getD 15 0
    pollTick := data.getD 16 0 ≠ 0
    traceFrozen := data.getD 17 0 ≠ 0
    rxReadIndex := data.getD 18 0
    rxWriteIndex := data.getD 19 0
    txReadIndex := data.getD 20 0
    txWriteIndex := data.getD 21 0
    lastRxByte := data.getD 22 0
    lastTxByte := data.getD 23 0
    lastDataReport := ← readU16 data 24
    lastStatusReport := ← readU16 data 26
    traceNextSequence := ← readU32 data 28
    rxAccepted := ← readU32 data 32
    rxDiscarded := ← readU32 data 36
    txBytes := ← readU32 data 40
    rxOverflow := ← readU32 data 44
    txOverflow := ← readU32 data 48
    pollBudgetYield := ← readU32 data 52
    timeout := ← readU32 data 56
    reinitialize := ← readU32 data 60
    traceOverwritten := ← readU32 data 64
    resetStartFrame := ← readU32 data 68
    terminalDropped := ← readU32 data 72
    atStatus := data.getD 76 0
    atExpectedResult := data.getD 77 0
    sessionLastResult := data.getD 78 0
    sessionLineLength := data.getD 79 0
    atStartFrame := ← readU32 data 80 }

namespace DiagnosticSnapshot

def rxUsed (s : DiagnosticSnapshot) : UInt8 := s.rxWriteIndex - s.rxReadIndex

def txUsed (s : DiagnosticSnapshot) : UInt8 := s.txWriteIndex - s.txReadIndex

end DiagnosticSnapshot

/-! ### The reports of the port -/

inductive PollKind where
  | full16 | transfer9
  deriving DecidableEq, Repr

abbrev discardNone : UInt8 := 0
abbrev discardFullReport : UInt8 := 1
abbrev discardNoData : UInt8 := 3

/-- The status of the report is not looked at. -/
def receiveDecision (kind : PollKind) (dataReport : UInt16) (_statusReport : UInt16) : UInt8 :=
  if dataReport.toUInt8 &&& 128 = 128 then discardNone
  else if kind = .full16 then discardFullReport
  else discardNoData

def receiveIsAccepted (kind : PollKind) (dataReport statusReport : UInt16) : Bool :=
  receiveDecision kind dataReport statusReport = discardNone

def transferRequested (previousReceiveDecision : UInt8) (statusReport : UInt16) (transmitPending : Bool) : Bool :=
  previousReceiveDecision = discardNone || (statusReport >>> 8).toUInt8 &&& 64 ≠ 0 || transmitPending

end SnesModem.Rust.Protocol
