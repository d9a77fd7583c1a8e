import SnesModem.Lib.Octets

/-!
# The modem driver of `modem/`

The rings of `buffer.asm`, the probe and the AT transactions of `session.asm`, and what `poll.asm` does with the
reports of the controller port.

* The reports are inputs; `frameCounter` is read once by each routine.
* The diagnostic counters and flags, the stages and the trace are left out.
-/

namespace SnesModem.Asm

open SnesModem.Lib.Cpu65816 SnesModem.Lib.Octets

/-! ### The rings -/

/-- A ring of 256 octets, one of which stays free. -/
structure Ring where
  storage : Buffer
  readIndex : UInt8
  writeIndex : UInt8
  deriving Inhabited

namespace Ring

def isEmpty (r : Ring) : Bool := r.readIndex = r.writeIndex

/-- The indexes of `modemResetQueues`; the octets stay. -/
def reset (r : Ring) : Ring := { r with readIndex := 0, writeIndex := 0 }

/-- `modemQueueByte` and `modemStoreReceivedByte`; the carry is set if the ring is full. -/
def push (r : Ring) (octet : UInt8) : Ring × Bool :=
  if r.writeIndex + 1 = r.readIndex then (r, true)
  else
    ({ r with
      storage := Function.update r.storage r.writeIndex.toNat octet
      writeIndex := r.writeIndex + 1 }, false)

/-- `modemReadByte`; `none` stands for the carry. -/
def pop (r : Ring) : Option (UInt8 × Ring) :=
  if r.isEmpty then none else some (r.storage r.readIndex.toNat, { r with readIndex := r.readIndex + 1 })

/-- `modemConsumeTransmitByte` clears the octet. -/
def consume (r : Ring) : Ring :=
  if r.isEmpty then r
  else { r with storage := Function.update r.storage r.readIndex.toNat 0, readIndex := r.readIndex + 1 }

end Ring

/-! ### The driver -/

/-- `MODEM_STATE_*`. -/
inductive DriverState where
  | off | resetting | probing | ready | error | atCommand | dialing | connected | disconnecting
  deriving DecidableEq, Repr, Inhabited

/-- `MODEM_SESSION_RESULT_*`. -/
inductive SessionResult where
  | none | ok | error | connect | noCarrier | busy | noDialtone
  deriving DecidableEq, Repr, Inhabited

def SessionResult.code : SessionResult → UInt8
  | .none => 0
  | .ok => 1
  | .error => 2
  | .connect => 3
  | .noCarrier => 4
  | .busy => 5
  | .noDialtone => 6

/-- `MODEM_AT_STATUS_*`. -/
inductive AtStatus where
  | idle | running | passed | failed
  deriving DecidableEq, Repr, Inhabited

/-- `MODEM_ERROR_*`. -/
inductive ModemError where
  | none | probeTimeout | probeRejected | atTimeout | atRejected | atInvalid
  deriving DecidableEq, Repr, Inhabited

def ModemError.code : ModemError → UInt8
  | .none => 0
  | .probeTimeout => 1
  | .probeRejected => 2
  | .atTimeout => 3
  | .atRejected => 4
  | .atInvalid => 5

/-- The variables of the driver and of the session. -/
structure Modem where
  driverState : DriverState
  lastError : ModemError
  pollTick : Bool
  burstPending : Bool
  receive : Ring
  transmit : Ring
  resetStartFrame : UInt32
  probeSent : Bool
  probeStartFrame : UInt32
  retryCount : UInt8
  lastResult : SessionResult
  lineLength : UInt8
  line : Buffer
  atStatus : AtStatus
  atExpectedResult : SessionResult
  atStartFrame : UInt32
  atTimeoutFrames : UInt16
  deriving Inhabited

namespace Modem

abbrev resetGuardFrames : UInt16 := 600
abbrev probeTimeoutFrames : UInt16 := 300
abbrev probeRetryLimit : UInt8 := 3
abbrev pollBudget : ℕ := 32

/-- The frames since a start, as far as 16 bits go. -/
def elapsed (now start : UInt32) : UInt16 := now.toUInt16 - start.toUInt16

end Modem

/-- The variables in cleared memory. -/
def modemInitializeDiagnostics : Modem := { (default : Modem) with driverState := .off }

def modemResetQueues (m : Modem) : Modem :=
  { m with
    lastError := .none
    pollTick := false
    receive := m.receive.reset
    transmit := m.transmit.reset
    atStatus := .idle
    atExpectedResult := .none
    lastResult := .none
    lineLength := 0 }

def modemInitialize (now : UInt32) (m : Modem) : Modem :=
  { modemResetQueues m with
    probeSent := false
    retryCount := 0
    lineLength := 0
    resetStartFrame := now
    driverState := .resetting }

namespace Modem

/-! ### The controller port -/

/-- What a transfer returns: the octet that it brings, if one is present, and the hint that more is to come. -/
structure Report where
  received : Option UInt8 := none
  hint : Bool := false

/-- `modemStoreReceivedByte` for the octet of a report; whether one was accepted. -/
def storeReceived (m : Modem) (received : Option UInt8) : Modem × Bool :=
  match received with
  | none => (m, false)
  | some octet => ({ m with receive := (m.receive.push octet).1 }, !(m.receive.push octet).2)

/-- `@checkTransfer`, with the transfers that the budget leaves and what the last one was like. -/
def transfers : ℕ → Bool → Bool → List Report → Modem → Modem
  | 0, accepted, hint, _, m => if accepted || hint || !m.transmit.isEmpty then { m with burstPending := true } else m
  | budget + 1, accepted, hint, reports, m =>
    if accepted || hint || !m.transmit.isEmpty then
      let report := reports.headD {}
      let (m, accepted) := storeReceived { m with transmit := m.transmit.consume } report.received
      transfers budget accepted report.hint reports.tail m
    else m

end Modem

/-- The reports come in the order of the transfers. -/
def modemPoll (now : UInt32) (reports : List Modem.Report) (m : Modem) : Modem :=
  if m.driverState = .off ∨ m.driverState = .error then m
  else if !m.pollTick && !m.burstPending && m.transmit.isEmpty then m
  else
    let m := { m with pollTick := false, burstPending := false }
    let guarded : Bool := m.driverState = .resetting && Modem.resetGuardFrames ≤ Modem.elapsed now m.resetStartFrame
    let m := if guarded then { m with driverState := .probing } else m
    let report := reports.headD {}
    let (m, accepted) := m.storeReceived report.received
    if m.driverState = .resetting then m else Modem.transfers Modem.pollBudget accepted report.hint reports.tail m

namespace Modem

/-! ### The session -/

/-- `queueProbe` and `@queueByte`: the octets up to the one that does not fit; the carry is set if there is one. -/
def queueBytes : List UInt8 → Modem → Modem × Bool
  | [], m => (m, false)
  | octet :: octets, m =>
    match m.transmit.push octet with
    | (transmit, true) => ({ m with transmit := transmit }, true)
    | (transmit, false) => queueBytes octets { m with transmit := transmit }

/-- `ATM0`, CR and LF. -/
def probe : List UInt8 := [0x41, 0x54, 0x4d, 0x30, 0x0d, 0x0a]

/-- `BUSY` and its like, as the comparisons of `finishLine` spell them. -/
def textOk : List UInt8 := [0x4f, 0x4b]
def textError : List UInt8 := [0x45, 0x52, 0x52, 0x4f, 0x52]
def textBusy : List UInt8 := [0x42, 0x55, 0x53, 0x59]
def textConnect : List UInt8 := [0x43, 0x4f, 0x4e, 0x4e, 0x45, 0x43, 0x54]
def textNoCarrier : List UInt8 := [0x4e, 0x4f, 0x20, 0x43, 0x41, 0x52, 0x52, 0x49, 0x45, 0x52]
def textNoDialtone : List UInt8 := [0x4e, 0x4f, 0x20, 0x44, 0x49, 0x41, 0x4c, 0x54, 0x4f, 0x4e, 0x45]

/-- The result that a line reports; what follows `CONNECT` is not looked at. -/
def lineResult (text : List UInt8) : Option SessionResult :=
  if text = textOk then some .ok
  else if text = textError then some .error
  else if text = textBusy then some .busy
  else if text.take 7 = textConnect then some .connect
  else if text = textNoCarrier then some .noCarrier
  else if text = textNoDialtone then some .noDialtone
  else none

/-- `finishLine`. -/
def finishLine (m : Modem) : Modem :=
  match lineResult (read m.line 0 m.lineLength.toNat) with
  | some result => { m with lastResult := result, lineLength := 0 }
  | none => { m with lineLength := 0 }

/-- `feedByte`. -/
def feedByte (m : Modem) (octet : UInt8) : Modem :=
  if octet = 0x0d then m
  else if octet = 0x0a then m.finishLine
  else if 0x1f ≤ m.lineLength then { m with lineLength := 0 }
  else { m with line := Function.update m.line m.lineLength.toNat octet, lineLength := m.lineLength + 1 }

/-- `readResponse` and `atReadResponse`: octets are fed until there is a result or the ring is empty; whether there is
a result.  The ring holds fewer octets than the fuel. -/
def readResponse : ℕ → Modem → Modem × Bool
  | 0, m => (m, false)
  | fuel + 1, m =>
    match m.receive.pop with
    | none => (m, false)
    | some (octet, receive) =>
      let m := { m with receive := receive }.feedByte octet
      if m.lastResult = .none then readResponse fuel m else (m, true)

abbrev ringFuel : ℕ := 256

/-- `probeRejected`. -/
def probeRejected (m : Modem) : Modem :=
  let m := { m with lastError := .probeRejected, retryCount := m.retryCount + 1 }
  if probeRetryLimit ≤ m.retryCount then { m with driverState := .error }
  else { m with probeSent := false, lineLength := 0, lastResult := .none }

/-- `checkTimeout`. -/
def checkProbeTimeout (now : UInt32) (m : Modem) : Modem :=
  if elapsed now m.probeStartFrame < probeTimeoutFrames then m
  else
    let m := { m with retryCount := m.retryCount + 1 }
    if probeRetryLimit ≤ m.retryCount then { m with lastError := .probeTimeout, driverState := .error }
    else { m with probeSent := false, lineLength := 0 }

/-- `readResponse` of the probe. -/
def readProbe (now : UInt32) (m : Modem) : Modem :=
  match readResponse ringFuel m with
  | (m, false) => m.checkProbeTimeout now
  | (m, true) => if m.lastResult = .ok then { m with driverState := .ready } else m.probeRejected

/-- `@probing`. -/
def pollProbe (now : UInt32) (m : Modem) : Modem :=
  if m.probeSent then m.readProbe now
  else
    match queueBytes probe m with
    | (m, true) => m
    | (m, false) => { m with probeSent := true, lastResult := .none, probeStartFrame := now }.readProbe now

/-- `atPassed`. -/
def atPassed (m : Modem) : Modem :=
  { m with atStatus := .passed, driverState := if m.atExpectedResult = .connect then .connected else .ready }

/-- `atRejected`. -/
def atRejected (m : Modem) : Modem := { m with lastError := .atRejected, atStatus := .failed, driverState := .error }

/-- `atCheckTimeout`. -/
def checkAtTimeout (now : UInt32) (m : Modem) : Modem :=
  if elapsed now m.atStartFrame < m.atTimeoutFrames then m
  else { m with lastError := .atTimeout, atStatus := .failed, driverState := .error }

/-- `atReadResponse`. -/
def pollAt (now : UInt32) (m : Modem) : Modem :=
  match readResponse ringFuel m with
  | (m, false) => m.checkAtTimeout now
  | (m, true) =>
    if m.atExpectedResult = .none ∨ m.lastResult = m.atExpectedResult then m.atPassed else m.atRejected

end Modem

def modemSessionPoll (now : UInt32) (m : Modem) : Modem :=
  if m.atStatus = .running then m.pollAt now
  else if m.driverState = .probing then m.pollProbe now
  else m

namespace Modem

/-! ### `modemAtBegin` -/

abbrev atCommandMaxLength : ℕ := 28

/-- The results that a transaction can expect. -/
def expectedResult (octet : UInt8) : Option SessionResult :=
  match octet.toNat with
  | 0 => some .none
  | 1 => some .ok
  | 3 => some .connect
  | 4 => some .noCarrier
  | _ => none

/-- `@validateReadyState` and `@validateConnectedState`. -/
def expectedState : SessionResult → DriverState
  | .noCarrier => .connected
  | _ => .ready

/-- `@start`, from `modemAtStatus` on. -/
def transactionState : SessionResult → DriverState
  | .connect => .dialing
  | .noCarrier => .disconnecting
  | _ => .atCommand

/-- `@invalid`. -/
def atInvalid (m : Modem) : Modem := { m with lastError := .atInvalid, atStatus := .failed }

end Modem

/-- The carry is set if the transaction is refused. -/
def modemAtBegin (now : UInt32) (arguments : Buffer) (m : Modem) : Modem × Bool :=
  let timeoutFrames := word (arguments 2) (arguments 1)
  let length := (arguments 3).toNat
  match Modem.expectedResult (arguments 0) with
  | none => (m.atInvalid, true)
  | some expected =>
    if m.driverState ≠ Modem.expectedState expected ∨ !m.transmit.isEmpty ∨ timeoutFrames = 0 ∨
        Modem.atCommandMaxLength < length ∨ (length = 0 ∧ expected ≠ .noCarrier) then (m.atInvalid, true)
    else
      match Modem.queueBytes (read arguments 4 length) m with
      | (m, true) => (m.atInvalid, true)
      | (m, false) =>
        ({ m with
          atExpectedResult := expected
          atTimeoutFrames := timeoutFrames
          lastResult := .none
          lineLength := 0
          atStartFrame := now
          atStatus := .running
          driverState := Modem.transactionState expected }, false)

end SnesModem.Asm
