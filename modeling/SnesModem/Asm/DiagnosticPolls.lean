import SnesModem.Asm.Diagnostics
import SnesModem.Lib.Run

/-!
# The main loop and the diagnostic block

The session of `session.asm`, the commands of the mailbox that reach the drivers and the receive poll of PPP, store by
store, and the main loop over them.

* The command, the octets that are queued for transmission and how many octets the speed test takes are inputs.
* Nothing else in the main loop stores into the block, except for the self-test.
-/

namespace SnesModem.Asm

open SnesModem.Lib SnesModem.Lib.Cpu65816 SnesModem.Lib.Octets SnesModem.Lib.Seqlock Diagnostic

namespace Driver

/-! ### `session.asm` -/

/-- `queueProbe` and `@queueByte`; the carry is set if an octet does not fit. -/
def queueBytes : List UInt8 → Driver → Driver × Bool
  | [], d => (d, false)
  | octet :: octets, d =>
    match modemQueueByte octet d with
    | (d, true) => (d, true)
    | (d, false) => queueBytes octets d

def finishLine (d : Driver) : Driver :=
  let d :=
    match Modem.lineResult (read d.sessionLine 0 (d.block sessionLineLength).toNat) with
    | some result => d.store sessionLastResult result.code
    | none => d
  d.store sessionLineLength 0

def feedByte (octet : UInt8) (d : Driver) : Driver :=
  let y := d.block sessionLineLength
  if octet = 0x0d then d
  else if octet = 0x0a then finishLine d
  else if 0x1f ≤ y then d.store sessionLineLength 0
  else { d with sessionLine := Function.update d.sessionLine y.toNat octet }.store sessionLineLength (y + 1)

/-- `readResponse` and `atReadResponse`: whether there is a result.  The ring holds fewer octets than the fuel. -/
def readResponse : ℕ → Driver → Driver × Bool
  | 0, d => (d, false)
  | fuel + 1, d =>
    match modemReadByte d with
    | (d, none) => (d, false)
    | (d, some octet) =>
      let d := feedByte octet d
      if d.block sessionLastResult = SessionResult.none.code then readResponse fuel d else (d, true)

/-- The end of a session that fails. -/
def setError (d : Driver) : Driver := modemRecordTrace .error (modemSetState .error d)

def probeRejected (d : Driver) : Driver :=
  let d := { d.store lastError ModemError.probeRejected.code with retryCount := d.retryCount + 1 }
  if Modem.probeRetryLimit ≤ d.retryCount then setError d
  else ({ d with probeSent := false }.store sessionLineLength 0).store sessionLastResult 0

/-- `checkTimeout`. -/
def checkProbeTimeout (now : UInt32) (d : Driver) : Driver :=
  if Modem.elapsed now d.probeStartFrame < Modem.probeTimeoutFrames then d
  else
    let d := { d.increment32 timeoutCount with retryCount := d.retryCount + 1 }
    if Modem.probeRetryLimit ≤ d.retryCount then
      setError ((d.store flags (d.block flags ||| flagTimeout)).store lastError ModemError.probeTimeout.code)
    else { d with probeSent := false }.store sessionLineLength 0

/-- `readResponse` of the probe. -/
def readProbe (now : UInt32) (d : Driver) : Driver :=
  match readResponse Modem.ringFuel d with
  | (d, false) => checkProbeTimeout now d
  | (d, true) =>
    if d.block sessionLastResult = SessionResult.ok.code then modemSetState .ready d else probeRejected d

/-- `@probing`. -/
def pollProbe (now : UInt32) (d : Driver) : Driver :=
  if d.probeSent then readProbe now d
  else
    match queueBytes Modem.probe d with
    | (d, true) => d
    | (d, false) => readProbe now { { d with probeSent := true }.store sessionLastResult 0 with probeStartFrame := now }

def atPassed (d : Driver) : Driver :=
  let d := d.store atStatus AtStatus.passed.code
  modemSetState (if d.block atExpectedResult = SessionResult.connect.code then .connected else .ready) d

def atRejected (d : Driver) : Driver :=
  setError ((d.store lastError ModemError.atRejected.code).store atStatus AtStatus.failed.code)

/-- `atCheckTimeout`. -/
def checkAtTimeout (now : UInt32) (d : Driver) : Driver :=
  if now.toUInt16 - d.word16 atStartFrame < d.atTimeoutFrames then d
  else
    let d := d.increment32 timeoutCount
    let d := (d.store flags (d.block flags ||| flagTimeout)).store lastError ModemError.atTimeout.code
    setError (d.store atStatus AtStatus.failed.code)

/-- `atReadResponse`. -/
def pollAt (now : UInt32) (d : Driver) : Driver :=
  match readResponse Modem.ringFuel d with
  | (d, false) => checkAtTimeout now d
  | (d, true) =>
    if d.block atExpectedResult = SessionResult.none.code ∨ d.block sessionLastResult = d.block atExpectedResult then
      atPassed d
    else atRejected d

def modemSessionPoll (now : UInt32) (d : Driver) : Driver :=
  if d.block atStatus = AtStatus.running.code then pollAt now d
  else if d.block driverState = DriverState.probing.code then pollProbe now d
  else d

/-- `@invalid`. -/
def atInvalid (d : Driver) : Driver :=
  (d.store lastError ModemError.atInvalid.code).store atStatus AtStatus.failed.code

/-- `@start`. -/
def atStart (now : UInt32) (expected : SessionResult) (timeoutFrames : UInt16) (d : Driver) : Driver :=
  let d := { d.store atExpectedResult expected.code with atTimeoutFrames := timeoutFrames }
  let d := (d.store sessionLastResult 0).store sessionLineLength 0
  let d := (d.store32 atStartFrame now).store atStatus AtStatus.running.code
  modemSetState (Modem.transactionState expected) d

def modemAtBegin (now : UInt32) (arguments : Buffer) (d : Driver) : Driver :=
  let timeoutFrames := word (arguments 2) (arguments 1)
  let length := (arguments 3).toNat
  match Modem.expectedResult (arguments 0) with
  | none => atInvalid d
  | some expected =>
    if d.block driverState ≠ (Modem.expectedState expected).code ∨ !d.transmitRing.isEmpty ∨ timeoutFrames = 0 ∨
        Modem.atCommandMaxLength < length ∨ (length = 0 ∧ expected ≠ .noCarrier) then atInvalid d
    else
      match queueBytes (read arguments 4 length) d with
      | (d, true) => atInvalid d
      | (d, false) => atStart now expected timeoutFrames d

/-! ### `receive.asm` -/

/-- `@carrierLost`, without what it does to the receive path. -/
def carrierLost (d : Driver) : Driver :=
  modemSetState .ready ((d.store sessionLastResult SessionResult.noCarrier.code).store sessionLineLength 0)

/-- `carrierTailByte` and the loops like it: so many octets are taken, or what there is. -/
def takeBytes : ℕ → Driver → Driver
  | 0, d => d
  | fuel + 1, d =>
    match modemReadByte d with
    | (d, none) => d
    | (d, some _) => takeBytes fuel d

/-- `drain`. -/
def drain : ℕ → Driver → Driver
  | 0, d => d
  | budget + 1, d =>
    match modemReadByte d with
    | (d, none) => d
    | (d, some octet) =>
      match pppReceivePushConnectedByte d.receive octet with
      | (r, true) => takeBytes Modem.ringFuel (carrierLost { d with receive := r })
      | (r, false) => if r.frameReady then { d with receive := r } else drain budget { d with receive := r }

def pppReceivePoll (d : Driver) : Driver :=
  if !d.receive.enabled || d.block driverState ≠ DriverState.connected.code then
    { d with receive := { d.receive with active := false } }
  else if (activate d.receive).frameReady then { d with receive := activate d.receive }
  else drain receiveDrainBudget { d with receive := activate d.receive }

/-! ### `mailbox.asm` -/

/-- What the self-test stores into the block. -/
inductive SelfTestStore where
  | driverState (octet : UInt8)
  | lastResult (octet : UInt8)
  | lineLength (octet : UInt8)
  | carrierLost
  deriving DecidableEq, Repr

def SelfTestStore.apply (d : Driver) : SelfTestStore → Driver
  | .driverState octet => d.store Diagnostic.driverState octet
  | .lastResult octet => d.store sessionLastResult octet
  | .lineLength octet => d.store sessionLineLength octet
  | .carrierLost => Driver.carrierLost d

/-- The commands of the mailbox, with their arguments; the self-test comes with what it does. -/
inductive DriverCommand where
  | reset
  | quickTest
  | clearTrace
  | freezeTrace
  | resumeTrace
  | atTransaction (arguments : Buffer)
  | binaryTransmit (arguments : Buffer)
  | binaryReceive
  | binaryStressTransmit
  | selfTest (stores : List SelfTestStore) (receive : Receive)

/-- The octets are queued, which takes a connection and an empty ring. -/
def binaryQueue (octets : List UInt8) (d : Driver) : Driver :=
  if d.block driverState ≠ DriverState.connected.code ∨ !d.transmitRing.isEmpty then d else (queueBytes octets d).1

/-- The length of a chunk. -/
abbrev binaryChunkMaxLength : ℕ := 31

abbrev ringCapacity : ℕ := 255

/-- `@newCommand`, as far as the drivers go. -/
def command (now : UInt32) (d : Driver) : DriverCommand → Driver
  | .reset => modemInitialize now d
  | .quickTest => modemInitialize now d
  | .clearTrace => modemClearTrace d
  | .freezeTrace => modemFreezeTrace d
  | .resumeTrace => modemResumeTrace d
  | .atTransaction arguments => modemAtBegin now arguments d
  | .binaryTransmit arguments =>
    let length := (arguments 0).toNat
    if length = 0 ∨ binaryChunkMaxLength < length then d else binaryQueue (read arguments 1 length) d
  | .binaryReceive =>
    if d.block driverState = DriverState.connected.code ∨ d.block driverState = DriverState.ready.code then
      takeBytes binaryChunkMaxLength d
    else d
  | .binaryStressTransmit => binaryQueue ((List.range ringCapacity).map UInt8.ofNat) d
  | .selfTest stores receive => { stores.foldl SelfTestStore.apply d with receive := receive }

/-! ### The main loop -/

/-- A poll of the main loop, or an NMI between two of them. -/
inductive Poll where
  | mailbox (now : UInt32) (command : DriverCommand)
  | modem (now : UInt32) (exposed : Bool) (joyser1 : ℕ → UInt8)
  | session (now : UInt32)
  | receive
  /-- `pppTransmitPoll` and the speed test queue octets. -/
  | queue (octets : List UInt8)
  /-- The speed test takes octets. -/
  | take (count : ℕ)
  /-- The other polls, which leave the block alone, and what they make of the receive path. -/
  | other (receive : Receive)
  /-- `readController1`, which leaves the driver alone, and whether its tick is up. -/
  | controller (ticked : Bool)
  /-- `VBlank` renders what it can of the queue of the display. -/
  | vBlank (displayReadIndex : UInt8)

def step (d : Driver) : Poll → Driver
  | .mailbox now c => command now d c
  | .modem now exposed joyser1 => modemPoll now exposed joyser1 d
  | .session now => modemSessionPoll now d
  | .receive => pppReceivePoll d
  | .queue octets => (queueBytes octets d).1
  | .take count => takeBytes count d
  | .other receive => { d with receive := receive }
  | .controller _ => d
  | .vBlank displayReadIndex => { d.store pollTick 1 with displayReadIndex := displayReadIndex }

/-- The block after `modemInitializeDiagnostics`, in cleared memory. -/
def bootBlock : Buffer :=
  write (write (write (fun _ => 0) magic [0x4e, 0x44, 0x4d, 0x32]) version [0x02, 0x00]) size [0x80, 0x00]

def boot : Driver where
  history := ⟨[], bootBlock⟩
  receiveBuffer := fun _ => 0
  transmitBuffer := fun _ => 0
  burstPending := false
  sessionLine := fun _ => 0
  probeSent := false
  retryCount := 0
  probeStartFrame := 0
  atTimeoutFrames := 0
  displayReadIndex := 0
  displayWriteIndex := 0
  receive := Asm.pppReceiveInitialize default

/-- The state after a run from boot. -/
def after (polls : List Poll) : Driver := Run.run step boot polls

end Driver

end SnesModem.Asm
