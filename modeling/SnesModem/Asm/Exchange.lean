import SnesModem.Asm.Mailbox
import SnesModem.Lib.Run

/-!
# The host and the console around the mailbox

The invocations of `mailbox_command_with_arguments` in the host's tool, one after the other, in any interleaving with
the polls of the console.

* A poll of the mailbox is three steps: it looks for a new command, runs it, and commits the sequence of the host.  The
  host can write between any two of them, the other polls run when the mailbox is done.
* What the PPP stack and the controller port do is the input of a step.
* Beside the variables, an exchange has the log of the commands that were run, and who has written the status, the
  result and the output since the last of them.
-/

namespace SnesModem.Asm

open SnesModem.Lib SnesModem.Lib.Octets

/-- An invocation that has written its command. -/
structure Invocation where
  number : ℕ
  sequence : UInt32
  command : UInt8
  arguments : List UInt8
  deriving DecidableEq, Repr

/-- Where the invocation of the host stands; an invocation that gives up is `idle`. -/
inductive HostState where
  | idle
  /-- It has read the processed sequence. -/
  | read (current : UInt32)
  | waiting (invocation : Invocation)
  deriving DecidableEq, Repr

/-- A command that was run, with the number of the invocation whose command the mailbox held. -/
structure Dispatch where
  number : ℕ
  command : UInt8
  arguments : Buffer

/-- Where `modemMailboxPoll` stands. -/
inductive MailboxPhase where
  | idle | newCommand | committing
  deriving DecidableEq, Repr

structure Exchange where
  console : Console
  phase : MailboxPhase
  host : HostState
  /-- The number of the invocations that have written a command. -/
  posted : ℕ
  /-- The commands that were run, the last one first. -/
  dispatched : List Dispatch
  /-- Who has written the status, the result or the output since the last dispatch. -/
  writers : List ℕ
  /-- The invocations that have begun the quick test, the AT transaction and the speed test. -/
  quickOwner : ℕ
  atOwner : ℕ
  speedOwner : ℕ

inductive ExchangeStep where
  | hostRead
  | hostPost (command : UInt8) (arguments : List UInt8)
  | hostGiveUp
  | look
  | dispatch (now : UInt32) (answer : Console.Answer)
  | commit
  | vBlank
  | modemPoll (now : UInt32) (reports : List Modem.Report)
  | speedTestPoll (now : UInt32)
  | sessionPoll (now : UInt32)
  /-- `pppReceivePoll` takes octets from the ring, and may find the carrier lost. -/
  | receivePoll (taken : ℕ) (carrierLost : Bool)
  /-- `pppTransmitPoll` queues octets. -/
  | transmitPoll (octets : List UInt8)

namespace Exchange

def start : Exchange := ⟨Console.initial, .idle, .idle, 0, [], [], 0, 0, 0⟩

abbrev argumentSize : ℕ := 32

/-- The writes of an invocation, which reach the console as one. -/
def post (current : UInt32) (command : UInt8) (arguments : List UInt8) (s : Exchange) : Exchange :=
  let mailbox := { s.console.mailbox with
    arguments := write s.console.mailbox.arguments 0 arguments
    command := command
    hostSequence := current + 1 }
  { s with
    console := { s.console with mailbox := mailbox }
    host := .waiting ⟨s.posted + 1, current + 1, command, arguments⟩
    posted := s.posted + 1 }

/-- Who completes a running command in a look. -/
def completes (s : Exchange) : List ℕ :=
  if s.console.mailbox.status = .running ∧ s.console.mailbox.command = Console.commandQuickTest then
    if s.console.modem.driverState = .ready ∨ s.console.modem.driverState = .error then [s.quickOwner] else []
  else if s.console.mailbox.status = .running ∧ s.console.mailbox.command = Console.commandAtTransaction then
    if s.console.modem.atStatus = .passed ∨ s.console.modem.atStatus = .failed then [s.atOwner] else []
  else []

def look (s : Exchange) : Exchange :=
  { s with
    console := s.console.look.1
    phase := if s.console.look.2 then .newCommand else .idle
    writers := s.completes ++ s.writers }

/-- A command that goes on after its dispatch leaves the status running, and owns what it has begun. -/
def dispatch (now : UInt32) (answer : Console.Answer) (s : Exchange) : Exchange :=
  let console := s.console.dispatch now answer
  let command := s.console.mailbox.command
  { s with
    console := console
    phase := .committing
    dispatched := ⟨s.posted, command, s.console.mailbox.arguments⟩ :: s.dispatched
    writers := [s.posted]
    quickOwner := if command = 0x02 ∧ console.mailbox.status = .running then s.posted else s.quickOwner
    atOwner := if command = 0x06 ∧ console.mailbox.status = .running then s.posted else s.atOwner
    speedOwner :=
      if (command = 0x15 ∨ command = 0x16) ∧ console.mailbox.status = .running then s.posted else s.speedOwner }

/-- The speed test writes when it ends. -/
def speedTestPoll (now : UInt32) (s : Exchange) : Exchange :=
  let console := s.console.speedTestPoll now
  { s with
    console := console
    writers :=
      if s.console.speedTest.mode ≠ .idle ∧ console.speedTest.mode = .idle then s.speedOwner :: s.writers
      else s.writers }

/-- A poll of the modem or of the session. -/
def pollModem (poll : Modem → Modem) (s : Exchange) : Exchange :=
  { s with console := { s.console with modem := poll s.console.modem } }

/-- What `pppReceivePoll` does to the modem. -/
def receive (taken : ℕ) (carrierLost : Bool) (m : Modem) : Modem :=
  if m.driverState ≠ .connected then m
  else if carrierLost then
    { m with
      receive := { m.receive with readIndex := m.receive.writeIndex }
      lastResult := .noCarrier
      lineLength := 0
      driverState := .ready }
  else { m with receive := (fun r => ((r.pop).map Prod.snd).getD r)^[taken] m.receive }

/-- What `pppTransmitPoll` does to the modem. -/
def transmit (octets : List UInt8) (m : Modem) : Modem :=
  if m.driverState ≠ .connected then m else (Modem.queueBytes octets m).1

/-- One step.  A step that the phase does not allow does nothing. -/
def step (s : Exchange) : ExchangeStep → Exchange
  | .hostRead => { s with host := .read s.console.mailbox.processedSequence }
  | .hostPost command arguments =>
    match s.host with
    | .read current => if argumentSize < arguments.length then s else s.post current command arguments
    | _ => s
  | .hostGiveUp => { s with host := .idle }
  | .look => if s.phase = .idle then s.look else s
  | .dispatch now answer => if s.phase = .newCommand then s.dispatch now answer else s
  | .commit => if s.phase = .committing then { s with console := s.console.commitCommand, phase := .idle } else s
  | .vBlank => s.pollModem fun m => { m with pollTick := true }
  | .modemPoll now reports => if s.phase = .idle then s.pollModem (modemPoll now reports) else s
  | .speedTestPoll now => if s.phase = .idle then s.speedTestPoll now else s
  | .sessionPoll now => if s.phase = .idle then s.pollModem (modemSessionPoll now) else s
  | .receivePoll taken carrierLost => if s.phase = .idle then s.pollModem (receive taken carrierLost) else s
  | .transmitPoll octets => if s.phase = .idle then s.pollModem (transmit octets) else s

end Exchange

end SnesModem.Asm
