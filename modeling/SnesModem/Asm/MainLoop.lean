import SnesModem.Asm.Polls
import SnesModem.Lib.Run

/-!
# The main loop of `reset.asm`

The polls in their order, with the mailbox before them.  Each step of the machine is one poll; what the poll
does not compute itself is its input.

* The state of the modem driver, `frameCounter` and the memory behind the option maps are read afresh by each
  poll.
* The command of the mailbox, the octets in the RX ring, the room in the TX ring and the packets of the layers
  above IPCP are those that the poll finds.
-/

namespace SnesModem.Asm

open SnesModem.Lib SnesModem.Lib.Octets

/-- The variables of the PPP stack. -/
structure Stack where
  receive : Receive
  transmit : Transmit
  lcp : Lcp
  pap : Pap
  credentials : Credentials
  chap : Chap
  ipcp : Ipcp
  replyPending : Bool

/-- The state after the initializations of `reset.asm`, in cleared memory. -/
def Stack.initial : Stack where
  receive := pppReceiveInitialize default
  transmit := pppTransmitInitialize default
  lcp := pppLcpInitialize default
  pap := pppPapInitialize
  credentials := pppPapCredentialsInitialize
  chap := pppChapInitialize default
  ipcp := pppIpcpInitialize default
  replyPending := false

/-! ### The mailbox -/

/-- What a copy of more octets than were validated leaves in the buffers behind the credentials. -/
structure Overrun where
  credentials : Credentials
  challenge : Buffer
  optionRam : Buffer
  frameBuffer : Buffer
  transmitBuffer : Buffer

/-- The commands that reach the PPP stack.  An upload comes with its arguments, the octet that the dispatcher
has left in the accumulator's hidden half, and what a copy of more octets than were validated overwrites. -/
inductive Command where
  /-- No command, or one for the modem, the trace or the layers above. -/
  | other
  | receiveStart
  | receiveStop
  | pppOpen
  | pppClose
  | credentialsClear
  | peerIdSet (arguments : Buffer) (b : UInt8) (overrun : Overrun)
  | passwordSet (arguments : Buffer) (b : UInt8) (overrun : Overrun)
  /-- The self-test drives the same variables; what it leaves is an input, but for the receiver and the
  encoder, which it initializes at its end. -/
  | selfTest (left : Stack)

/-- The buffers behind the credentials, overwritten. -/
def Stack.overrun (s : Stack) (o : Overrun) : Stack :=
  { s with
    receive := { s.receive with decoder := { s.receive.decoder with frameBuffer := o.frameBuffer } }
    transmit := { s.transmit with buffer := o.transmitBuffer }
    lcp := { s.lcp with optionRam := o.optionRam }
    credentials := o.credentials
    chap := { s.chap with challenge := o.challenge } }

/-- The command copies no more than it has validated: an upload that is accepted has found the hidden half of the
accumulator to be zero. One that is refused copies nothing. -/
def copiesValidated (credentials : Credentials) : Command → Bool
  | .peerIdSet arguments b _ => !acceptsPeerId arguments credentials || b = 0
  | .passwordSet arguments b _ => !acceptsPassword arguments credentials || b = 0
  | _ => true

/-- An upload, and whether its copy has the validated length. -/
def Stack.upload (s : Stack) (credentials : Credentials) (copies : Bool) (o : Overrun) : Stack :=
  if copies then { s with credentials := credentials } else s.overrun o

/-- `modemMailboxPoll`. -/
def modemMailboxPoll (now : UInt32) (s : Stack) : Command → Stack
  | .other => s
  | .receiveStart => { s with receive := pppReceiveStart s.receive }
  | .receiveStop => { s with receive := pppReceiveStop s.receive }
  | .pppOpen => { s with lcp := pppLcpOpen now s.lcp }
  | .pppClose => { s with lcp := pppLcpClose s.lcp }
  | .credentialsClear => { s with credentials := pppPapCredentialsClear }
  | command@(.peerIdSet arguments _ overrun) =>
    s.upload (pppPapCredentialSetPeerId arguments s.credentials) (copiesValidated s.credentials command) overrun
  | command@(.passwordSet arguments _ overrun) =>
    s.upload (pppPapCredentialSetPassword arguments s.credentials) (copiesValidated s.credentials command) overrun
  | .selfTest left =>
    { left with receive := pppReceiveInitialize left.receive, transmit := pppTransmitInitialize left.transmit }

/-! ### The loop -/

/-- The polls, in their order.  `request` stands for those of the ICMP, NTP and DNS clients. -/
inductive Phase where
  | mailbox | receive | lcp | pap | chap | ipcp | ipv4 | request | transmit
  deriving DecidableEq, Repr

def Phase.next : Phase → Phase
  | .mailbox => .receive
  | .receive => .lcp
  | .lcp => .pap
  | .pap => .chap
  | .chap => .ipcp
  | .ipcp => .ipv4
  | .ipv4 => .request
  | .request => .transmit
  | .transmit => .mailbox

/-- What a poll finds. -/
structure Input where
  command : Command := .other
  connected : Bool := true
  now : UInt32 := 0
  /-- The memory behind the option maps. -/
  ram : Buffer := default
  /-- The octets in the RX ring. -/
  ring : List UInt8 := []
  /-- The Echo-Reply that a received IP packet asks for. -/
  reply : Option (List UInt8) := none
  /-- The packet of a client. -/
  packet : Option (List UInt8) := none
  /-- The room in the TX ring. -/
  room : ℕ := 0

/-- A state of the main loop: the next poll, the variables, and the octets that the encoder has put into the
TX ring. -/
structure Loop where
  phase : Phase
  stack : Stack
  queued : List UInt8

abbrev optionMapsEnd : ℕ := 0x400

/-- The option maps, with the memory that a poll finds behind them. -/
def withRam (ram behind : Buffer) : Buffer := fun i => if i < optionMapsEnd then ram i else behind i

/-- The variables as a poll finds them. -/
def Stack.found (s : Stack) (i : Input) : Stack :=
  { s with lcp := { s.lcp with optionRam := withRam s.lcp.optionRam i.ram } }

def Stack.authenticated (s : Stack) : Bool := pppAuthenticationReady s.lcp.peerFlags s.pap s.chap

/-- The conditions under which `pppIpv4Poll` parses packets. -/
def Stack.ipUp (s : Stack) (connected : Bool) : Bool :=
  linkUp connected s.receive s.lcp.state && s.authenticated && s.ipcp.state = .opened

/-- The layers that the polls work on. -/
def Stack.lcpLayer (s : Stack) : LcpLayer := ⟨s.receive, s.transmit, s.lcp⟩

def Stack.papLayer (s : Stack) : PapLayer := ⟨s.receive, s.transmit, s.pap, s.credentials⟩

def Stack.chapLayer (s : Stack) : ChapLayer := ⟨s.receive, s.transmit, s.chap, s.credentials⟩

def Stack.ipcpLayer (s : Stack) : IpcpLayer := ⟨s.receive, s.transmit, s.ipcp, s.lcp.optionRam⟩

def Stack.ipv4Layer (s : Stack) : Ipv4Layer := ⟨s.receive, s.transmit, s.replyPending⟩

def Stack.withLcpLayer (s : Stack) (l : LcpLayer) : Stack :=
  { s with receive := l.receive, transmit := l.transmit, lcp := l.lcp }

def Stack.withPapLayer (s : Stack) (l : PapLayer) : Stack :=
  { s with receive := l.receive, transmit := l.transmit, pap := l.pap, credentials := l.credentials }

def Stack.withChapLayer (s : Stack) (l : ChapLayer) : Stack :=
  { s with receive := l.receive, transmit := l.transmit, chap := l.chap, credentials := l.credentials }

def Stack.withIpcpLayer (s : Stack) (l : IpcpLayer) : Stack :=
  { s with
    receive := l.receive
    transmit := l.transmit
    ipcp := l.ipcp
    lcp := { s.lcp with optionRam := l.ram } }

def Stack.withIpv4Layer (s : Stack) (l : Ipv4Layer) : Stack :=
  { s with receive := l.receive, transmit := l.transmit, replyPending := l.replyPending }

/-- A poll other than `pppTransmitPoll`. -/
def pollLayer (phase : Phase) (s : Stack) (i : Input) : Stack :=
  match phase with
  | .mailbox => modemMailboxPoll i.now s i.command
  | .receive => { s with receive := pppReceivePoll i.connected i.ring s.receive }
  | .lcp => s.withLcpLayer (pppLcpPoll i.connected i.now s.lcpLayer)
  | .pap => s.withPapLayer (pppPapPoll i.connected i.now s.lcp s.papLayer)
  | .chap => s.withChapLayer (pppChapPoll i.connected s.lcp s.chapLayer)
  | .ipcp => s.withIpcpLayer (pppIpcpPoll i.connected i.now s.lcp.state s.authenticated s.ipcpLayer)
  | .ipv4 => s.withIpv4Layer (pppIpv4Poll (s.ipUp i.connected) i.reply s.ipv4Layer)
  | .request => { s with transmit := (i.packet.map (sendIp s.transmit)).getD s.transmit }
  | .transmit => s

/-- One poll. -/
def step (l : Loop) (i : Input) : Loop :=
  let s := pollLayer l.phase (l.stack.found i) i
  if l.phase = .transmit then
    let polled := pppTransmitPoll i.connected i.room s.transmit
    ⟨l.phase.next, { s with transmit := polled.1 }, l.queued ++ polled.2⟩
  else ⟨l.phase.next, s, l.queued⟩

/-- Every poll but that of the encoder leaves the TX ring alone. -/
lemma step_of_ne {l : Loop} (i : Input) (hphase : l.phase ≠ .transmit) :
    step l i = ⟨l.phase.next, pollLayer l.phase (l.stack.found i) i, l.queued⟩ := by
  unfold step
  dsimp only
  rw [if_neg hphase]

/-- The step in a phase that is known. -/
lemma step_at {l : Loop} {phase : Phase} (hphase : l.phase = phase) (hne : phase ≠ .transmit) (i : Input) :
    step l i = ⟨phase.next, pollLayer phase (l.stack.found i) i, l.queued⟩ := by
  subst hphase
  exact step_of_ne i hne

/-- The main loop starts with the mailbox. -/
def Loop.boot : Loop := ⟨.mailbox, .initial, []⟩

/-- The state after a run from boot. -/
def Loop.after (inputs : List Input) : Loop := Run.run step Loop.boot inputs

/-- One turn of the loop, whose polls find the same. -/
def turn (i : Input) : List Input := List.replicate 9 i

/-- A run of two turns: the receiver is started, and the peer acknowledges the Configure-Request. -/
def requestAcknowledged : List Input :=
  turn { command := .receiveStart, room := 100 } ++
    turn
      { ring := [0x7e, 0xff, 0x7d, 0x23, 0xc0, 0x21, 0x7d, 0x22, 0x7d, 0x20, 0x7d, 0x20, 0x7d, 0x2a, 0x7d, 0x25, 0x7d,
          0x26, 0x4e, 0x44, 0x4d, 0x24, 0xc7, 0x7d, 0x32, 0x7e]
        room := 100 }

/-- A poll that finds a Configure-Request of the peer in the RX ring, without options. -/
def peerRequest : Input where
  ring := [0x7e, 0xff, 0x7d, 0x23, 0xc0, 0x21, 0x7d, 0x21, 0x7d, 0x27, 0x7d, 0x20, 0x7d, 0x24, 0x7d, 0x28, 0x63, 0x7e]
  room := 100

end SnesModem.Asm
