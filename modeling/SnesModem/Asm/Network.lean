import SnesModem.Asm.ClientRequests
import SnesModem.Asm.MainLoop
import SnesModem.Asm.Udp

/-!
# The main loop with the layers above IPCP

`ppp/ipv4Poll.asm` and the polls of the ICMP, NTP and DNS clients, in the place of the packets that `MainLoop` takes
from its input.
-/

namespace SnesModem.Asm.Network

open SnesModem.Lib SnesModem.Lib.Octets SnesModem.Asm.ClientRequests

/-! ### `pppIpv4Poll` -/

/-- The variables that the poll writes. -/
structure IpLayer where
  receive : Receive
  sender : Ipv4Sender
  ipv4 : Ipv4
  icmp : Icmp
  clients : Clients

namespace IpLayer

/-- An IP packet is in the frame buffer. -/
def owned (s : IpLayer) : Bool := s.receive.frameReady && s.receive.decoder.lastProtocol = protocolIp

def release (s : IpLayer) : IpLayer := { s with receive := pppReleaseFrame s.receive }

/-- `receiveIcmp`; the frame stays if its reply waits for the encoder. -/
def receiveIcmp (p : Ipcp) (now : UInt32) (s : IpLayer) : IpLayer :=
  match pppIcmpReceive p now s.receive.decoder.frameBuffer s.ipv4 s.icmp s.clients.icmp s.sender with
  | (icmp, request, sender, carry) =>
    let s := { s with icmp := icmp, clients := { s.clients with icmp := request }, sender := sender }
    if carry then s else s.release

def receiveUdp (p : Ipcp) (now : UInt32) (s : IpLayer) : IpLayer :=
  let received := pppUdpReceive p now s.receive.decoder.frameBuffer s.ipv4 s.clients.ntp s.clients.dns
  { s with clients := { s.clients with ntp := received.1, dns := received.2 } }.release

/-- `parse`. -/
def parse (p : Ipcp) (now : UInt32) (s : IpLayer) : IpLayer :=
  match pppIpv4ReceiveFrame s.receive.decoder s.ipv4 with
  | (v, some _) => { s with ipv4 := v }.release
  | (v, none) =>
    let s := { s with ipv4 := v }
    if v.destination ≠ p.localAddress then s.release
    else if v.fragmented then s.release
    else if v.protocol = protocolIcmp then s.receiveIcmp p now
    else if v.protocol = protocolUdp then s.receiveUdp p now
    else s.release

/-- A reply is pending: `pppIcmpRetryPending`. -/
def retry (p : Ipcp) (s : IpLayer) : IpLayer :=
  match pppIcmpRetryPending p s.receive.decoder.frameBuffer s.ipv4 s.icmp s.sender with
  | (icmp, sender, carry) =>
    let s := { s with icmp := icmp, sender := sender }
    if carry then s else s.release

end IpLayer

/-- `pppIpv4Poll`; `up` is whether IPCP is opened on a live link. -/
def pppIpv4Poll (up : Bool) (p : Ipcp) (now : UInt32) (s : IpLayer) : IpLayer :=
  if !s.owned then s
  else if !up then { s with icmp := pppIcmpCancelPending s.icmp }.release
  else if s.icmp.replyPending then s.retry p
  else s.parse p now

/-! ### The loop -/

/-- The variables of the layers above IPCP. -/
structure Upper where
  nextIdentification : UInt16
  ipv4 : Ipv4
  icmp : Icmp
  clients : Clients

/-- A command of the mailbox: one of those that reach the layers below, or a request. -/
inductive HostCommand where
  | lower (command : Command)
  | icmpEchoRequest (arguments : Buffer)
  | ntpRequest
  | dnsQuery (caller : DnsCaller) (arguments : Buffer)

def Upper.initial : Upper := ⟨0, pppIpv4Initialize, pppIcmpInitialize, Clients.initial⟩

instance : Inhabited Upper := ⟨Upper.initial⟩

/-- What a poll finds. -/
structure NodeInput where
  command : HostCommand := .lower .other
  connected : Bool := true
  now : UInt32 := 0
  /-- The memory behind the option maps. -/
  ram : Buffer := default
  /-- The octets in the RX ring. -/
  ring : List UInt8 := []
  /-- The room in the TX ring. -/
  room : ℕ := 0
  /-- What a self-test leaves of the layers above IPCP. -/
  left : Upper := default

/-- What the poll of a layer below finds. -/
def NodeInput.lower (i : NodeInput) : Input where
  command := match i.command with
    | .lower command => command
    | _ => .other
  connected := i.connected
  now := i.now
  ram := i.ram
  ring := i.ring
  room := i.room

structure Node where
  loop : Loop
  upper : Upper

namespace Node

def boot : Node := ⟨Loop.boot, Upper.initial⟩

/-- What a command of the mailbox does to the layers above IPCP. -/
def mailbox (n : Node) (i : NodeInput) : Upper :=
  match i.command with
  | .lower (.selfTest _) => i.left
  | .lower _ => n.upper
  | .icmpEchoRequest arguments =>
    { n.upper with clients := n.upper.clients.step (.icmpEchoRequest n.loop.stack.ipcp arguments) }
  | .ntpRequest => { n.upper with clients := n.upper.clients.step (.ntpRequest n.loop.stack.ipcp) }
  | .dnsQuery caller arguments =>
    { n.upper with clients := n.upper.clients.step (.dnsQuery n.loop.stack.ipcp caller arguments) }

/-- The layer of IPv4, as a poll finds it. -/
def ipLayer (n : Node) : IpLayer where
  receive := n.loop.stack.receive
  sender := ⟨n.loop.stack.transmit, n.upper.nextIdentification⟩
  ipv4 := n.upper.ipv4
  icmp := n.upper.icmp
  clients := n.upper.clients

/-- The node after a poll of the layer of IPv4. -/
def withIpLayer (n : Node) (phase : Phase) (s : IpLayer) : Node where
  loop := { n.loop with
    phase := phase
    stack := { n.loop.stack with
      receive := s.receive
      transmit := s.sender.transmit
      replyPending := s.icmp.replyPending } }
  upper := ⟨s.sender.nextIdentification, s.ipv4, s.icmp, s.clients⟩

/-- `pppIcmpRequestPoll`, `pppNtpPoll` and `pppDnsPoll`. -/
def requestPolls (p : Ipcp) (now : UInt32) (s : IpLayer) : IpLayer :=
  let icmp := pppIcmpRequestPoll p now s.clients.icmp s.sender
  let ntp := pppNtpPoll p now s.clients.ntp icmp.2
  let dns := pppDnsPoll p now s.clients.dns ntp.2
  { s with sender := dns.2, clients := ⟨icmp.1, ntp.1, dns.1⟩ }

/-- One poll. -/
def step (n : Node) (i : NodeInput) : Node :=
  match n.loop.phase with
  | .mailbox => ⟨Asm.step n.loop i.lower, n.mailbox i⟩
  | .ipv4 =>
    n.withIpLayer .request (pppIpv4Poll (n.loop.stack.ipUp i.connected) n.loop.stack.ipcp i.now n.ipLayer)
  | .request => n.withIpLayer .transmit (requestPolls n.loop.stack.ipcp i.now n.ipLayer)
  | _ => ⟨Asm.step n.loop i.lower, n.upper⟩

/-- The state after a run from boot. -/
def after (inputs : List NodeInput) : Node := Run.run step boot inputs

end Node

end SnesModem.Asm.Network
