import SnesModem.Asm.Chap
import SnesModem.Asm.Ipcp

/-!
# `ppp/lcpPoll.asm`, `ppp/papPoll.asm`, `ppp/chapPoll.asm`, `ppp/ipcpPoll.asm` and `ppp/ipv4Poll.asm`

The polls of the layers, each over the variables that it writes.  `connected` is whether `modemDriverState` is
`MODEM_STATE_CONNECTED`, and `now` is `frameCounter`; every poll reads both when it is called.
-/

namespace SnesModem.Asm

open SnesModem.Lib.Octets

/-! ### LCP -/

/-- The actions whose packet is made of the received frame; each gives the frame up once it is sent. -/
def LcpAction.usesFrame : LcpAction → Bool
  | .configureAck | .configureNak | .configureReject | .protocolReject | .codeReject | .echoReply => true
  | _ => false

/-- The actions for which `@receiveLcp` keeps the frame. -/
def LcpAction.keepsFrame : LcpAction → Bool
  | .configureAck | .configureNak | .configureReject | .terminateAck | .codeReject | .echoReply => true
  | _ => false

/-- The variables that `pppLcpPoll` writes. -/
structure LcpLayer where
  receive : Receive
  transmit : Transmit
  lcp : Lcp

namespace LcpLayer

def release (s : LcpLayer) : LcpLayer := { s with receive := pppReleaseFrame s.receive }

/-- `@responseSent` and `@terminateAckSent`, for the action that the encoder has taken. -/
def sent (action : LcpAction) (s : LcpLayer) : LcpLayer :=
  if action.usesFrame then
    let s := s.release
    if s.lcp.deferredRequest then
      { s with lcp := { s.lcp with deferredRequest := false, pendingAction := .configureRequest } }
    else s
  else if action = .terminateAck then
    let s := s.release
    if s.lcp.state = .closing then s else { s with lcp := pppLcpPeerTerminateComplete s.lcp }
  else s

/-- `@servicePending`: the carry is set if the encoder does not take the pending action. -/
def servicePending (now : UInt32) (s : LcpLayer) : LcpLayer × Bool :=
  if s.lcp.pendingAction = .none then (s, false)
  else
    match pppLcpBuildPending now s.receive.decoder s.lcp s.transmit with
    | (lcp, transmit, true) => ({ s with lcp := lcp, transmit := transmit }, true)
    | (lcp, transmit, false) => (sent s.lcp.pendingAction { s with lcp := lcp, transmit := transmit }, false)

/-- `@timer`. -/
def timer (now : UInt32) (s : LcpLayer) : LcpLayer :=
  (servicePending now { s with lcp := pppLcpPollTimeout now s.lcp }).1

/-- `@servicePending`, and `@timer` unless the encoder is busy. -/
def serviceThenTimer (now : UInt32) (s : LcpLayer) : LcpLayer :=
  match servicePending now s with
  | (s, true) => s
  | (s, false) => timer now s

/-- `@receiveLcp`. -/
def receiveLcp (now : UInt32) (s : LcpLayer) : LcpLayer :=
  match pppLcpReceiveFrame s.receive.decoder s.lcp with
  | (lcp, carry) =>
    let s := { s with lcp := lcp }
    if !carry && lcp.pendingAction.keepsFrame then serviceThenTimer now s
    else timer now (servicePending now s.release).1

/-- The protocols of the layers above LCP. -/
def knownUpperProtocol (protocol : UInt16) : Bool :=
  protocol = protocolPap ∨ protocol = protocolChap ∨ protocol = protocolIpcp ∨ protocol = protocolIp

/-- The completed frame, by its protocol. -/
def dispatchFrame (now : UInt32) (s : LcpLayer) : LcpLayer :=
  let protocol := s.receive.decoder.lastProtocol
  if protocol = protocolLcp then receiveLcp now s
  else if s.lcp.state ≠ .opened then timer now s.release
  else if knownUpperProtocol protocol then timer now s
  else serviceThenTimer now { s with lcp := pppLcpRejectProtocol s.lcp }

/-- `@serviceExistingPending`. -/
def serviceExistingPending (now : UInt32) (s : LcpLayer) : LcpLayer :=
  match servicePending now s with
  | (s, true) => s
  | (s, false) => if s.receive.frameReady then dispatchFrame now s else timer now s

/-- `@lowerUnavailable`. -/
def lowerUnavailable (s : LcpLayer) : LcpLayer where
  receive := pppReleaseFrame s.receive
  transmit := pppTransmitAbort s.transmit
  lcp := if s.lcp.state = .closed then s.lcp else pppLcpLowerDown s.lcp

/-- An administrative close waits until the pending action has been sent. -/
def closeIfIdle (s : LcpLayer) : LcpLayer :=
  if !s.lcp.administrativeOpen ∧ s.lcp.state ≠ .closing ∧ s.lcp.pendingAction = .none then
    { s with lcp := pppLcpClose s.lcp }
  else s

end LcpLayer

open LcpLayer in
def pppLcpPoll (connected : Bool) (now : UInt32) (s : LcpLayer) : LcpLayer :=
  if !s.receive.enabled || !connected then lowerUnavailable s
  else
    match s.lcp.state with
    | .closed =>
      if s.lcp.administrativeOpen then serviceExistingPending now { s with lcp := pppLcpOpen now s.lcp } else s
    | .stopped => release s
    | _ => serviceExistingPending now (closeIfIdle s)

/-! ### PAP -/

/-- The variables that `pppPapPoll` writes. -/
structure PapLayer where
  receive : Receive
  transmit : Transmit
  pap : Pap
  credentials : Credentials

namespace PapLayer

/-- `pppPapBuildPending`. -/
def build (now : UInt32) (s : PapLayer) : PapLayer :=
  match pppPapBuildPending now s.credentials s.pap s.transmit with
  | (pap, transmit) => { s with pap := pap, transmit := transmit }

/-- The lower layer is up: `pppPapLowerUp` and `@servicePending`. -/
def serviced (now : UInt32) (flags : PeerFlags) (s : PapLayer) : PapLayer :=
  build now { s with pap := pppPapLowerUp flags s.credentials s.pap }

/-- The completed frame, if there is one. -/
def dispatchFrame (s : PapLayer) : PapLayer :=
  if !s.receive.frameReady then s
  else if s.receive.decoder.lastProtocol = protocolPap then
    match pppPapReceiveFrame s.receive.decoder s.credentials s.pap with
    | (pap, credentials) =>
      { s with pap := pap, credentials := credentials, receive := pppReleaseFrame s.receive }
  else if s.pap.state = .opened then s
  else { s with receive := pppReleaseFrame s.receive }

/-- `@timer`. -/
def timer (now : UInt32) (s : PapLayer) : PapLayer :=
  match pppPapPollTimeout now s.credentials s.pap with
  | (pap, credentials) => build now { s with pap := pap, credentials := credentials }

/-- `@lowerDown`. -/
def lowerDown (s : PapLayer) : PapLayer :=
  if s.pap.state = .inactive then s
  else { s with pap := pppPapLowerDown s.pap, credentials := pppPapCredentialsClearSensitive s.credentials }

end PapLayer

/-- LCP is `Opened` on a live lower layer. -/
def linkUp (connected : Bool) (r : Receive) (state : LcpState) : Bool := r.enabled && connected && state = .opened

lemma opened_of_linkUp {connected : Bool} {r : Receive} {state : LcpState} (h : linkUp connected r state = true) :
    state = .opened := by
  simp only [linkUp, Bool.and_eq_true, decide_eq_true_eq] at h
  exact h.2

open PapLayer in
def pppPapPoll (connected : Bool) (now : UInt32) (l : Lcp) (s : PapLayer) : PapLayer :=
  if linkUp connected s.receive l.state then timer now (dispatchFrame (serviced now l.peerFlags s)) else lowerDown s

/-! ### CHAP -/

/-- The variables that `pppChapPoll` writes. -/
structure ChapLayer where
  receive : Receive
  transmit : Transmit
  chap : Chap
  credentials : Credentials

namespace ChapLayer

/-- `pppChapBuildPending`. -/
def build (s : ChapLayer) : ChapLayer :=
  match pppChapBuildPending s.credentials s.chap s.transmit with
  | (chap, transmit) => { s with chap := chap, transmit := transmit }

/-- The lower layer is up: `pppChapLowerUp` and `@service`. -/
def serviced (flags : PeerFlags) (s : ChapLayer) : ChapLayer :=
  build { s with chap := pppChapLowerUp flags s.credentials s.chap }

/-- `pppChapReceiveFrame`, before the frame is released. -/
def received (s : ChapLayer) : ChapLayer :=
  match pppChapReceiveFrame s.receive.decoder s.credentials s.chap with
  | (chap, credentials) => { s with chap := chap, credentials := credentials }

/-- Whether the completed frame is dispatched to `pppChapReceiveFrame`. -/
def dispatches (s : ChapLayer) : Bool := s.receive.frameReady && s.receive.decoder.lastProtocol = protocolChap

/-- The completed frame, if there is one. -/
def dispatchFrame (s : ChapLayer) : ChapLayer :=
  if s.dispatches then build { s.received with receive := pppReleaseFrame s.receive }
  else if s.receive.frameReady ∧ s.chap.state ≠ .opened then { s with receive := pppReleaseFrame s.receive }
  else s

/-- `@lowerDown`. -/
def lowerDown (s : ChapLayer) : ChapLayer :=
  if s.chap.state = .inactive then s
  else { s with chap := pppChapLowerDown s.chap, credentials := pppPapCredentialsClearSensitive s.credentials }

end ChapLayer

open ChapLayer in
def pppChapPoll (connected : Bool) (l : Lcp) (s : ChapLayer) : ChapLayer :=
  if linkUp connected s.receive l.state then dispatchFrame (serviced l.peerFlags s) else lowerDown s

/-! ### IPCP -/

/-- The actions whose packet is made of the received frame. -/
def IpcpAction.usesFrame : IpcpAction → Bool
  | .configureAck | .configureNak | .configureReject => true
  | _ => false

/-- The variables that `pppIpcpPoll` writes, with the memory from `pppLcpOptionSeen` on. -/
structure IpcpLayer where
  receive : Receive
  transmit : Transmit
  ipcp : Ipcp
  ram : Buffer

namespace IpcpLayer

def release (s : IpcpLayer) : IpcpLayer := { s with receive := pppReleaseFrame s.receive }

/-- `@responseSent`, for the action that the encoder has taken. -/
def sent (action : IpcpAction) (s : IpcpLayer) : IpcpLayer :=
  if action.usesFrame then
    let s := s.release
    if s.ipcp.deferredRequest then
      { s with ipcp := { s.ipcp with deferredRequest := false, pendingAction := .configureRequest } }
    else s
  else s

/-- `@servicePending`: the carry is set if the encoder does not take the pending action. -/
def servicePending (now : UInt32) (s : IpcpLayer) : IpcpLayer × Bool :=
  if s.ipcp.pendingAction = .none then (s, false)
  else
    match pppIpcpBuildPending now s.receive.decoder.frameBuffer s.ram s.ipcp s.transmit with
    | (ipcp, transmit, true) => ({ s with ipcp := ipcp, transmit := transmit }, true)
    | (ipcp, transmit, false) => (sent s.ipcp.pendingAction { s with ipcp := ipcp, transmit := transmit }, false)

/-- `@timer`. -/
def timer (now : UInt32) (s : IpcpLayer) : IpcpLayer :=
  (servicePending now { s with ipcp := pppIpcpPollTimeout now s.ipcp }).1

/-- `@receiveIpcp`. -/
def receiveIpcp (now : UInt32) (s : IpcpLayer) : IpcpLayer :=
  match pppIpcpReceiveFrame s.receive.decoder s.ram s.ipcp with
  | (ram, ipcp, carry) =>
    let s := { s with ram := ram, ipcp := ipcp }
    if !carry && ipcp.pendingAction.usesFrame then
      match servicePending now s with
      | (s, true) => s
      | (s, false) => timer now s
    else timer now (servicePending now s.release).1

/-- The completed frame, by its protocol. -/
def dispatchFrame (now : UInt32) (s : IpcpLayer) : IpcpLayer :=
  let protocol := s.receive.decoder.lastProtocol
  if protocol = protocolIpcp then receiveIpcp now s
  else if protocol = protocolIp then s
  else timer now s.release

/-- `@service`. -/
def service (now : UInt32) (s : IpcpLayer) : IpcpLayer :=
  match servicePending now s with
  | (s, true) => s
  | (s, false) => if s.receive.frameReady then dispatchFrame now s else timer now s

/-- The frame in the transmit buffer is an LCP Terminate-Ack. -/
def terminateAck (buffer : Buffer) : Bool := buffer 2 = 0xc0 ∧ buffer 3 = 0x21 ∧ buffer 4 = 6

/-- `@lowerDown`. -/
def lowerDown (connected : Bool) (s : IpcpLayer) : IpcpLayer :=
  if s.ipcp.state = .closed then s
  else
    let s := { s.release with ipcp := pppIpcpLowerDown s.ipcp }
    if s.receive.enabled ∧ connected ∧ terminateAck s.transmit.buffer then s
    else { s with transmit := pppTransmitAbort s.transmit }

end IpcpLayer

open IpcpLayer in
/-- `pppIpcpPoll`, with the state of LCP and the result of `pppAuthenticationReady`. -/
def pppIpcpPoll (connected : Bool) (now : UInt32) (state : LcpState) (authenticated : Bool) (s : IpcpLayer) :
    IpcpLayer :=
  if linkUp connected s.receive state && authenticated then
    match s.ipcp.state with
    | .closed => service now { s with ipcp := pppIpcpLowerUp s.ipcp }
    | .stopped => release s
    | _ => service now s
  else lowerDown connected s

/-! ### IPv4 -/

/-- The variables of the upper layers that decide who owns a frame: whether an ICMP Echo-Reply waits for the
encoder. -/
structure Ipv4Layer where
  receive : Receive
  transmit : Transmit
  replyPending : Bool

/-- An IP packet given to the encoder by an upper layer, which has found it idle. -/
def sendIp (t : Transmit) (packet : List UInt8) : Transmit :=
  if t.active then t else (sendFrame t ([0xff, 0x03, 0x00, 0x21] ++ packet)).1

/-- `pppIpv4Poll`.  The layers above are not modelled: `reply` is the IP packet of the Echo-Reply that the
received packet asks for, if it asks for one. -/
def pppIpv4Poll (up : Bool) (reply : Option (List UInt8)) (s : Ipv4Layer) : Ipv4Layer :=
  if !s.receive.frameReady ∨ s.receive.decoder.lastProtocol ≠ protocolIp then s
  else if !up then { s with receive := pppReleaseFrame s.receive, replyPending := false }
  else
    match reply with
    | some packet =>
      if s.transmit.active then { s with replyPending := true }
      else
        { receive := pppReleaseFrame s.receive, transmit := sendIp s.transmit packet, replyPending := false }
    | none =>
      if s.replyPending ∧ s.transmit.active then s
      else { s with receive := pppReleaseFrame s.receive, replyPending := false }

end SnesModem.Asm
