import SnesModem.Asm.Ipv4Transmit

/-!
# `ppp/icmpRequest.asm`

The client that sends an ICMP Echo-Request for the host.
-/

namespace SnesModem.Asm

open SnesModem.Lib.Octets

abbrev icmpRequestIdentifier : UInt16 := 0x4e44
abbrev icmpRequestTimeoutFrames : UInt16 := 600
abbrev icmpEchoHeaderLength : UInt16 := 8

/-- `NDM24`. -/
abbrev icmpRequestPayload : List UInt8 := [0x4e, 0x44, 0x4d, 0x32, 0x34]
abbrev icmpRequestPayloadLength : UInt16 := 5
abbrev icmpRequestMessageLength : UInt16 := icmpEchoHeaderLength + icmpRequestPayloadLength

inductive IcmpRequestError where
  | none | linkNotOpen | requestBusy | transmitFailed | sourceMismatch | identifierMismatch | sequenceMismatch
  | payloadMismatch | timeout
  deriving DecidableEq, Repr, Inhabited

/-- The variables of `icmpRequest.asm`. -/
structure IcmpRequest where
  state : RequestState
  lastError : IcmpRequestError
  responseValid : Bool
  destination : Address
  identifier : UInt16
  sequence : UInt16
  deadline : UInt16
  sentFrame : UInt16
  rttFrames : UInt16
  deriving DecidableEq, Repr, Inhabited

def pppIcmpRequestInitialize : IcmpRequest where
  state := .idle
  lastError := .none
  responseValid := false
  destination := .zero
  identifier := icmpRequestIdentifier
  sequence := 0
  deadline := 0
  sentFrame := 0
  rttFrames := 0

/-- `pppIcmpRequestFail`. -/
def IcmpRequest.fail (r : IcmpRequest) (error : IcmpRequestError) : IcmpRequest :=
  { r with state := .failed, lastError := error, responseValid := false }

/-- `pppIcmpRequestBegin`; the carry comes with the error. -/
def pppIcmpRequestBegin (p : Ipcp) (r : IcmpRequest) : IcmpRequest × Option IcmpRequestError :=
  if r.state.outstanding then (r, some .requestBusy)
  else if !linkIsOpen p then (r.fail .linkNotOpen, some .linkNotOpen)
  else
    ({ r with
      state := .requested
      lastError := .none
      responseValid := false
      identifier := icmpRequestIdentifier
      sequence := r.sequence + 1
      deadline := 0
      sentFrame := 0
      rttFrames := 0 }, none)

/-- `@icmpEchoRequest` of the mailbox: the destination is copied first. -/
def icmpEchoRequest (p : Ipcp) (arguments : Buffer) (r : IcmpRequest) : IcmpRequest × Option IcmpRequestError :=
  pppIcmpRequestBegin p { r with destination := readAddress arguments 0 }

/-- The Echo-Request, with its checksum. -/
def icmpEchoMessage (identifier sequence checksum : UInt16) : List UInt8 :=
  [8, 0, high checksum, low checksum, high identifier, low identifier, high sequence, low sequence] ++ icmpRequestPayload

/-- `build` and `pppIpv4BeginTransmit`. -/
def sendEchoRequest (p : Ipcp) (s : Ipv4Sender) (destination : Address) (identifier sequence : UInt16) :
    Ipv4Sender × Bool :=
  let checksum := checksumWords 0 (icmpEchoMessage identifier sequence 0) ^^^ 0xffff
  let buffer := write s.transmit.buffer ipv4PayloadOffset (icmpEchoMessage identifier sequence checksum)
  pppIpv4BeginTransmit p { s with transmit := { s.transmit with buffer := buffer } } protocolIcmp destination
    icmpRequestMessageLength

/-- `pppIcmpRequestPoll`. -/
def pppIcmpRequestPoll (p : Ipcp) (now : UInt32) (r : IcmpRequest) (s : Ipv4Sender) : IcmpRequest × Ipv4Sender :=
  match r.state with
  | .requested =>
    if !linkIsOpen p then (r.fail .linkNotOpen, s)
    else if s.transmit.active then (r, s)
    else
      match sendEchoRequest p s r.destination r.identifier r.sequence with
      | (s, true) => (r.fail .transmitFailed, s)
      | (s, false) =>
        ({ r with
          state := .waiting
          lastError := .none
          responseValid := false
          sentFrame := now.toUInt16
          deadline := now.toUInt16 + icmpRequestTimeoutFrames }, s)
  | .waiting =>
    if !linkIsOpen p then (r.fail .linkNotOpen, s)
    else if expired now r.deadline then (r.fail .timeout, s)
    else (r, s)
  | .idle | .received | .failed => (r, s)

/-- An Echo-Reply that `pppIcmpReceive` has validated, in the frame buffer. -/
structure IcmpMessage where
  source : Address
  identifier : UInt16
  sequence : UInt16
  payloadLength : UInt16
  packetOffset : UInt16
  frameBuffer : Buffer

/-- What `pppIcmpRequestReceive` finds wrong with a reply. -/
def IcmpRequest.mismatch (r : IcmpRequest) (message : IcmpMessage) : Option IcmpRequestError :=
  if message.source ≠ r.destination then some .sourceMismatch
  else if message.identifier ≠ r.identifier then some .identifierMismatch
  else if message.sequence ≠ r.sequence then some .sequenceMismatch
  else if message.payloadLength ≠ icmpRequestPayloadLength then some .payloadMismatch
  else if read message.frameBuffer (message.packetOffset + icmpEchoHeaderLength).toNat 5 ≠ icmpRequestPayload then
    some .payloadMismatch
  else none

/-- `pppIcmpRequestReceive`. -/
def pppIcmpRequestReceive (now : UInt32) (message : IcmpMessage) (r : IcmpRequest) : IcmpRequest :=
  if r.state ≠ .waiting then r
  else
    match r.mismatch message with
    | some error => { r with lastError := error }
    | none =>
      { r with
        state := .received
        lastError := .none
        responseValid := true
        rttFrames := now.toUInt16 - r.sentFrame }

end SnesModem.Asm
