import SnesModem.Asm.Ipcp
import SnesModem.Asm.Transmit

/-!
# `pppIpv4BeginTransmit` and `pppUdpBeginTransmit`

The headers around a payload that is staged in the transmit buffer, and what the clients above read of a received
packet.  The diagnostic errors of the two are left out.
-/

namespace SnesModem.Asm

open SnesModem.Lib.Cpu65816 SnesModem.Lib.Octets

abbrev ipv4FrameOffset : ℕ := 4
abbrev ipv4MinimumHeaderLength : UInt16 := 20
abbrev ipv4MaximumPayloadLength : UInt16 := defaultMru - ipv4MinimumHeaderLength
abbrev ipv4DefaultTtl : UInt8 := 64
abbrev protocolIcmp : UInt8 := 1
abbrev protocolUdp : UInt8 := 17

abbrev udpHeaderLength : UInt16 := 8
abbrev udpMaximumPayloadLength : UInt16 := ipv4MaximumPayloadLength - udpHeaderLength

/-- Where the payload of an IPv4 packet is staged. -/
abbrev ipv4PayloadOffset : ℕ := 24
abbrev udpTransmitPayloadOffset : ℕ := 32

/-- `addChecksumWord`: the carry goes around. -/
def addChecksumWord (accumulator value : UInt16) : UInt16 :=
  if 2 ^ 16 ≤ value.toNat + accumulator.toNat then value + accumulator + 1 else value + accumulator

/-- The sum of the words of the octets; an odd octet is the high one of the last word. -/
def checksumWords : UInt16 → List UInt8 → UInt16
  | accumulator, [] => accumulator
  | accumulator, [octet] => addChecksumWord accumulator (word octet 0)
  | accumulator, a :: b :: octets => checksumWords (addChecksumWord accumulator (word a b)) octets

/-- The header without options, with its checksum. -/
def ipv4Header (identification totalLength : UInt16) (protocol : UInt8) (source destination : Address)
    (checksum : UInt16) : List UInt8 :=
  [0x45, 0x00, high totalLength, low totalLength, high identification, low identification, 0x40, 0x00, ipv4DefaultTtl,
    protocol, high checksum, low checksum] ++ source.octets ++ destination.octets

/-- The encoder, and `pppIpv4NextIdentification`. -/
structure Ipv4Sender where
  transmit : Transmit
  nextIdentification : UInt16

/-- `pppIpv4BeginTransmit`, with the payload in the transmit buffer; the carry is set if the packet is not accepted.
-/
def pppIpv4BeginTransmit (p : Ipcp) (s : Ipv4Sender) (protocol : UInt8) (destination : Address) (length : UInt16) :
    Ipv4Sender × Bool :=
  if p.state ≠ .opened ∨ !p.flags.localValid then (s, true)
  else if s.transmit.active then (s, true)
  else if ipv4MaximumPayloadLength < length then (s, true)
  else
    let totalLength := length + ipv4MinimumHeaderLength
    let header := ipv4Header s.nextIdentification totalLength protocol p.localAddress destination
    let checksum := checksumWords 0 (header 0) ^^^ 0xffff
    let buffer := write s.transmit.buffer 0 ([0xff, 0x03, 0x00, 0x21] ++ header checksum)
    match pppTransmitBegin { s.transmit with buffer := buffer } (totalLength + frameOffset) with
    | (t, true) => ({ s with transmit := t }, true)
    | (t, false) => (⟨t, s.nextIdentification + 1⟩, false)

/-- `pppUdpBeginTransmit`, with the payload in the transmit buffer. -/
def pppUdpBeginTransmit (p : Ipcp) (s : Ipv4Sender) (sourcePort destinationPort : UInt16) (destination : Address)
    (length : UInt16) : Ipv4Sender × Bool :=
  if udpMaximumPayloadLength < length then (s, true)
  else
    let udpLength := length + udpHeaderLength
    let ports := [high sourcePort, low sourcePort, high destinationPort, low destinationPort, high udpLength, low udpLength]
    let buffer := write s.transmit.buffer ipv4PayloadOffset (ports ++ [0, 0])
    let sum := checksumWords 0 (p.localAddress.octets ++ destination.octets ++
      [0, protocolUdp, high udpLength, low udpLength] ++ read buffer ipv4PayloadOffset udpLength.toNat) ^^^ 0xffff
    let checksum := if sum = 0 then 0xffff else sum
    let buffer := write buffer (ipv4PayloadOffset + 6) [high checksum, low checksum]
    pppIpv4BeginTransmit p { s with transmit := { s.transmit with buffer := buffer } } protocolUdp destination udpLength

/-! ### What the clients read -/

/-- The states of a request; the three clients have the same ones. -/
inductive RequestState where
  | idle | requested | waiting | received | failed
  deriving DecidableEq, Repr, Inhabited

/-- A request that the host has made and that is not answered yet. -/
def RequestState.outstanding (state : RequestState) : Bool := state = .requested || state = .waiting

/-- The link is open for a client that needs its own address. -/
def linkIsOpen (p : Ipcp) : Bool := p.state = .opened && p.flags.localValid

/-- A datagram that `pppUdpReceive` has validated, in the frame buffer. -/
structure UdpDatagram where
  source : Address
  sourcePort : UInt16
  destinationPort : UInt16
  payloadLength : UInt16
  packetOffset : UInt16
  frameBuffer : Buffer

/-- The word at an offset of a buffer, in network order. -/
def wordAt (buffer : Buffer) (offset : ℕ) : UInt16 := word (buffer offset) (buffer (offset + 1))

end SnesModem.Asm
