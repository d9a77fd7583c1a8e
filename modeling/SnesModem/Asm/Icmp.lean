import SnesModem.Asm.IcmpRequest
import SnesModem.Asm.Receive

/-!
# `ppp/ipv4.asm` and `ppp/icmp.asm`, for received packets

The parser of IPv4 packets, and the ICMP messages in them: an Echo-Request is answered from the frame buffer, at once or
when the encoder is idle.  What only the diagnostics read is left out.
-/

namespace SnesModem.Asm

open SnesModem.Lib.Cpu65816 SnesModem.Lib.Octets

/-! ### Packets -/

inductive Ipv4Error where
  | wrongProtocol | truncatedMinimumHeader | unsupportedVersion | invalidHeaderLength | truncatedHeader
  | invalidTotalLength | truncatedPacket | invalidHeaderChecksum
  deriving DecidableEq, Repr

abbrev ipv4MinimumFrameLength : UInt16 := frameOffset + ipv4MinimumHeaderLength

/-- The variables of `ipv4.asm` that a received packet leaves. -/
structure Ipv4 where
  headerLength : UInt8
  protocol : UInt8
  payloadLength : UInt16
  flagsFragmentOffset : UInt16
  source : Address
  destination : Address
  deriving DecidableEq, Repr, Inhabited

def pppIpv4Initialize : Ipv4 where
  headerLength := 0
  protocol := 0
  payloadLength := 0
  flagsFragmentOffset := 0
  source := .zero
  destination := .zero

/-- `pppIpv4ReceiveFrame`; the carry comes with the error. -/
def pppIpv4ReceiveFrame (d : Decoder) (v : Ipv4) : Ipv4 × Option Ipv4Error :=
  let v := { v with headerLength := 0, protocol := 0, payloadLength := 0, flagsFragmentOffset := 0 }
  if d.lastProtocol ≠ protocolIp then (v, some .wrongProtocol)
  else if d.lastFrameLength < ipv4MinimumFrameLength then (v, some .truncatedMinimumHeader)
  else
    let available := d.lastFrameLength - frameOffset
    let first := d.frameBuffer ipv4FrameOffset
    if first &&& 0xf0 ≠ 0x40 then (v, some .unsupportedVersion)
    else if first &&& 0x0f < 5 then (v, some .invalidHeaderLength)
    else
      let headerLength := (first &&& 0x0f) <<< 2
      let v := { v with headerLength := headerLength, payloadLength := headerLength.toUInt16 }
      let totalLength := wordAt d.frameBuffer (ipv4FrameOffset + 2)
      if available < headerLength.toUInt16 then (v, some .truncatedHeader)
      else if totalLength < headerLength.toUInt16 then (v, some .invalidTotalLength)
      else if available < totalLength then (v, some .truncatedPacket)
      else
        let v := { v with
          flagsFragmentOffset := wordAt d.frameBuffer (ipv4FrameOffset + 6)
          payloadLength := totalLength - headerLength.toUInt16
          protocol := d.frameBuffer (ipv4FrameOffset + 9)
          source := readAddress d.frameBuffer (ipv4FrameOffset + 12)
          destination := readAddress d.frameBuffer (ipv4FrameOffset + 16) }
        if checksumWords 0 (read d.frameBuffer ipv4FrameOffset headerLength.toNat) = 0xffff then (v, none)
        else (v, some .invalidHeaderChecksum)

/-- `PPP_IPV4_FLAG_MORE_FRAGMENTS` or a fragment offset. -/
def Ipv4.fragmented (v : Ipv4) : Bool := v.flagsFragmentOffset &&& 0x3fff ≠ 0

/-! ### ICMP messages -/

abbrev icmpTypeEchoReply : UInt8 := 0
abbrev icmpTypeEchoRequest : UInt8 := 8

/-- The variables of `icmp.asm`. -/
structure Icmp where
  replyPending : Bool
  identifier : UInt16
  sequence : UInt16
  payloadLength : UInt16
  packetOffset : UInt16
  deriving DecidableEq, Repr, Inhabited

def pppIcmpInitialize : Icmp where
  replyPending := false
  identifier := 0
  sequence := 0
  payloadLength := 0
  packetOffset := 0

/-- `buildEchoReply`; the caller has found the encoder idle, and the message is not empty. -/
def Icmp.buildEchoReply (p : Ipcp) (frameBuffer : Buffer) (v : Ipv4) (c : Icmp) (s : Ipv4Sender) :
    Icmp × Ipv4Sender × Bool :=
  let length := v.payloadLength.toNat
  let buffer := write s.transmit.buffer ipv4PayloadOffset (read frameBuffer c.packetOffset.toNat length)
  let buffer := write buffer ipv4PayloadOffset [icmpTypeEchoReply]
  let buffer := write buffer (ipv4PayloadOffset + 2) [0, 0]
  let checksum := checksumWords 0 (read buffer ipv4PayloadOffset length) ^^^ 0xffff
  let buffer := write buffer (ipv4PayloadOffset + 2) [high checksum, low checksum]
  match pppIpv4BeginTransmit p { s with transmit := { s.transmit with buffer := buffer } } protocolIcmp v.source
      v.payloadLength with
  | (s, true) => (c, s, true)
  | (s, false) => ({ c with replyPending := false }, s, false)

/-- `pppIcmpReceive`, with the request of the host that a reply may answer.  The carry is set if the frame stays owned,
for a reply that waits for the encoder. -/
def pppIcmpReceive (p : Ipcp) (now : UInt32) (frameBuffer : Buffer) (v : Ipv4) (c : Icmp) (r : IcmpRequest)
    (s : Ipv4Sender) : Icmp × IcmpRequest × Ipv4Sender × Bool :=
  let c := { c with replyPending := false, identifier := 0, sequence := 0, payloadLength := 0 }
  if v.payloadLength < icmpEchoHeaderLength then (c, r, s, false)
  else
    let c := { c with packetOffset := v.headerLength.toUInt16 + frameOffset }
    let x := c.packetOffset.toNat
    let type := frameBuffer x
    if type ≠ icmpTypeEchoRequest ∧ type ≠ icmpTypeEchoReply then (c, r, s, false)
    else if frameBuffer (x + 1) ≠ 0 then (c, r, s, false)
    else
      let c := { c with
        identifier := wordAt frameBuffer (x + 4)
        sequence := wordAt frameBuffer (x + 6)
        payloadLength := v.payloadLength - icmpEchoHeaderLength }
      if checksumWords 0 (read frameBuffer x v.payloadLength.toNat) ≠ 0xffff then (c, r, s, false)
      else if type = icmpTypeEchoReply then
        let message := ⟨v.source, c.identifier, c.sequence, c.payloadLength, c.packetOffset, frameBuffer⟩
        (c, pppIcmpRequestReceive now message r, s, false)
      else if s.transmit.active then ({ c with replyPending := true }, r, s, true)
      else
        let (c, s, _) := c.buildEchoReply p frameBuffer v s
        (c, r, s, false)

/-- `pppIcmpRetryPending`; the carry stays set while the encoder is busy. -/
def pppIcmpRetryPending (p : Ipcp) (frameBuffer : Buffer) (v : Ipv4) (c : Icmp) (s : Ipv4Sender) :
    Icmp × Ipv4Sender × Bool :=
  if !c.replyPending then (c, s, false)
  else if s.transmit.active then (c, s, true)
  else
    let (c, s, _) := c.buildEchoReply p frameBuffer v s
    ({ c with replyPending := false }, s, false)

/-- `pppIcmpCancelPending`. -/
def pppIcmpCancelPending (c : Icmp) : Icmp := { c with replyPending := false }

end SnesModem.Asm
