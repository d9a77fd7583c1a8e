import SnesModem.Asm.Dns
import SnesModem.Asm.Icmp
import SnesModem.Asm.Ntp

/-!
# `ppp/udp.asm`, for received packets

The parser of datagrams, which hands them to the NTP and the DNS client by their destination port.
-/

namespace SnesModem.Asm

open SnesModem.Lib.Octets

inductive UdpError where
  | truncatedHeader | invalidLength | truncatedDatagram | invalidChecksum
  deriving DecidableEq, Repr

/-- The words of `checksumReceiveDatagram`: the pseudo header, and the datagram. -/
def udpChecksum (frameBuffer : Buffer) (v : Ipv4) (x : ℕ) (length : UInt16) : UInt16 :=
  checksumWords 0 (v.source.octets ++ v.destination.octets ++ [0, protocolUdp, high length, low length] ++
    read frameBuffer x length.toNat)

/-- `pppUdpReceive`, up to `valid`. -/
def parseUdp (frameBuffer : Buffer) (v : Ipv4) : Except UdpError UdpDatagram :=
  if v.payloadLength < udpHeaderLength then .error .truncatedHeader
  else
    let offset := v.headerLength.toUInt16 + frameOffset
    let x := offset.toNat
    let length := wordAt frameBuffer (x + 4)
    if length < udpHeaderLength then .error .invalidLength
    else if v.payloadLength < length then .error .truncatedDatagram
    else if wordAt frameBuffer (x + 6) ≠ 0 ∧ udpChecksum frameBuffer v x length ≠ 0xffff then .error .invalidChecksum
    else .ok {
      source := v.source
      sourcePort := wordAt frameBuffer x
      destinationPort := wordAt frameBuffer (x + 2)
      payloadLength := length - udpHeaderLength
      packetOffset := offset
      frameBuffer := frameBuffer }

/-- `pppUdpReceive`. -/
def pppUdpReceive (p : Ipcp) (now : UInt32) (frameBuffer : Buffer) (v : Ipv4) (n : Ntp) (d : Dns) : Ntp × Dns :=
  match parseUdp frameBuffer v with
  | .error _ => (n, d)
  | .ok datagram =>
    if datagram.destinationPort = ntpClientPort then (pppNtpReceive p datagram n, d)
    else if datagram.destinationPort = dnsClientPort then (n, pppDnsReceive now datagram d)
    else (n, d)

end SnesModem.Asm
