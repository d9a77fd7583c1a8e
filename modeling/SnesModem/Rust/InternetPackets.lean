import SnesModem.Rust.Icmp
import SnesModem.Rust.Udp

/-!
# Internet packets

* `CarriesDatagram`, `CarriesEcho`: what the parsers of both layers make of a packet;
* `packets_are_kept`: what is encoded is parsed back, the accumulators do not overflow, and a change of one word is
  seen.
-/

namespace SnesModem.Rust.InternetPackets

open SnesModem.Lib.InternetChecksum SnesModem.Rust.Ipv4 SnesModem.Rust.Udp SnesModem.Rust.Icmp

/-- Both layers of a packet with a datagram. -/
def CarriesDatagram (header : Header) (sourcePort destinationPort : UInt16) (payload packet : List UInt8) : Prop :=
  ∃ outer inner, Packet.parse packet = some (.ok outer) ∧ outer.header = header ∧ outer.headerLength = 20 ∧
    outer.bytes = packet ∧ Datagram.parse outer.source outer.destination outer.payload = some (.ok inner) ∧
    inner.sourcePort = sourcePort ∧ inner.destinationPort = destinationPort ∧ inner.payload = payload ∧
    inner.checksum ≠ 0 ∧ inner.checksumPresent = true

/-- Both layers of a packet with an Echo message. -/
def CarriesEcho (header : Header) (kind : EchoKind) (identifier sequence : UInt16) (payload packet : List UInt8) :
    Prop :=
  ∃ outer inner, Packet.parse packet = some (.ok outer) ∧ outer.header = header ∧ outer.headerLength = 20 ∧
    outer.bytes = packet ∧ EchoPacket.parse outer.payload = some (.ok inner) ∧ inner.kind = kind ∧
    inner.identifier = identifier ∧ inner.sequence = sequence ∧ inner.payload = payload

section Packets

variable {header : Header} {sourcePort destinationPort identifier sequence : UInt16} {kind : EchoKind}
  {payload inner packet : List UInt8} {available available' : ℕ}

lemma carriesDatagram
    (hinner : encodeDatagram header.source header.destination sourcePort destinationPort payload available =
      some (.ok inner))
    (houter : encodePacket header inner available' = some (.ok packet)) :
    CarriesDatagram header sourcePort destinationPort payload packet := by
  obtain ⟨outer, hparse, hheader, hlength, hbytes, hpayload⟩ := parse_encodePacket houter
  obtain ⟨datagram, hdatagram, -, hsource, hdestination, hdata, hchecksum, hpresent⟩ := parse_encodeDatagram hinner
  have haddresses : outer.source = header.source ∧ outer.destination = header.destination :=
    ⟨congrArg Header.source hheader, congrArg Header.destination hheader⟩
  refine ⟨outer, datagram, hparse, hheader, hlength, hbytes, ?_, hsource, hdestination, hdata, hchecksum, hpresent⟩
  rw [hpayload, haddresses.1, haddresses.2]
  exact hdatagram

lemma carriesEcho (hinner : encodeEcho kind identifier sequence payload available = some (.ok inner))
    (houter : encodePacket header inner available' = some (.ok packet)) :
    CarriesEcho header kind identifier sequence payload packet := by
  obtain ⟨outer, hparse, hheader, hlength, hbytes, hpayload⟩ := parse_encodePacket houter
  obtain ⟨echo, hecho, -, hfields⟩ := parse_encodeEcho hinner
  refine ⟨outer, echo, hparse, hheader, hlength, hbytes, ?_, hfields⟩
  rw [hpayload]
  exact hecho

/-- **Packets are kept**: a datagram or an Echo message in a packet is parsed back with the same fields and the same
payload, and the checksum of the datagram is not zero; no accumulator overflows for up to 65535 octets; and a change
of one word from one value to another, which are not the two zeros, is an error, except of the first word of a header,
of the length of a datagram, and of its checksum to none. -/
theorem packets_are_kept :
    (∀ header sourcePort destinationPort payload available available' inner packet,
      encodeDatagram header.source header.destination sourcePort destinationPort payload available =
        some (.ok inner) →
      encodePacket header inner available' = some (.ok packet) →
      CarriesDatagram header sourcePort destinationPort payload packet) ∧
    (∀ header kind identifier sequence payload available available' inner packet,
      encodeEcho kind identifier sequence payload available = some (.ok inner) →
      encodePacket header inner available' = some (.ok packet) →
      CarriesEcho header kind identifier sequence payload packet) ∧
    (∀ source destination, ∀ octets : List UInt8, octets.length ≤ 65535 →
      internetChecksum octets ≠ none ∧ udpChecksumSum source destination octets ≠ none) ∧
    (∀ header payload available packet, encodePacket header payload available = some (.ok packet) →
      ∀ k packet', 1 ≤ k → k < 10 → Alters k packet packet' →
        ∃ error, Packet.parse packet' = some (.error error)) ∧
    (∀ source destination sourcePort destinationPort payload available datagram,
      encodeDatagram source destination sourcePort destinationPort payload available = some (.ok datagram) →
      ∀ k datagram', k ≠ 2 → (k = 3 → readU16 datagram' 6 ≠ 0) → Alters k datagram datagram' →
        ∃ error, Datagram.parse source destination datagram' = some (.error error)) ∧
    ∀ kind identifier sequence payload available message,
      encodeEcho kind identifier sequence payload available = some (.ok message) →
      ∀ k message', Alters k message message' → ∃ error, EchoPacket.parse message' = some (.error error) := by
  refine ⟨?_, ?_, ?_, ?_, ?_, ?_⟩
  · intro header sourcePort destinationPort payload available available' inner packet hinner houter
    exact carriesDatagram hinner houter
  · intro header kind identifier sequence payload available available' inner packet hinner houter
    exact carriesEcho hinner houter
  · intro source destination octets hlength
    have hsum := wordSum_le octets
    obtain ⟨checksum, hchecksum, -⟩ := internetChecksum_eq octets (by omega)
    obtain ⟨sum, hudp, -⟩ := udpChecksumSum_eq source destination hlength
    rw [hchecksum, hudp]
    exact ⟨Option.some_ne_none _, Option.some_ne_none _⟩
  · intro header payload available packet h k packet' hpos hk halters
    exact Ipv4.parse_alters h hpos hk halters
  · intro source destination sourcePort destinationPort payload available datagram h k datagram' hk hcleared halters
    exact Udp.parse_alters h hk hcleared halters
  · intro kind identifier sequence payload available message h k message' halters
    exact Icmp.parse_alters h halters

/-- The packets of a datagram of three octets and of an Echo message of one, with changes of the time to live, of the
payload and of the sequence number. -/
def udpHeader : Header := Header.new 17 ⟨10, 0, 0, 1⟩ ⟨10, 0, 0, 2⟩

def icmpHeader : Header := Header.new 1 ⟨10, 0, 0, 1⟩ ⟨10, 0, 0, 2⟩

def datagramOfThree : List UInt8 := [0, 7, 0, 9, 0, 11, 231, 195, 1, 2, 3]

def echoOfOne : List UInt8 := [8, 0, 169, 252, 0, 1, 0, 2, 78]

def packetOfDatagram : List UInt8 :=
  [69, 0, 0, 31, 0, 0, 0, 0, 64, 17, 102, 204, 10, 0, 0, 1, 10, 0, 0, 2] ++ datagramOfThree

def packetOfEcho : List UInt8 := [69, 0, 0, 29, 0, 0, 0, 0, 64, 1, 102, 222, 10, 0, 0, 1, 10, 0, 0, 2] ++ echoOfOne

theorem packets_are_kept_small :
    CarriesDatagram udpHeader 7 9 [1, 2, 3] packetOfDatagram ∧
    CarriesEcho icmpHeader .request 1 2 [78] packetOfEcho ∧
    (internetChecksum echoOfOne ≠ none ∧ udpChecksumSum ⟨10, 0, 0, 1⟩ ⟨10, 0, 0, 2⟩ echoOfOne ≠ none) ∧
    (∃ error, Packet.parse (packetOfDatagram.set 8 63) = some (.error error)) ∧
    (∃ error, Datagram.parse ⟨10, 0, 0, 1⟩ ⟨10, 0, 0, 2⟩ (datagramOfThree.set 10 4) = some (.error error)) ∧
    ∃ error, EchoPacket.parse (echoOfOne.set 7 3) = some (.error error) :=
  ⟨packets_are_kept.1 udpHeader 7 9 [1, 2, 3] 11 31 datagramOfThree packetOfDatagram (by decide +kernel)
      (by decide +kernel),
    packets_are_kept.2.1 icmpHeader .request 1 2 [78] 9 29 echoOfOne packetOfEcho (by decide +kernel)
      (by decide +kernel),
    packets_are_kept.2.2.1 ⟨10, 0, 0, 1⟩ ⟨10, 0, 0, 2⟩ echoOfOne (by decide),
    packets_are_kept.2.2.2.1 udpHeader datagramOfThree 31 packetOfDatagram (by decide +kernel) 4 _ (by decide) (by decide)
      (alters_set (i := 8) (by decide) (by decide) (by decide) (by decide)),
    packets_are_kept.2.2.2.2.1 ⟨10, 0, 0, 1⟩ ⟨10, 0, 0, 2⟩ 7 9 [1, 2, 3] 11 datagramOfThree (by decide +kernel) 5 _
      (by decide) (by decide) (alters_set (i := 10) (by decide) (by decide) (by decide) (by decide)),
    packets_are_kept.2.2.2.2.2 .request 1 2 [78] 9 echoOfOne (by decide +kernel) 3 _
      (alters_set (i := 7) (by decide) (by decide) (by decide) (by decide))⟩

end Packets

end SnesModem.Rust.InternetPackets
