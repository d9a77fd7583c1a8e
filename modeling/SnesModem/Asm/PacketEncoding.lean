import SnesModem.Asm.DatagramRefinement
import SnesModem.Asm.EchoReply

/-!
# What is handed to the encoder against the reference encoders

* `Encodes`, `Sends`: an encoding of the reference, and a packet that the encoder is given around it;
* `udpBeginTransmit_sends`, `sendEchoRequest_sends`, `buildEchoReply_sends`: the three builders;
* `datagrams_agree`: UDP and ICMP, for received packets and for sent ones.
-/

namespace SnesModem.Asm.PacketEncoding

open SnesModem.Lib SnesModem.Lib.Cpu65816 SnesModem.Lib.Octets SnesModem.Lib.OnesComplement
open SnesModem.Lib.InternetChecksum
open SnesModem.Asm.DatagramRefinement
open SnesModem.Rust (Udp.Datagram Icmp.EchoPacket Icmp.EchoKind)

/-! ### The reference encoders -/

/-- An encoder writes the octets into every output that has room. -/
def Encodes {ε : Type} (encode : ℕ → Option (Except ε (List UInt8))) (octets : List UInt8) : Prop :=
  ∀ available, octets.length ≤ available → encode available = some (.ok octets)

/-- An address, as the reference has it. -/
def reference (address : Address) : Rust.Ipv4.Address := ⟨address.a, address.b, address.c, address.d⟩

lemma complement_eq (value : UInt16) : value ^^^ 0xffff = ~~~value := by
  rw [show (0xffff : UInt16) = -1 from rfl, UInt16.xor_neg_one]

section Encoders

variable {header : Rust.Ipv4.Header} {payload : List UInt8}

lemma encodes_packet (hlength : 20 + payload.length ≤ 65535)
    (hflags : header.flagsFragmentOffset &&& Rust.Ipv4.flagReserved = 0) :
    Encodes (Rust.Ipv4.encodePacket header payload) (Rust.Ipv4.headerOctets header (20 + payload.length)
      (checksumWords 0 (Rust.Ipv4.headerOctets header (20 + payload.length) 0) ^^^ 0xffff) ++ payload) := by
  intro available hroom
  rw [List.length_append, Rust.Ipv4.length_headerOctets] at hroom
  have hchecksum : Rust.Ipv4.internetChecksum (Rust.Ipv4.headerOctets header (20 + payload.length) 0) = _ :=
    Ipv4Refinement.internetChecksum_checksumWords (by rw [Rust.Ipv4.length_headerOctets]; decide)
  unfold Rust.Ipv4.encodePacket
  dsimp only
  rw [if_neg (show ¬ 65535 < 20 + payload.length by omega), if_neg (show ¬ available < 20 + payload.length by omega),
    if_neg (not_not_intro hflags), hchecksum]
  rfl

lemma encodes_echo {kind : Icmp.EchoKind} {identifier sequence : UInt16} (hlength : 8 + payload.length ≤ 65535) :
    Encodes (Rust.Icmp.encodeEcho kind identifier sequence payload) (Rust.Icmp.echoOctets kind identifier sequence
      (checksumWords 0 (Rust.Icmp.echoOctets kind identifier sequence 0 payload) ^^^ 0xffff) payload) := by
  intro available hroom
  rw [Rust.Icmp.length_echoOctets] at hroom
  have hchecksum : Rust.Ipv4.internetChecksum (Rust.Icmp.echoOctets kind identifier sequence 0 payload) = _ :=
    Ipv4Refinement.internetChecksum_checksumWords (by rw [Rust.Icmp.length_echoOctets]; exact hlength)
  unfold Rust.Icmp.encodeEcho
  dsimp only
  rw [if_neg (show ¬ 65535 < 8 + payload.length by omega), if_neg (show ¬ available < 8 + payload.length by omega),
    hchecksum]
  rfl

/-- The checksum that `pppUdpBeginTransmit` computes. -/
def udpTransmitChecksum (source destination : Address) (sourcePort destinationPort : UInt16) (payload : List UInt8) :
    UInt16 :=
  let length := UInt16.ofNat (8 + payload.length)
  let sum := checksumWords 0 (source.octets ++ destination.octets ++ [0, protocolUdp, high length, low length] ++
    Rust.Udp.datagramOctets sourcePort destinationPort 0 payload) ^^^ 0xffff
  if sum = 0 then 0xffff else sum

lemma encodes_datagram {source destination : Address} {sourcePort destinationPort : UInt16}
    (hlength : 8 + payload.length ≤ 65535) :
    Encodes (Rust.Udp.encodeDatagram (reference source) (reference destination) sourcePort destinationPort payload)
      (Rust.Udp.datagramOctets sourcePort destinationPort
        (udpTransmitChecksum source destination sourcePort destinationPort payload) payload) := by
  intro available hroom
  rw [Rust.Udp.length_datagramOctets] at hroom
  have hoctets := Rust.Udp.length_datagramOctets sourcePort destinationPort 0 payload
  obtain ⟨sum, hsum, hvalue⟩ := Rust.Udp.udpChecksumSum_eq (reference source) (reference destination)
    (show (Rust.Udp.datagramOctets sourcePort destinationPort 0 payload).length ≤ 65535 by omega)
  have hsame : sum = checksumWords 0 (source.octets ++ destination.octets ++
      [0, protocolUdp, high (UInt16.ofNat (8 + payload.length)), low (UInt16.ofNat (8 + payload.length))] ++
      Rust.Udp.datagramOctets sourcePort destinationPort 0 payload) := by
    have hsource : source.octets = (reference source).octets := rfl
    have hdestination : destination.octets = (reference destination).octets := rfl
    rw [← UInt16.toNat_inj, hvalue, hoctets, toNat_checksumWords_pseudo hsource hdestination,
      UInt16.toNat_ofNat_of_lt' (show 8 + payload.length < 65536 by omega)]
  unfold Rust.Udp.encodeDatagram
  dsimp only
  rw [if_neg (show ¬ 65535 < 8 + payload.length by omega), if_neg (show ¬ available < 8 + payload.length by omega), hsum]
  unfold udpTransmitChecksum
  dsimp only
  rw [← hsame, complement_eq]
  rfl

end Encoders

/-! ### The packet -/

/-- The header of the packets that are sent. -/
def sentHeader (p : Ipcp) (s : Ipv4Sender) (protocol : UInt8) (destination : Address) : Rust.Ipv4.Header :=
  { Rust.Ipv4.Header.new protocol (reference p.localAddress) (reference destination) with
    identification := s.nextIdentification
    flagsFragmentOffset := Rust.Ipv4.flagDontFragment }

/-- **The encoder is given the packet** with the payload, as the reference encodes it. -/
structure Sends (p : Ipcp) (s s' : Ipv4Sender) (protocol : UInt8) (destination : Address) (payload : List UInt8) :
    Prop where
  active : s'.transmit.active = true
  frame : ∃ packet, Encodes (Rust.Ipv4.encodePacket (sentHeader p s protocol destination) payload) packet ∧
    s'.transmit.frame = [0xff, 0x03, 0x00, 0x21] ++ packet

section Packet

variable {p : Ipcp} {s s' : Ipv4Sender} {protocol : UInt8} {destination : Address} {length : UInt16}

/-- The two headers are the same, octet by octet. -/
lemma headerOctets_sentHeader (p : Ipcp) (s : Ipv4Sender) (protocol : UInt8) (destination : Address)
    (totalLength checksum : UInt16) :
    Rust.Ipv4.headerOctets (sentHeader p s protocol destination) totalLength.toNat checksum =
      ipv4Header s.nextIdentification totalLength protocol p.localAddress destination checksum := by
  have hfirst : Rust.Ipv4.version <<< 4 ||| Rust.Ipv4.minimumIhlWords = 0x45 := by decide
  have hflags : high Rust.Ipv4.flagDontFragment = 0x40 ∧ low Rust.Ipv4.flagDontFragment = 0 := by decide
  unfold Rust.Ipv4.headerOctets sentHeader Rust.Ipv4.Header.new
  dsimp only
  rw [UInt16.ofNat_toNat, hfirst, hflags.1, hflags.2]
  rfl

/-- **`pppIpv4BeginTransmit`** hands over the packet with the staged payload. -/
lemma beginTransmit_sends (hsent : pppIpv4BeginTransmit p s protocol destination length = (s', false)) :
    Sends p s s' protocol destination (read s.transmit.buffer ipv4PayloadOffset length.toNat) := by
  obtain ⟨hopened, hlocal, hidle, hfits⟩ := of_beginTransmit protocol destination hsent
  obtain ⟨t, hgiven, hactive, hframe⟩ := beginTransmit_sent protocol destination hopened hlocal hidle hfits
  rw [hsent] at hgiven
  cases hgiven
  have hlength : length.toNat ≤ 1480 := UInt16.le_iff_toNat_le.mp hfits
  have htotal : (length + ipv4MinimumHeaderLength).toNat =
      20 + (read s.transmit.buffer ipv4PayloadOffset length.toNat).length := by
    have hminimum : ipv4MinimumHeaderLength.toNat = 20 := rfl
    rw [toNat_add_of_lt (by omega), length_read]
    omega
  have hencodes : Encodes (Rust.Ipv4.encodePacket (sentHeader p s protocol destination)
      (read s.transmit.buffer ipv4PayloadOffset length.toNat)) _ := encodes_packet (by rw [length_read]; omega)
    (show Rust.Ipv4.flagDontFragment &&& Rust.Ipv4.flagReserved = 0 by decide)
  rw [← htotal, headerOctets_sentHeader, headerOctets_sentHeader] at hencodes
  exact ⟨hactive, _, hencodes, by rw [hframe]; rfl⟩

/-- What is staged does not change the header. -/
lemma Sends.of_staged {buffer : Buffer} {payload : List UInt8}
    (h : Sends p { s with transmit := { s.transmit with buffer := buffer } } s' protocol destination payload) :
    Sends p s s' protocol destination payload := ⟨h.active, h.frame⟩

end Packet

/-! ### The builders -/

section Builders

variable {p : Ipcp} {s s' : Ipv4Sender}

/-- A datagram in the transmit buffer. -/
lemma read_datagram (buffer : Buffer) (sourcePort destinationPort checksum length : UInt16)
    (hlength : (length + udpHeaderLength).toNat = 8 + length.toNat) :
    read (write buffer ipv4PayloadOffset ([high sourcePort, low sourcePort, high destinationPort, low destinationPort,
      high (length + udpHeaderLength), low (length + udpHeaderLength)] ++ [high checksum, low checksum]))
      ipv4PayloadOffset (length + udpHeaderLength).toNat =
    Rust.Udp.datagramOctets sourcePort destinationPort checksum (read buffer udpTransmitPayloadOffset length.toNat) := by
  have hword : UInt16.ofNat (Rust.Udp.headerLength + (read buffer udpTransmitPayloadOffset length.toNat).length) =
      length + udpHeaderLength := by
    rw [length_read, show Rust.Udp.headerLength = 8 from rfl, ← hlength, UInt16.ofNat_toNat]
  unfold Rust.Udp.datagramOctets
  dsimp only
  rw [hword]
  generalize hheader : [high sourcePort, low sourcePort, high destinationPort, low destinationPort,
    high (length + udpHeaderLength), low (length + udpHeaderLength)] ++ [high checksum, low checksum] = header
  have height : header.length = 8 := by
    rw [← hheader]
    rfl
  have hfirst : read (write buffer ipv4PayloadOffset header) ipv4PayloadOffset 8 = header := by
    rw [← height, read_write]
  have hrest : read (write buffer ipv4PayloadOffset header) (ipv4PayloadOffset + 8) length.toNat =
      read buffer udpTransmitPayloadOffset length.toNat :=
    read_write_of_disjoint _ _ _ (Or.inr (by rw [height]))
  rw [hlength, read_append, hfirst, hrest]

/-- **`pppUdpBeginTransmit`** hands over the datagram with the staged payload. -/
theorem udpBeginTransmit_sends {sourcePort destinationPort : UInt16} {destination : Address} {length : UInt16}
    (hsent : pppUdpBeginTransmit p s sourcePort destinationPort destination length = (s', false)) :
    ∃ datagram, Encodes (Rust.Udp.encodeDatagram (reference p.localAddress) (reference destination) sourcePort
        destinationPort (read s.transmit.buffer udpTransmitPayloadOffset length.toNat)) datagram ∧
      Sends p s s' protocolUdp destination datagram := by
  unfold pppUdpBeginTransmit at hsent
  by_cases hlong : udpMaximumPayloadLength < length
  · rw [if_pos hlong] at hsent
    cases hsent
  have hshort : length.toNat ≤ 1472 := UInt16.le_iff_toNat_le.mp (UInt16.not_lt.mp hlong)
  have hlength : (length + udpHeaderLength).toNat = 8 + length.toNat := by
    have hheader : udpHeaderLength.toNat = 8 := rfl
    rw [toNat_add_of_lt (by omega), hheader]
    exact Nat.add_comm _ _
  rw [if_neg hlong] at hsent
  extract_lets udpLength ports cleared sum checksum buffer at hsent
  have hchecksum : checksum = udpTransmitChecksum p.localAddress destination sourcePort destinationPort
      (read s.transmit.buffer udpTransmitPayloadOffset length.toNat) := by
    have hcleared : read cleared ipv4PayloadOffset udpLength.toNat = _ :=
      read_datagram s.transmit.buffer sourcePort destinationPort 0 length hlength
    have hword : UInt16.ofNat (8 + (read s.transmit.buffer udpTransmitPayloadOffset length.toNat).length) =
        udpLength := by
      rw [length_read, ← hlength, UInt16.ofNat_toNat]
    unfold udpTransmitChecksum
    dsimp only
    rw [hword, ← hcleared]
  have hbuffer : buffer = write s.transmit.buffer ipv4PayloadOffset (ports ++ [high checksum, low checksum]) := by
    have hwithin := write_within s.transmit.buffer ipv4PayloadOffset ports [0, 0] [] [high checksum, low checksum] rfl
    rw [List.append_nil, List.append_nil] at hwithin
    exact hwithin
  have hread := read_datagram s.transmit.buffer sourcePort destinationPort checksum length hlength
  have hsends := beginTransmit_sends hsent
  dsimp only at hsends
  rw [hbuffer, hread] at hsends
  refine ⟨_, ?_, hsends.of_staged⟩
  rw [hchecksum]
  exact encodes_datagram (by rw [length_read]; omega)

/-- **The request of the host.** -/
theorem sendEchoRequest_sends {destination : Address} {identifier sequence : UInt16}
    (hsent : sendEchoRequest p s destination identifier sequence = (s', false)) :
    ∃ message, Encodes (Rust.Icmp.encodeEcho .request identifier sequence icmpRequestPayload) message ∧
      Sends p s s' protocolIcmp destination message := by
  unfold sendEchoRequest at hsent
  extract_lets checksum buffer at hsent
  have hsends := beginTransmit_sends hsent
  have hread : read buffer ipv4PayloadOffset icmpRequestMessageLength.toNat = icmpEchoMessage identifier sequence checksum :=
    read_write s.transmit.buffer ipv4PayloadOffset (icmpEchoMessage identifier sequence checksum)
  dsimp only at hsends
  rw [hread] at hsends
  exact ⟨_, encodes_echo (by decide), hsends.of_staged⟩

/-- **The reply to a message that the reference parses.** -/
theorem buildEchoReply_sends {frameBuffer : Buffer} {v : Ipv4} {c c' : Icmp} {request : Icmp.EchoPacket}
    (hrequest : Icmp.EchoPacket.parse (read frameBuffer c.packetOffset.toNat v.payloadLength.toNat) = some (.ok request))
    (hsent : c.buildEchoReply p frameBuffer v s = (c', s', false)) :
    ∃ message, Encodes (Rust.Icmp.encodeEchoReply request) message ∧ Sends p s s' protocolIcmp v.source message := by
  have hshort : (read frameBuffer c.packetOffset.toNat v.payloadLength.toNat).length ≤ 65535 := by
    have hlt := v.payloadLength.toNat_lt
    rw [length_read]
    exact Nat.le_of_lt_succ hlt
  obtain ⟨hvalid, hbytes⟩ := Rust.Icmp.valid_of_parse hshort hrequest
  have hheader : 8 ≤ v.payloadLength.toNat := by
    rw [← length_read frameBuffer c.packetOffset.toNat v.payloadLength.toNat]
    exact hvalid.header
  have hoctets := hvalid.octets
  rw [← hbytes] at hoctets
  let e : EchoRequest := ⟨v.source, request.identifier, request.sequence, request.payload⟩
  have hlength : v.payloadLength.toNat = 8 + e.payload.length := by
    show _ = 8 + (request.bytes.drop 8).length
    rw [List.length_drop, hbytes, length_read]
    omega
  have hmessage : read frameBuffer c.packetOffset.toNat v.payloadLength.toNat =
      echoMessage request.kind.icmpType request.checksum e := by
    rw [← hbytes]
    exact hoctets
  rw [buildEchoReply_eq hlength hmessage] at hsent
  generalize hbegun : pppIpv4BeginTransmit p { s with transmit := { s.transmit with
    buffer := write s.transmit.buffer ipv4PayloadOffset (replyMessage e) } } protocolIcmp v.source v.payloadLength = begun
    at hsent
  obtain ⟨s'', carry⟩ := begun
  cases carry with
  | true => cases hsent
  | false =>
    cases hsent
    have hsends := beginTransmit_sends hbegun
    dsimp only at hsends
    rw [read_replyMessage hlength] at hsends
    refine ⟨replyMessage e, encodes_echo ?_, hsends.of_staged⟩
    show 8 + e.payload.length ≤ 65535
    rw [← hlength]
    exact Nat.le_of_lt_succ v.payloadLength.toNat_lt

/-- A packet that is refused leaves the encoder as it is. -/
lemma beginTransmit_refused {protocol : UInt8} {destination : Address} {length : UInt16}
    (hrefused : pppIpv4BeginTransmit p s protocol destination length = (s', true)) :
    s'.transmit.active = s.transmit.active := by
  unfold pppIpv4BeginTransmit at hrefused
  split at hrefused
  · cases hrefused
    rfl
  split at hrefused
  · cases hrefused
    rfl
  split at hrefused
  · cases hrefused
    rfl
  extract_lets totalLength header checksum buffer at hrefused
  split at hrefused
  · rename_i t hbegun
    cases hrefused
    unfold pppTransmitBegin at hbegun
    split_ifs at hbegun
    · cases hbegun
      rfl
    · cases hbegun
  · cases hrefused

lemma buildEchoReply_pending (frameBuffer : Buffer) (v : Ipv4) {c : Icmp} (h : c.replyPending = false) :
    (c.buildEchoReply p frameBuffer v s).1.replyPending = false := by
  unfold Icmp.buildEchoReply
  extract_lets length copied typed cleared checksum buffer
  split
  · exact h
  · rfl

/-- A reply that is handed over to an idle encoder. -/
lemma buildEchoReply_hands {frameBuffer : Buffer} {v : Ipv4} {c : Icmp} {request : Icmp.EchoPacket}
    (hrequest : Icmp.EchoPacket.parse (read frameBuffer c.packetOffset.toNat v.payloadLength.toNat) = some (.ok request))
    (hidle : s.transmit.active = false) (hactive : (c.buildEchoReply p frameBuffer v s).2.1.transmit.active = true) :
    ∃ message, Encodes (Rust.Icmp.encodeEchoReply request) message ∧
      Sends p s (c.buildEchoReply p frameBuffer v s).2.1 protocolIcmp v.source message := by
  generalize hbuilt : c.buildEchoReply p frameBuffer v s = built at hactive ⊢
  obtain ⟨c', s', carry⟩ := built
  cases carry with
  | false => exact buildEchoReply_sends hrequest hbuilt
  | true =>
    unfold Icmp.buildEchoReply at hbuilt
    extract_lets length copied typed cleared checksum buffer at hbuilt
    split at hbuilt
    · rename_i hrefused
      cases hbuilt
      have hsame := beginTransmit_refused hrefused
      dsimp only at hsame hactive
      rw [hsame, hidle] at hactive
      cases hactive
    · cases hbuilt

end Builders

/-! ### Agreement -/

/-- What an idle encoder is given for a packet is the reply to its request. -/
def Answers (p : Ipcp) (v : Ipv4) (packet : Rust.Ipv4.Packet) (s s' : Ipv4Sender) : Prop :=
  s.transmit.active = false → s'.transmit.active = true →
    ∃ request message, Icmp.EchoPacket.parse packet.payload = some (.ok request) ∧ request.kind = .request ∧
      Encodes (Rust.Icmp.encodeEchoReply request) message ∧ Sends p s s' protocolIcmp v.source message

/-- **The receivers do with a packet** what the references do. -/
structure ReceivesAgree (frameBuffer : Buffer) (v : Ipv4) (packet : Rust.Ipv4.Packet) : Prop where
  udp : (∃ u, parseUdp frameBuffer v = .ok u) ↔
    ∃ datagram, Udp.Datagram.parse packet.source packet.destination packet.payload = some (.ok datagram)
  udpFields : ∀ u datagram, parseUdp frameBuffer v = .ok u →
    Udp.Datagram.parse packet.source packet.destination packet.payload = some (.ok datagram) →
    SameDatagram frameBuffer v u datagram
  icmp : (∃ echo, parseIcmp frameBuffer v = .ok echo) ↔
    ∃ message, Icmp.EchoPacket.parse packet.payload = some (.ok message)
  icmpFields : ∀ echo message, parseIcmp frameBuffer v = .ok echo →
    Icmp.EchoPacket.parse packet.payload = some (.ok message) → SameEcho frameBuffer v echo message
  handled : ∀ p now c r s,
    Handles p now frameBuffer v r s (pppIcmpReceive p now frameBuffer v c r s) (parseIcmp frameBuffer v)
  /-- At once, or as soon as the encoder is idle. -/
  replies : ∀ p now c r s, Answers p v packet s (pppIcmpReceive p now frameBuffer v c r s).2.2.1
  retries : ∀ p now c r s p' s', Answers p' v packet s'
    (pppIcmpRetryPending p' frameBuffer v (pppIcmpReceive p now frameBuffer v c r s).1 s').2.1

section Agreement

variable {d : Decoder} {v : Ipv4} {packet : Rust.Ipv4.Packet}

/-- The message that `buildEchoReply` finds is the payload of the packet. -/
lemma parse_at_packetOffset (h : Ipv4Refinement.SamePacket d v packet) {echo : IcmpEcho} {message : Icmp.EchoPacket}
    (hsame : SameEcho d.frameBuffer v echo message)
    (hmessage : Icmp.EchoPacket.parse packet.payload = some (.ok message)) :
    Icmp.EchoPacket.parse (read d.frameBuffer echo.packetOffset.toNat v.payloadLength.toNat) = some (.ok message) := by
  rw [hsame.packetOffset, ← h.payload]
  exact hmessage

lemma receivesAgree (h : Ipv4Refinement.SamePacket d v packet) : ReceivesAgree d.frameBuffer v packet := by
  have hcarries := Carries.of_same h
  obtain ⟨hudp, hudpFields⟩ := parseUdp_agrees hcarries
  obtain ⟨hicmp, hicmpFields⟩ := parseIcmp_agrees hcarries
  -- A request is the only message that is answered.
  have hrequest {echo : IcmpEcho} {message : Icmp.EchoPacket} (hsame : SameEcho d.frameBuffer v echo message)
      (hreply : echo.type ≠ icmpTypeEchoReply) : message.kind = .request := by
    rw [hsame.type] at hreply
    cases hkind : message.kind with
    | reply => exact absurd (by rw [hkind]; rfl) hreply
    | request => rfl
  refine ⟨hudp, hudpFields, hicmp, hicmpFields, fun p now c r s => icmpReceive_handles p now _ v c r s, ?_, ?_⟩
  · intro p now c r s hidle hactive
    have hhandles := icmpReceive_handles p now d.frameBuffer v c r s
    cases hparse : parseIcmp d.frameBuffer v with
    | error error =>
      rw [hparse] at hhandles
      rw [hhandles.2] at hactive
      exact absurd hactive (by rw [hidle]; decide)
    | ok echo =>
      obtain ⟨message, hmessage⟩ := hicmp.mp ⟨echo, hparse⟩
      have hsame := hicmpFields echo message hparse hmessage
      rw [hparse] at hhandles
      unfold Handles at hhandles
      dsimp only at hhandles
      split_ifs at hhandles with hreply hbusy
      · rw [hhandles] at hactive
        exact absurd hactive (by rw [hidle]; decide)
      · rw [hidle] at hbusy
        cases hbusy
      · rw [hhandles] at hactive ⊢
        obtain ⟨octets, hencodes, hsends⟩ :=
          buildEchoReply_hands (parse_at_packetOffset h hsame hmessage) hidle hactive
        exact ⟨message, octets, hmessage, hrequest hsame hreply, hencodes, hsends⟩
  · intro p now c r s p' s' hidle hactive
    have hhandles := icmpReceive_handles p now d.frameBuffer v c r s
    generalize hreceived : pppIcmpReceive p now d.frameBuffer v c r s = received at hhandles hactive ⊢
    obtain ⟨c', rest⟩ := received
    unfold pppIcmpRetryPending at hactive ⊢
    dsimp only at hhandles hactive ⊢
    cases hpending : c'.replyPending with
    | false =>
      rw [hpending] at hactive
      exact absurd (show s'.transmit.active = true from hactive) (by rw [hidle]; decide)
    | true =>
      rw [hpending] at hactive
      simp only [Bool.not_true, Bool.false_eq_true, if_false, hidle] at hactive ⊢
      -- Only a request that found the encoder busy is pending.
      cases hparse : parseIcmp d.frameBuffer v with
      | error error =>
        rw [hparse] at hhandles
        exact absurd hhandles.1 (by rw [hpending]; decide)
      | ok echo =>
        obtain ⟨message, hmessage⟩ := hicmp.mp ⟨echo, hparse⟩
        have hsame := hicmpFields echo message hparse hmessage
        rw [hparse] at hhandles
        unfold Handles at hhandles
        dsimp only at hhandles
        split_ifs at hhandles with hreply hbusy
        · cases hhandles
          cases hpending
        · cases hhandles
          obtain ⟨octets, hencodes, hsends⟩ :=
            buildEchoReply_hands (parse_at_packetOffset h hsame hmessage) hidle hactive
          exact ⟨message, octets, hmessage, hrequest hsame hreply, hencodes, hsends⟩
        · cases hhandles
          rw [buildEchoReply_pending d.frameBuffer v rfl] at hpending
          cases hpending

/-- **UDP and ICMP**: what is received is taken as the references take it, and what is handed to the encoder is what
they encode. -/
theorem datagrams_agree :
    (∀ (d : Decoder) (v : Ipv4), d.lastProtocol = protocolIp → (pppIpv4ReceiveFrame d v).2 = none →
      ∃ packet, Rust.Ipv4.Packet.parse (information d) = some (.ok packet) ∧
        ReceivesAgree d.frameBuffer (pppIpv4ReceiveFrame d v).1 packet) ∧
    (∀ (p : Ipcp) (s s' : Ipv4Sender) (sourcePort destinationPort : UInt16) (destination : Address) (length : UInt16),
      pppUdpBeginTransmit p s sourcePort destinationPort destination length = (s', false) →
      ∃ datagram, Encodes (Rust.Udp.encodeDatagram (reference p.localAddress) (reference destination) sourcePort
          destinationPort (read s.transmit.buffer udpTransmitPayloadOffset length.toNat)) datagram ∧
        Sends p s s' protocolUdp destination datagram) ∧
    (∀ (p : Ipcp) (s s' : Ipv4Sender) (destination : Address) (identifier sequence : UInt16),
      sendEchoRequest p s destination identifier sequence = (s', false) →
      ∃ message, Encodes (Rust.Icmp.encodeEcho .request identifier sequence icmpRequestPayload) message ∧
        Sends p s s' protocolIcmp destination message) ∧
    ∀ (p : Ipcp) (s s' : Ipv4Sender) (frameBuffer : Buffer) (v : Ipv4) (c c' : Icmp) (request : Icmp.EchoPacket),
      Icmp.EchoPacket.parse (read frameBuffer c.packetOffset.toNat v.payloadLength.toNat) = some (.ok request) →
      c.buildEchoReply p frameBuffer v s = (c', s', false) →
      ∃ message, Encodes (Rust.Icmp.encodeEchoReply request) message ∧ Sends p s s' protocolIcmp v.source message := by
  refine ⟨fun d v hprotocol haccepted => ?_, fun p s s' _ _ _ _ => udpBeginTransmit_sends,
    fun p s s' _ _ _ => sendEchoRequest_sends, fun p s s' _ _ _ _ _ => buildEchoReply_sends⟩
  obtain ⟨haccepts, hfields⟩ := Ipv4Refinement.receiveFrame_agrees v hprotocol
  obtain ⟨packet, hparse⟩ := haccepts.mp haccepted
  exact ⟨packet, hparse, receivesAgree (hfields packet hparse)⟩

def openLink : Ipcp := { (default : Ipcp) with
  state := .opened
  localAddress := ⟨10, 0, 0, 2⟩
  flags := { (default : Ipcp).flags with localValid := true } }

def idleSender : Ipv4Sender := ⟨pppTransmitInitialize default, 1⟩

/-- An Echo-Request with a payload of one octet. -/
def pingOctets : List UInt8 :=
  Rust.Icmp.echoOctets .request 1 2 (checksumWords 0 (Rust.Icmp.echoOctets .request 1 2 0 [65]) ^^^ 0xffff) [65]

def pingBuffer : Buffer := write default 24 pingOctets
def pingVariables : Ipv4 := { pppIpv4Initialize with headerLength := 20, payloadLength := 9, source := ⟨10, 0, 0, 1⟩ }
def pingMessage : Icmp := { pppIcmpInitialize with packetOffset := 24 }

theorem datagrams_agree_short :
    (∃ packet, Rust.Ipv4.Packet.parse (information Ipv4Refinement.shortFrame) = some (.ok packet) ∧
      ReceivesAgree Ipv4Refinement.shortFrame.frameBuffer
        (pppIpv4ReceiveFrame Ipv4Refinement.shortFrame pppIpv4Initialize).1 packet) ∧
    (∃ datagram, Sends openLink idleSender (pppUdpBeginTransmit openLink idleSender 1 2 ⟨10, 0, 0, 1⟩ 3).1 protocolUdp
      ⟨10, 0, 0, 1⟩ datagram) ∧
    (∃ message, Sends openLink idleSender (sendEchoRequest openLink idleSender ⟨10, 0, 0, 1⟩ 1 2).1 protocolIcmp
      ⟨10, 0, 0, 1⟩ message) ∧
    ∃ message, Sends openLink idleSender
      (pingMessage.buildEchoReply openLink pingBuffer pingVariables idleSender).2.1 protocolIcmp ⟨10, 0, 0, 1⟩ message := by
  obtain ⟨hreceives, hudp, hrequest, hreply⟩ := datagrams_agree
  have hping : Rust.Icmp.encodeEcho .request 1 2 [65] 9 = some (.ok pingOctets) := encodes_echo (by decide) 9 (by decide)
  obtain ⟨parsed, hparse, -⟩ := Rust.Icmp.parse_encodeEcho hping
  obtain ⟨datagram, -, hdatagram⟩ := hudp openLink idleSender _ 1 2 ⟨10, 0, 0, 1⟩ 3 (Prod.ext rfl (by decide +kernel))
  obtain ⟨message, -, hmessage⟩ := hrequest openLink idleSender _ ⟨10, 0, 0, 1⟩ 1 2 (Prod.ext rfl (by decide +kernel))
  obtain ⟨answer, -, hanswer⟩ := hreply openLink idleSender _ pingBuffer pingVariables pingMessage _ parsed hparse
    (Prod.ext rfl (Prod.ext rfl (by decide +kernel)))
  exact ⟨hreceives _ _ rfl (by decide +kernel), ⟨datagram, hdatagram⟩, ⟨message, hmessage⟩, answer, hanswer⟩

end Agreement

end SnesModem.Asm.PacketEncoding
