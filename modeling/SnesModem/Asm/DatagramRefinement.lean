import SnesModem.Asm.Ipv4Refinement
import SnesModem.Asm.Udp
import SnesModem.Rust.Icmp
import SnesModem.Rust.Udp

/-!
# The parsers of UDP and ICMP against the references

* `Carries`: the payload of an accepted packet, and its addresses;
* `parseUdp_agrees`: the datagrams that are accepted, and their fields;
* `icmpReceive_handles`, `parseIcmp_agrees`: the messages that are accepted, what becomes of them, and their fields.
-/

namespace SnesModem.Asm.DatagramRefinement

open SnesModem.Lib SnesModem.Lib.Cpu65816 SnesModem.Lib.Octets SnesModem.Lib.OnesComplement
open SnesModem.Lib.InternetChecksum
open SnesModem.Rust (Udp.Datagram Icmp.EchoPacket Icmp.EchoKind)
open SnesModem.Rust.Ipv4 (readU16)

/-- The payload of a packet lies behind the header in the frame buffer. -/
structure Carries (frameBuffer : Buffer) (v : Ipv4) (source destination : Rust.Ipv4.Address) (payload : List UInt8) :
    Prop where
  source : v.source.octets = source.octets
  destination : v.destination.octets = destination.octets
  payload : payload = read frameBuffer (ipv4FrameOffset + v.headerLength.toNat) v.payloadLength.toNat

lemma Carries.of_same {d : Decoder} {v : Ipv4} {packet : Rust.Ipv4.Packet} (h : Ipv4Refinement.SamePacket d v packet) :
    Carries d.frameBuffer v packet.source packet.destination packet.payload :=
  ⟨h.source, h.destination, h.payload⟩

section Payload

variable {frameBuffer : Buffer} {v : Ipv4} {source destination : Rust.Ipv4.Address} {payload : List UInt8}

/-- `pppUdpPacketOffset` and `pppIcmpPacketOffset`. -/
lemma toNat_packetOffset (v : Ipv4) :
    (v.headerLength.toUInt16 + frameOffset).toNat = ipv4FrameOffset + v.headerLength.toNat := by
  have hheader := v.headerLength.toNat_lt
  have hlong : v.headerLength.toUInt16.toNat = v.headerLength.toNat := UInt8.toNat_toUInt16 _
  have hfour : frameOffset.toNat = 4 := rfl
  rw [toNat_add_of_lt (by omega), hlong, hfour]
  exact Nat.add_comm _ _

lemma Carries.length (h : Carries frameBuffer v source destination payload) :
    payload.length = v.payloadLength.toNat := by
  rw [h.payload, length_read]

lemma Carries.getD (h : Carries frameBuffer v source destination payload) {i : ℕ} (hi : i < v.payloadLength.toNat) :
    payload.getD i 0 = frameBuffer (ipv4FrameOffset + v.headerLength.toNat + i) := by
  rw [h.payload, getD_read _ _ hi]

lemma Carries.readU16 (h : Carries frameBuffer v source destination payload) {i : ℕ}
    (hi : i + 1 < v.payloadLength.toNat) :
    readU16 payload i = wordAt frameBuffer (ipv4FrameOffset + v.headerLength.toNat + i) := by
  unfold Rust.Ipv4.readU16 wordAt
  rw [h.getD (by omega), h.getD hi]
  rfl

lemma Carries.take (h : Carries frameBuffer v source destination payload) {n : ℕ} (hn : n ≤ v.payloadLength.toNat) :
    payload.take n = read frameBuffer (ipv4FrameOffset + v.headerLength.toNat) n := by
  rw [h.payload, take_read _ _ hn]

end Payload

/-! ### Datagrams -/

/-- The sum with the pseudo header. -/
lemma toNat_checksumWords_pseudo {source destination : Address} {source' destination' : Rust.Ipv4.Address}
    (hsource : source.octets = source'.octets) (hdestination : destination.octets = destination'.octets)
    (length : UInt16) (octets : List UInt8) :
    (checksumWords 0 (source.octets ++ destination.octets ++ [0, protocolUdp, high length, low length] ++ octets)).toNat =
      fold 65535 (Rust.Udp.pseudoSum source' destination' length.toNat + wordSum octets) := by
  have htail : wordSum [0, protocolUdp, high length, low length] = 17 + length.toNat := by
    simp only [wordSum, high_low_value, Nat.add_zero]
    rfl
  have hzero : (0 : UInt16).toNat = 0 := rfl
  have hprotocol : Rust.Ipv4.protocolUdp.toNat = 17 := rfl
  rw [hsource, hdestination, toNat_checksumWords, wordSum_append _ _ ⟨6, rfl⟩, wordSum_append _ _ ⟨4, rfl⟩,
    wordSum_append _ _ ⟨2, rfl⟩, htail, hzero]
  unfold Rust.Udp.pseudoSum
  congr 1
  omega

/-- What `pppUdpReceive` stores beside the variables that other code reads. -/
structure UdpDiagnostics where
  length : UInt16
  checksum : UInt16
  checksumPresent : Bool

def udpDiagnostics (frameBuffer : Buffer) (v : Ipv4) : UdpDiagnostics where
  length := wordAt frameBuffer ((v.headerLength.toUInt16 + frameOffset).toNat + 4)
  checksum := wordAt frameBuffer ((v.headerLength.toUInt16 + frameOffset).toNat + 6)
  checksumPresent := wordAt frameBuffer ((v.headerLength.toUInt16 + frameOffset).toNat + 6) ≠ 0

/-- The variables of an accepted datagram are the fields of the reference. -/
structure SameDatagram (frameBuffer : Buffer) (v : Ipv4) (u : UdpDatagram) (datagram : Udp.Datagram) : Prop where
  source : u.source = v.source
  sourcePort : u.sourcePort = datagram.sourcePort
  destinationPort : u.destinationPort = datagram.destinationPort
  length : (udpDiagnostics frameBuffer v).length.toNat = datagram.length
  checksum : (udpDiagnostics frameBuffer v).checksum = datagram.checksum
  checksumPresent : (udpDiagnostics frameBuffer v).checksumPresent = datagram.checksumPresent
  payloadLength : u.payloadLength.toNat = datagram.payload.length
  /-- The payload lies behind the header in the frame buffer. -/
  payload : datagram.payload = read u.frameBuffer (u.packetOffset.toNat + 8) u.payloadLength.toNat
  frameBuffer : u.frameBuffer = frameBuffer
  packetOffset : u.packetOffset.toNat = ipv4FrameOffset + v.headerLength.toNat
  /-- It ends within the packet. -/
  within : 8 + u.payloadLength.toNat ≤ v.payloadLength.toNat

section Datagram

variable {frameBuffer : Buffer} {v : Ipv4} {source destination : Rust.Ipv4.Address} {payload : List UInt8}

/-- What `pppUdpReceive` checks. -/
structure UdpAccepted (frameBuffer : Buffer) (v : Ipv4) (x : ℕ) : Prop where
  header : udpHeaderLength ≤ v.payloadLength
  length : udpHeaderLength ≤ wordAt frameBuffer (x + 4)
  within : wordAt frameBuffer (x + 4) ≤ v.payloadLength
  checksum : wordAt frameBuffer (x + 6) ≠ 0 → udpChecksum frameBuffer v x (wordAt frameBuffer (x + 4)) = 0xffff

/-- **The datagrams that the reference accepts**, in the frame buffer. -/
lemma udp_valid_iff (h : Carries frameBuffer v source destination payload) :
    Rust.Udp.Valid source destination payload ↔
      UdpAccepted frameBuffer v (ipv4FrameOffset + v.headerLength.toNat) := by
  have hlength := h.length
  by_cases hheader : 8 ≤ v.payloadLength.toNat
  · have hdeclared : Rust.Udp.declaredLength payload =
        (wordAt frameBuffer (ipv4FrameOffset + v.headerLength.toNat + 4)).toNat := by
      unfold Rust.Udp.declaredLength
      rw [h.readU16 (by omega)]
    have hchecksum := h.readU16 (i := 6) (by omega)
    have hsum (hwithin : Rust.Udp.declaredLength payload ≤ v.payloadLength.toNat) :
        fold 65535 (Rust.Udp.pseudoSum source destination (Rust.Udp.declaredLength payload) +
          wordSum (payload.take (Rust.Udp.declaredLength payload))) = 65535 ↔
        udpChecksum frameBuffer v (ipv4FrameOffset + v.headerLength.toNat)
          (wordAt frameBuffer (ipv4FrameOffset + v.headerLength.toNat + 4)) = 0xffff := by
      unfold udpChecksum
      rw [← UInt16.toNat_inj, toNat_checksumWords_pseudo h.source h.destination, h.take hwithin, hdeclared]
      rfl
    constructor
    · intro hvalid
      have hwithin := hvalid.within
      rw [hlength] at hwithin
      refine ⟨UInt16.le_iff_toNat_le.mpr hheader, UInt16.le_iff_toNat_le.mpr ?_, UInt16.le_iff_toNat_le.mpr ?_, ?_⟩
      · rw [← hdeclared]
        exact hvalid.length
      · rwa [← hdeclared]
      · intro hpresent
        rw [← hchecksum] at hpresent
        exact (hsum hwithin).mp (hvalid.checksum hpresent)
    · intro haccepted
      have hminimum := UInt16.le_iff_toNat_le.mp haccepted.length
      have hwithin := UInt16.le_iff_toNat_le.mp haccepted.within
      rw [← hdeclared] at hminimum hwithin
      refine ⟨by rw [hlength]; exact hheader, hminimum, by rwa [hlength], fun hpresent => (hsum hwithin).mpr ?_⟩
      rw [hchecksum] at hpresent
      exact haccepted.checksum hpresent
  · refine iff_of_false (fun hvalid => hheader ?_) fun haccepted => hheader ?_
    · rw [← hlength]
      exact hvalid.header
    · exact UInt16.le_iff_toNat_le.mp haccepted.header

/-- **What is accepted**, and the variables that it leaves. -/
lemma parseUdp_eq_ok_iff {u : UdpDatagram} :
    parseUdp frameBuffer v = .ok u ↔ UdpAccepted frameBuffer v (ipv4FrameOffset + v.headerLength.toNat) ∧
      u = {
        source := v.source
        sourcePort := wordAt frameBuffer (ipv4FrameOffset + v.headerLength.toNat)
        destinationPort := wordAt frameBuffer (ipv4FrameOffset + v.headerLength.toNat + 2)
        payloadLength := wordAt frameBuffer (ipv4FrameOffset + v.headerLength.toNat + 4) - udpHeaderLength
        packetOffset := v.headerLength.toUInt16 + frameOffset
        frameBuffer := frameBuffer } := by
  unfold parseUdp
  dsimp only
  rw [toNat_packetOffset]
  constructor
  · intro hparse
    split_ifs at hparse with hheader hlength hwithin hchecksum
    cases hparse
    refine ⟨⟨UInt16.not_lt.mp hheader, UInt16.not_lt.mp hlength, UInt16.not_lt.mp hwithin, fun hpresent => ?_⟩, rfl⟩
    by_contra hwrong
    exact hchecksum ⟨hpresent, hwrong⟩
  · rintro ⟨haccepted, rfl⟩
    rw [if_neg (UInt16.not_lt.mpr haccepted.header), if_neg (UInt16.not_lt.mpr haccepted.length),
      if_neg (UInt16.not_lt.mpr haccepted.within), if_neg fun h => h.2 (haccepted.checksum h.1)]

/-- **UDP**: the datagrams that are accepted are those of the reference, with the same fields. -/
theorem parseUdp_agrees (h : Carries frameBuffer v source destination payload) :
    ((∃ u, parseUdp frameBuffer v = .ok u) ↔
      ∃ datagram, Udp.Datagram.parse source destination payload = some (.ok datagram)) ∧
    ∀ u datagram, parseUdp frameBuffer v = .ok u →
      Udp.Datagram.parse source destination payload = some (.ok datagram) → SameDatagram frameBuffer v u datagram := by
  constructor
  · constructor
    · rintro ⟨u, hparse⟩
      obtain ⟨haccepted, -⟩ := parseUdp_eq_ok_iff.mp hparse
      obtain ⟨datagram, hdatagram, -⟩ := (Rust.Udp.parse_spec source destination payload).1 ((udp_valid_iff h).mpr haccepted)
      exact ⟨datagram, hdatagram⟩
    · rintro ⟨datagram, hdatagram⟩
      exact ⟨_, parseUdp_eq_ok_iff.mpr ⟨(udp_valid_iff h).mp (Rust.Udp.valid_of_parse hdatagram).1, rfl⟩⟩
  · intro u datagram hparse hdatagram
    obtain ⟨haccepted, rfl⟩ := parseUdp_eq_ok_iff.mp hparse
    obtain ⟨-, hbytes, hpresent⟩ := Rust.Udp.valid_of_parse hdatagram
    have hheader : 8 ≤ v.payloadLength.toNat := UInt16.le_iff_toNat_le.mp haccepted.header
    have hlength : 8 ≤ (wordAt frameBuffer (ipv4FrameOffset + v.headerLength.toNat + 4)).toNat :=
      UInt16.le_iff_toNat_le.mp haccepted.length
    have hwithin := UInt16.le_iff_toNat_le.mp haccepted.within
    have hdeclared : Rust.Udp.declaredLength payload =
        (wordAt frameBuffer (ipv4FrameOffset + v.headerLength.toNat + 4)).toNat := by
      unfold Rust.Udp.declaredLength
      rw [h.readU16 (by omega)]
    have hword (i : ℕ) (hi : i < 7) : readU16 datagram.bytes i =
        wordAt frameBuffer (ipv4FrameOffset + v.headerLength.toNat + i) := by
      rw [hbytes, Rust.Udp.readU16_take (by omega), h.readU16 (by omega)]
    have hread : datagram.bytes = read frameBuffer (ipv4FrameOffset + v.headerLength.toNat)
        (wordAt frameBuffer (ipv4FrameOffset + v.headerLength.toNat + 4)).toNat := by
      rw [hbytes, hdeclared, h.take hwithin]
    have hpayload : (wordAt frameBuffer (ipv4FrameOffset + v.headerLength.toNat + 4) - udpHeaderLength).toNat =
        (wordAt frameBuffer (ipv4FrameOffset + v.headerLength.toNat + 4)).toNat - 8 :=
      UInt16.toNat_sub_of_le _ _ haccepted.length
    have hrest : datagram.payload = read frameBuffer (ipv4FrameOffset + v.headerLength.toNat + 8)
        ((wordAt frameBuffer (ipv4FrameOffset + v.headerLength.toNat + 4)).toNat - 8) := by
      unfold Rust.Udp.Datagram.payload
      rw [hread]
      exact drop_read _ _ hlength
    refine ⟨rfl, (hword 0 (by omega)).symm, (hword 2 (by omega)).symm, ?_, ?_, ?_, ?_, ?_, rfl, toNat_packetOffset v, ?_⟩
    · unfold udpDiagnostics Rust.Udp.Datagram.length
      rw [toNat_packetOffset, hread, length_read]
    · unfold udpDiagnostics
      rw [toNat_packetOffset]
      exact (hword 6 (by omega)).symm
    · unfold udpDiagnostics
      rw [toNat_packetOffset, hpresent, h.readU16 (by omega)]
    · rw [hrest, length_read]
      exact hpayload
    · rw [hrest, toNat_packetOffset, hpayload]
    · rw [hpayload]
      omega

end Datagram

/-! ### Messages -/

inductive IcmpError where
  | truncated | unsupportedType | nonzeroCode | invalidChecksum
  deriving DecidableEq, Repr

/-- An Echo message that `pppIcmpReceive` accepts. -/
structure IcmpEcho where
  type : UInt8
  checksum : UInt16
  identifier : UInt16
  sequence : UInt16
  payloadLength : UInt16
  packetOffset : UInt16

/-- `pppIcmpReceive`, up to `valid`. -/
def parseIcmp (frameBuffer : Buffer) (v : Ipv4) : Except IcmpError IcmpEcho :=
  if v.payloadLength < icmpEchoHeaderLength then .error .truncated
  else
    let offset := v.headerLength.toUInt16 + frameOffset
    let x := offset.toNat
    let type := frameBuffer x
    if type ≠ icmpTypeEchoRequest ∧ type ≠ icmpTypeEchoReply then .error .unsupportedType
    else if frameBuffer (x + 1) ≠ 0 then .error .nonzeroCode
    else if checksumWords 0 (read frameBuffer x v.payloadLength.toNat) ≠ 0xffff then .error .invalidChecksum
    else .ok {
      type := type
      checksum := wordAt frameBuffer (x + 2)
      identifier := wordAt frameBuffer (x + 4)
      sequence := wordAt frameBuffer (x + 6)
      payloadLength := v.payloadLength - icmpEchoHeaderLength
      packetOffset := offset }

/-- The variables of `icmp.asm` for an accepted message. -/
def IcmpEcho.variables (echo : IcmpEcho) : Icmp where
  replyPending := false
  identifier := echo.identifier
  sequence := echo.sequence
  payloadLength := echo.payloadLength
  packetOffset := echo.packetOffset

/-- What `pppIcmpReceive` does with the message that it has parsed. -/
def Handles (p : Ipcp) (now : UInt32) (frameBuffer : Buffer) (v : Ipv4) (r : IcmpRequest) (s : Ipv4Sender)
    (received : Icmp × IcmpRequest × Ipv4Sender × Bool) : Except IcmpError IcmpEcho → Prop
  | .error _ => received.1.replyPending = false ∧ received.2 = (r, s, false)
  | .ok echo =>
    if echo.type = icmpTypeEchoReply then
      received = (echo.variables, pppIcmpRequestReceive now
        ⟨v.source, echo.identifier, echo.sequence, echo.payloadLength, echo.packetOffset, frameBuffer⟩ r, s, false)
    else if s.transmit.active then received = ({ echo.variables with replyPending := true }, r, s, true)
    else
      received = ((echo.variables.buildEchoReply p frameBuffer v s).1, r,
        (echo.variables.buildEchoReply p frameBuffer v s).2.1, false)

/-- The variables of an accepted message are the fields of the reference. -/
structure SameEcho (frameBuffer : Buffer) (v : Ipv4) (echo : IcmpEcho) (packet : Icmp.EchoPacket) : Prop where
  type : echo.type = packet.kind.icmpType
  checksum : echo.checksum = packet.checksum
  identifier : echo.identifier = packet.identifier
  sequence : echo.sequence = packet.sequence
  payloadLength : echo.payloadLength.toNat = packet.payload.length
  /-- The payload lies behind the header in the frame buffer, and ends with the packet. -/
  payload : packet.payload = read frameBuffer (echo.packetOffset.toNat + 8) echo.payloadLength.toNat
  packetOffset : echo.packetOffset.toNat = ipv4FrameOffset + v.headerLength.toNat
  within : 8 + echo.payloadLength.toNat = v.payloadLength.toNat

section Message

variable {frameBuffer : Buffer} {v : Ipv4} {source destination : Rust.Ipv4.Address} {payload : List UInt8}

/-- What `pppIcmpReceive` checks. -/
structure IcmpAccepted (frameBuffer : Buffer) (v : Ipv4) (x : ℕ) (kind : Icmp.EchoKind) : Prop where
  header : icmpEchoHeaderLength ≤ v.payloadLength
  type : frameBuffer x = kind.icmpType
  code : frameBuffer (x + 1) = 0
  checksum : checksumWords 0 (read frameBuffer x v.payloadLength.toNat) = 0xffff

/-- **The messages that the reference accepts**, in the frame buffer. -/
lemma icmp_valid_iff (h : Carries frameBuffer v source destination payload) (kind : Icmp.EchoKind) :
    Rust.Icmp.Valid payload kind ↔ IcmpAccepted frameBuffer v (ipv4FrameOffset + v.headerLength.toNat) kind := by
  have hlength := h.length
  have hsum : fold 65535 (wordSum payload) = 65535 ↔ checksumWords 0
      (read frameBuffer (ipv4FrameOffset + v.headerLength.toNat) v.payloadLength.toNat) = 0xffff := by
    rw [← UInt16.toNat_inj, toNat_checksumWords, ← h.payload, show (0 : UInt16).toNat = 0 from rfl, Nat.zero_add]
    rfl
  constructor
  · intro hvalid
    have hheader : 8 ≤ v.payloadLength.toNat := by
      rw [← hlength]
      exact hvalid.header
    refine ⟨UInt16.le_iff_toNat_le.mpr hheader, ?_, ?_, hsum.mp hvalid.checksum⟩
    · rw [← hvalid.kind, h.getD (by omega)]
      rfl
    · rw [← h.getD (by omega)]
      exact hvalid.code
  · intro haccepted
    have hheader : 8 ≤ v.payloadLength.toNat := UInt16.le_iff_toNat_le.mp haccepted.header
    refine ⟨by rw [hlength]; exact hheader, ?_, ?_, hsum.mpr haccepted.checksum⟩
    · rw [h.getD (by omega)]
      exact haccepted.type
    · rw [h.getD (by omega)]
      exact haccepted.code

/-- **What is accepted**, and the variables that it leaves. -/
lemma parseIcmp_eq_ok_iff {echo : IcmpEcho} :
    parseIcmp frameBuffer v = .ok echo ↔
      ∃ kind, IcmpAccepted frameBuffer v (ipv4FrameOffset + v.headerLength.toNat) kind ∧ echo = {
        type := kind.icmpType
        checksum := wordAt frameBuffer (ipv4FrameOffset + v.headerLength.toNat + 2)
        identifier := wordAt frameBuffer (ipv4FrameOffset + v.headerLength.toNat + 4)
        sequence := wordAt frameBuffer (ipv4FrameOffset + v.headerLength.toNat + 6)
        payloadLength := v.payloadLength - icmpEchoHeaderLength
        packetOffset := v.headerLength.toUInt16 + frameOffset } := by
  unfold parseIcmp
  dsimp only
  rw [toNat_packetOffset]
  constructor
  · intro hparse
    split_ifs at hparse with hheader htype hcode hchecksum
    cases hparse
    obtain ⟨kind, hkind⟩ : ∃ kind : Icmp.EchoKind,
        frameBuffer (ipv4FrameOffset + v.headerLength.toNat) = kind.icmpType := by
      by_cases hrequest : frameBuffer (ipv4FrameOffset + v.headerLength.toNat) = icmpTypeEchoRequest
      · exact ⟨.request, hrequest⟩
      · exact ⟨.reply, not_not.mp fun hreply => htype ⟨hrequest, hreply⟩⟩
    refine ⟨kind, ⟨UInt16.not_lt.mp hheader, hkind, not_not.mp hcode, not_not.mp hchecksum⟩, ?_⟩
    rw [hkind]
  · rintro ⟨kind, haccepted, rfl⟩
    have hknown : ¬ (frameBuffer (ipv4FrameOffset + v.headerLength.toNat) ≠ icmpTypeEchoRequest ∧
        frameBuffer (ipv4FrameOffset + v.headerLength.toNat) ≠ icmpTypeEchoReply) := by
      rw [haccepted.type]
      rintro ⟨hrequest, hreply⟩
      cases kind with
      | reply => exact hreply rfl
      | request => exact hrequest rfl
    rw [if_neg (UInt16.not_lt.mpr haccepted.header), if_neg hknown, if_neg (not_not_intro haccepted.code),
      if_neg (not_not_intro haccepted.checksum), haccepted.type]

/-- **A message is handled** as it is parsed. -/
theorem icmpReceive_handles (p : Ipcp) (now : UInt32) (frameBuffer : Buffer) (v : Ipv4) (c : Icmp) (r : IcmpRequest)
    (s : Ipv4Sender) :
    Handles p now frameBuffer v r s (pppIcmpReceive p now frameBuffer v c r s) (parseIcmp frameBuffer v) := by
  unfold pppIcmpReceive parseIcmp
  dsimp only
  split_ifs with hheader htype hcode hchecksum hreply hactive
  · exact ⟨rfl, rfl⟩
  · exact ⟨rfl, rfl⟩
  · exact ⟨rfl, rfl⟩
  · exact ⟨rfl, rfl⟩
  · unfold Handles
    dsimp only
    rw [if_pos hreply]
    rfl
  · unfold Handles
    dsimp only
    rw [if_neg hreply, if_pos hactive]
    rfl
  · unfold Handles
    dsimp only
    rw [if_neg hreply, if_neg hactive]
    rfl

/-- **ICMP**: the messages that are accepted are those of the reference, with the same fields. -/
theorem parseIcmp_agrees (h : Carries frameBuffer v source destination payload) :
    ((∃ echo, parseIcmp frameBuffer v = .ok echo) ↔ ∃ packet, Icmp.EchoPacket.parse payload = some (.ok packet)) ∧
    ∀ echo packet, parseIcmp frameBuffer v = .ok echo → Icmp.EchoPacket.parse payload = some (.ok packet) →
      SameEcho frameBuffer v echo packet := by
  have hshort : payload.length ≤ 65535 := by
    have hlt := v.payloadLength.toNat_lt
    rw [h.length]
    exact Nat.le_of_lt_succ hlt
  constructor
  · constructor
    · rintro ⟨echo, hparse⟩
      obtain ⟨kind, haccepted, -⟩ := parseIcmp_eq_ok_iff.mp hparse
      obtain ⟨packet, hpacket, -⟩ := (Rust.Icmp.parse_spec hshort).1 kind ((icmp_valid_iff h kind).mpr haccepted)
      exact ⟨packet, hpacket⟩
    · rintro ⟨packet, hpacket⟩
      have hkind := (Rust.Icmp.valid_of_parse hshort hpacket).1
      exact ⟨_, parseIcmp_eq_ok_iff.mpr ⟨packet.kind, (icmp_valid_iff h packet.kind).mp hkind, rfl⟩⟩
  · intro echo packet hparse hpacket
    obtain ⟨kind, haccepted, rfl⟩ := parseIcmp_eq_ok_iff.mp hparse
    obtain ⟨hvalid, hbytes⟩ := Rust.Icmp.valid_of_parse hshort hpacket
    have hkind : packet.kind.icmpType = kind.icmpType := by
      rw [← haccepted.type, ← ((icmp_valid_iff h packet.kind).mp hvalid).type]
    have hheader : 8 ≤ v.payloadLength.toNat := UInt16.le_iff_toNat_le.mp haccepted.header
    have hword (i : ℕ) (hi : i < 7) : readU16 packet.bytes i =
        wordAt frameBuffer (ipv4FrameOffset + v.headerLength.toNat + i) := by
      rw [hbytes, h.readU16 (by omega)]
    have hlength : (v.payloadLength - icmpEchoHeaderLength).toNat = v.payloadLength.toNat - 8 :=
      UInt16.toNat_sub_of_le _ _ haccepted.header
    have hrest : packet.payload = read frameBuffer (ipv4FrameOffset + v.headerLength.toNat + 8)
        (v.payloadLength.toNat - 8) := by
      unfold Rust.Icmp.EchoPacket.payload
      rw [hbytes, h.payload]
      exact drop_read _ _ hheader
    refine ⟨hkind.symm, (hword 2 (by omega)).symm, (hword 4 (by omega)).symm, (hword 6 (by omega)).symm, ?_, ?_,
      toNat_packetOffset v, ?_⟩
    · rw [hrest, length_read]
      exact hlength
    · rw [hrest, toNat_packetOffset, hlength]
    · rw [hlength]
      omega

end Message

end SnesModem.Asm.DatagramRefinement
