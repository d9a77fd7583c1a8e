import SnesModem.Asm.Checksums
import SnesModem.Asm.Icmp
import SnesModem.Asm.LcpPacketBounds
import SnesModem.Rust.Ipv4

/-!
# The IPv4 parser against the reference

* `receiveFrame_iff`: the packets that are accepted;
* `SamePacket`: the variables of an accepted packet are the fields of the reference;
* `packets_agree`: the parsers accept the same packets, and their checksums are the same.
-/

namespace SnesModem.Asm.Ipv4Refinement

open SnesModem.Lib SnesModem.Lib.Cpu65816 SnesModem.Lib.Octets SnesModem.Lib.OnesComplement
open SnesModem.Lib.InternetChecksum SnesModem.Rust.Ipv4
open SnesModem.Rust.Ipv4 (Packet Valid)

/-- What `readTotal` and `readFields` store beside the variables that other code reads. -/
structure Ipv4Diagnostics where
  totalLength : UInt16
  identification : UInt16
  headerChecksum : UInt16
  ttl : UInt8

def ipv4Diagnostics (d : Decoder) : Ipv4Diagnostics where
  totalLength := wordAt d.frameBuffer (ipv4FrameOffset + 2)
  identification := wordAt d.frameBuffer (ipv4FrameOffset + 4)
  headerChecksum := wordAt d.frameBuffer (ipv4FrameOffset + 10)
  ttl := d.frameBuffer (ipv4FrameOffset + 8)

/-- The variables after an accepted packet are the fields of the reference. -/
structure SamePacket (d : Decoder) (v : Ipv4) (packet : Packet) : Prop where
  headerLength : v.headerLength.toNat = packet.headerLength
  totalLength : (ipv4Diagnostics d).totalLength.toNat = packet.totalLength
  identification : (ipv4Diagnostics d).identification = packet.identification
  flagsFragmentOffset : v.flagsFragmentOffset = packet.flagsFragmentOffset
  ttl : (ipv4Diagnostics d).ttl = packet.ttl
  protocol : v.protocol = packet.protocol
  headerChecksum : (ipv4Diagnostics d).headerChecksum = packet.headerChecksum
  source : v.source.octets = packet.source.octets
  destination : v.destination.octets = packet.destination.octets
  /-- The payload lies behind the header in the frame buffer. -/
  payload : packet.payload = read d.frameBuffer (ipv4FrameOffset + v.headerLength.toNat) v.payloadLength.toNat
  /-- It ends within the frame. -/
  within : ipv4FrameOffset + v.headerLength.toNat + v.payloadLength.toNat ≤ d.lastFrameLength.toNat

/-! ### Checksums -/

/-- **The checksums are the same**: the carry that goes around at each word, and the accumulator of 32 bits. -/
theorem internetChecksum_checksumWords {octets : List UInt8} (h : octets.length ≤ 65535) :
    internetChecksum octets = some (checksumWords 0 octets ^^^ 0xffff) := by
  have hsum := wordSum_le octets
  obtain ⟨checksum, hchecksum, hvalue⟩ := internetChecksum_eq octets (by omega)
  rw [hchecksum]
  congr 1
  rw [← UInt16.toNat_inj, hvalue, toNat_complement, toNat_checksumWords]
  simp

/-! ### The header -/

section Header

variable {d : Decoder} {v : Ipv4}

lemma version_iff (first : UInt8) : first &&& 0xf0 = 0x40 ↔ first >>> 4 = version :=
  octet_forall (P := fun first => first &&& 0xf0 = 0x40 ↔ first >>> 4 = version) (by decide +kernel) first

lemma toNat_headerLength (first : UInt8) : ((first &&& 0x0f) <<< 2).toNat = (first &&& 0x0f).toNat * 4 := by
  have hle : (first &&& 0x0f).toNat ≤ 15 := by
    rw [UInt8.toNat_and]
    exact Nat.and_le_right
  rw [UInt8.toNat_shiftLeft]
  show (first &&& 0x0f).toNat <<< 2 % 2 ^ 8 = _
  rw [Nat.shiftLeft_eq]
  omega

lemma getD_information {i : ℕ} (h : i + 4 < d.lastFrameLength.toNat) :
    (information d).getD i 0 = d.frameBuffer (4 + i) := getD_read _ _ (by omega)

lemma readU16_information {offset : ℕ} (h : offset + 5 < d.lastFrameLength.toNat) :
    readU16 (information d) offset = wordAt d.frameBuffer (4 + offset) := by
  unfold readU16 wordAt
  rw [getD_information (by omega), getD_information (by omega)]
  rfl

/-- The lengths in the header. -/
def headerLength (d : Decoder) : ℕ := (d.frameBuffer ipv4FrameOffset &&& 0x0f).toNat * 4

def totalLength (d : Decoder) : ℕ := (wordAt d.frameBuffer (ipv4FrameOffset + 2)).toNat

/-- **The packets that the reference accepts**, in the frame buffer. -/
lemma valid_iff : Valid (information d) ↔ 24 ≤ d.lastFrameLength.toNat ∧ d.frameBuffer ipv4FrameOffset &&& 0xf0 = 0x40 ∧
    20 ≤ headerLength d ∧ headerLength d ≤ totalLength d ∧ totalLength d + 4 ≤ d.lastFrameLength.toNat ∧
    checksumWords 0 (read d.frameBuffer ipv4FrameOffset (headerLength d)) = 0xffff := by
  have hlength : (information d).length = d.lastFrameLength.toNat - 4 := length_read _ _ _
  by_cases hminimum : 24 ≤ d.lastFrameLength.toNat
  · have hfirst : (information d).getD 0 0 = d.frameBuffer ipv4FrameOffset := getD_information (by omega)
    have hheader : declaredHeaderLength (information d) = headerLength d := by
      unfold declaredHeaderLength headerLength
      rw [hfirst]
    have htotal : declaredTotalLength (information d) = totalLength d := by
      unfold declaredTotalLength totalLength
      rw [readU16_information (by omega)]
    have hsum (hwithin : headerLength d + 4 ≤ d.lastFrameLength.toNat) :
        fold 65535 (wordSum ((information d).take (headerLength d))) = 65535 ↔
          checksumWords 0 (read d.frameBuffer ipv4FrameOffset (headerLength d)) = 0xffff := by
      have htake : (information d).take (headerLength d) = read d.frameBuffer ipv4FrameOffset (headerLength d) :=
        take_read _ _ (by omega)
      rw [htake, ← UInt16.toNat_inj, toNat_checksumWords, show (0 : UInt16).toNat = 0 from rfl, Nat.zero_add]
      rfl
    constructor
    · intro h
      have hwords := h.words
      have hle := h.total
      have hwithin := h.within
      have hchecksum := h.checksum
      rw [hheader] at hwords hle hchecksum
      rw [htotal] at hle hwithin
      refine ⟨hminimum, (version_iff _).mpr (hfirst ▸ h.version), hwords, hle, by omega, (hsum (by omega)).mp hchecksum⟩
    · rintro ⟨-, hversion, hwords, hle, hwithin, hchecksum⟩
      refine ⟨by rw [hlength]; show 20 ≤ _; omega, ?_, by rwa [hheader], by rwa [hheader, htotal], by omega, ?_⟩
      · rw [hfirst]
        exact (version_iff _).mp hversion
      · rw [hheader]
        exact (hsum (by omega)).mpr hchecksum
  · refine iff_of_false (fun h => ?_) fun h => hminimum h.1
    have hle : 20 ≤ (information d).length := h.minimum
    omega

/-- The variables of an accepted packet. -/
structure Received (d : Decoder) (v : Ipv4) : Prop where
  header : v.headerLength.toNat = headerLength d
  payload : v.payloadLength.toNat = totalLength d - headerLength d
  flagsFragmentOffset : v.flagsFragmentOffset = wordAt d.frameBuffer (ipv4FrameOffset + 6)
  protocol : v.protocol = d.frameBuffer (ipv4FrameOffset + 9)
  source : v.source = readAddress d.frameBuffer (ipv4FrameOffset + 12)
  destination : v.destination = readAddress d.frameBuffer (ipv4FrameOffset + 16)

/-- **The packets that are accepted**, and what they leave. -/
theorem receiveFrame_iff (hprotocol : d.lastProtocol = protocolIp) :
    ((pppIpv4ReceiveFrame d v).2 = none ↔ Valid (information d)) ∧
    ((pppIpv4ReceiveFrame d v).2 = none → Received d (pppIpv4ReceiveFrame d v).1) := by
  have hframe := d.lastFrameLength.toNat_lt
  have htoNat : (((d.frameBuffer ipv4FrameOffset &&& 0x0f) <<< 2).toUInt16).toNat = headerLength d := by
    rw [UInt8.toNat_toUInt16, toNat_headerLength]
    rfl
  have hwords : d.frameBuffer ipv4FrameOffset &&& 0x0f < 5 ↔ headerLength d < 20 := by
    rw [UInt8.lt_iff_toNat_lt]
    show _ < 5 ↔ (d.frameBuffer ipv4FrameOffset &&& 0x0f).toNat * 4 < 20
    omega
  have hread : read d.frameBuffer ipv4FrameOffset ((d.frameBuffer ipv4FrameOffset &&& 0x0f) <<< 2).toNat =
      read d.frameBuffer ipv4FrameOffset (headerLength d) := by
    rw [toNat_headerLength]
    rfl
  rw [valid_iff]
  unfold pppIpv4ReceiveFrame
  dsimp only
  rw [if_neg (not_not_intro hprotocol)]
  by_cases hminimum : d.lastFrameLength < ipv4MinimumFrameLength
  · have hshort : d.lastFrameLength.toNat < 24 := UInt16.lt_iff_toNat_lt.mp hminimum
    rw [if_pos hminimum]
    exact ⟨iff_of_false (Option.some_ne_none _) fun h => absurd h.1 (by omega), fun h => by cases h⟩
  rw [if_neg hminimum]
  have hlong : 24 ≤ d.lastFrameLength.toNat := Nat.not_lt.mp fun h => hminimum (UInt16.lt_iff_toNat_lt.mpr h)
  have havailable : (d.lastFrameLength - frameOffset).toNat = d.lastFrameLength.toNat - 4 := by
    rw [UInt16.toNat_sub]
    show (65536 - 4 + d.lastFrameLength.toNat) % 65536 = _
    omega
  by_cases hversion : d.frameBuffer ipv4FrameOffset &&& 0xf0 = 0x40
  swap
  · rw [if_pos hversion]
    exact ⟨iff_of_false (Option.some_ne_none _) fun h => hversion h.2.1, fun h => by cases h⟩
  rw [if_neg (not_not_intro hversion)]
  by_cases hihl : d.frameBuffer ipv4FrameOffset &&& 0x0f < 5
  · have hless := hwords.mp hihl
    rw [if_pos hihl]
    exact ⟨iff_of_false (Option.some_ne_none _) fun h => absurd h.2.2.1 (by omega), fun h => by cases h⟩
  have hmore : 20 ≤ headerLength d := Nat.not_lt.mp (mt hwords.mpr hihl)
  rw [if_neg hihl]
  by_cases hheader : d.lastFrameLength - frameOffset < ((d.frameBuffer ipv4FrameOffset &&& 0x0f) <<< 2).toUInt16
  · rw [if_pos hheader]
    rw [UInt16.lt_iff_toNat_lt, havailable, htoNat] at hheader
    exact ⟨iff_of_false (Option.some_ne_none _) fun h => by omega, fun h => by cases h⟩
  rw [if_neg hheader]
  by_cases htotal : wordAt d.frameBuffer (ipv4FrameOffset + 2) < ((d.frameBuffer ipv4FrameOffset &&& 0x0f) <<< 2).toUInt16
  · rw [if_pos htotal]
    rw [UInt16.lt_iff_toNat_lt, htoNat] at htotal
    change totalLength d < _ at htotal
    exact ⟨iff_of_false (Option.some_ne_none _) fun h => by omega, fun h => by cases h⟩
  rw [if_neg htotal]
  have hle : headerLength d ≤ totalLength d := by
    rw [UInt16.lt_iff_toNat_lt, htoNat] at htotal
    exact Nat.not_lt.mp htotal
  by_cases hwithin : d.lastFrameLength - frameOffset < wordAt d.frameBuffer (ipv4FrameOffset + 2)
  · rw [if_pos hwithin]
    rw [UInt16.lt_iff_toNat_lt, havailable] at hwithin
    change _ < totalLength d at hwithin
    exact ⟨iff_of_false (Option.some_ne_none _) fun h => by omega, fun h => by cases h⟩
  rw [if_neg hwithin, hread]
  have hinside : totalLength d + 4 ≤ d.lastFrameLength.toNat := by
    rw [UInt16.lt_iff_toNat_lt, havailable] at hwithin
    change ¬ _ < totalLength d at hwithin
    omega
  by_cases hsum : checksumWords 0 (read d.frameBuffer ipv4FrameOffset (headerLength d)) = 0xffff
  · rw [if_pos hsum]
    refine ⟨iff_of_true rfl ⟨hlong, hversion, hmore, hle, hinside, hsum⟩, fun _ => ⟨?_, ?_, rfl, rfl, rfl, rfl⟩⟩
    · exact toNat_headerLength _
    · show (wordAt d.frameBuffer (ipv4FrameOffset + 2) - ((d.frameBuffer ipv4FrameOffset &&& 0x0f) <<< 2).toUInt16).toNat = _
      rw [UInt16.toNat_sub_of_le _ _ (UInt16.le_iff_toNat_le.mpr (by rw [htoNat]; exact hle)), htoNat]
      rfl
  · rw [if_neg hsum]
    exact ⟨iff_of_false (Option.some_ne_none _) fun h => hsum h.2.2.2.2.2, fun h => by cases h⟩

end Header

/-! ### Agreement -/

section Agreement

variable {d : Decoder} {v : Ipv4}

lemma samePacket {packet : Packet} (hreceived : Received d v) (hvalid : Valid (information d))
    (hbytes : packet.bytes = (information d).take (declaredTotalLength (information d)))
    (hheader : packet.headerLength = declaredHeaderLength (information d)) : SamePacket d v packet := by
  obtain ⟨hlong, -, hmore, hle, hinside, -⟩ := valid_iff.mp hvalid
  have hdeclaredHeader : declaredHeaderLength (information d) = headerLength d := by
    unfold declaredHeaderLength headerLength
    rw [getD_information (by omega)]
  have hdeclaredTotal : declaredTotalLength (information d) = totalLength d := by
    unfold declaredTotalLength totalLength
    rw [readU16_information (by omega)]
  have hread : packet.bytes = read d.frameBuffer 4 (totalLength d) := by
    rw [hbytes, hdeclaredTotal]
    exact take_read _ _ (by omega)
  have hoctet (i : ℕ) (hi : i < 20) : packet.bytes.getD i 0 = d.frameBuffer (ipv4FrameOffset + i) := by
    rw [hread, getD_read _ _ (by omega)]
  have hword (i : ℕ) (hi : i < 19) : readU16 packet.bytes i = wordAt d.frameBuffer (ipv4FrameOffset + i) := by
    unfold readU16 wordAt
    rw [hoctet _ (by omega), hoctet _ (by omega)]
    rfl
  have haddress (i : ℕ) (hi : i < 17) : (Rust.Ipv4.readAddress packet.bytes i).octets =
      (readAddress d.frameBuffer (ipv4FrameOffset + i)).octets := by
    unfold Rust.Ipv4.readAddress Rust.Ipv4.Address.octets
    dsimp only
    rw [hoctet _ (by omega), hoctet _ (by omega), hoctet _ (by omega), hoctet _ (by omega)]
    rfl
  rw [hdeclaredHeader] at hheader
  refine ⟨?_, ?_, (hword 4 (by omega)).symm, ?_, (hoctet 8 (by omega)).symm, ?_, (hword 10 (by omega)).symm, ?_, ?_, ?_,
    ?_⟩
  · rw [hreceived.header, hheader]
  · unfold Packet.totalLength
    rw [hread, length_read]
    rfl
  · rw [hreceived.flagsFragmentOffset]
    exact (hword 6 (by omega)).symm
  · rw [hreceived.protocol]
    exact (hoctet 9 (by omega)).symm
  · rw [hreceived.source]
    exact (haddress 12 (by omega)).symm
  · rw [hreceived.destination]
    exact (haddress 16 (by omega)).symm
  · unfold Packet.payload
    rw [hread, hheader, drop_read _ _ hle, hreceived.header, hreceived.payload]
  · rw [hreceived.header, hreceived.payload]
    show 4 + headerLength d + (totalLength d - headerLength d) ≤ _
    omega

/-- **The packets that are accepted** are those of the reference, with the same fields. -/
lemma receiveFrame_agrees (v : Ipv4) (hprotocol : d.lastProtocol = protocolIp) :
    ((pppIpv4ReceiveFrame d v).2 = none ↔ ∃ packet, Packet.parse (information d) = some (.ok packet)) ∧
    ∀ packet, Packet.parse (information d) = some (.ok packet) → SamePacket d (pppIpv4ReceiveFrame d v).1 packet := by
  obtain ⟨haccepted, hreceived⟩ := receiveFrame_iff (v := v) hprotocol
  constructor
  · rw [haccepted]
    constructor
    · intro h
      obtain ⟨packet, hparse, -⟩ := (parse_spec (information d)).1 h
      exact ⟨packet, hparse⟩
    · rintro ⟨packet, hparse⟩
      exact (valid_of_parse hparse).1
  · intro packet hparse
    obtain ⟨hvalid, hbytes, hheader⟩ := valid_of_parse hparse
    exact samePacket (hreceived (haccepted.mpr hvalid)) hvalid hbytes hheader

/-- **The packets that are accepted** are those of the reference, with the same fields, and the two checksums are the
same for every string that a packet can have. -/
theorem packets_agree :
    (∀ (d : Decoder) (v : Ipv4), d.lastProtocol = protocolIp →
      ((pppIpv4ReceiveFrame d v).2 = none ↔ ∃ packet, Packet.parse (information d) = some (.ok packet)) ∧
      ∀ packet, Packet.parse (information d) = some (.ok packet) → SamePacket d (pppIpv4ReceiveFrame d v).1 packet) ∧
    ∀ octets : List UInt8, octets.length ≤ 65535 →
      internetChecksum octets = some (checksumWords 0 octets ^^^ 0xffff) :=
  ⟨fun _ v hprotocol => receiveFrame_agrees v hprotocol, fun _ => internetChecksum_checksumWords⟩

/-- A header without options, two octets of payload, and an octet of padding. -/
def shortPacket : List UInt8 :=
  [0x45, 0, 0, 22, 0, 1, 0, 0, 64, 17, 0x66, 0xd4, 10, 0, 0, 1, 10, 0, 0, 2, 5, 6, 7]

def shortFrame : Decoder :=
  { (default : Decoder) with
    lastProtocol := protocolIp
    lastFrameLength := 27
    frameBuffer := write default ipv4FrameOffset shortPacket }

theorem packets_agree_short :
    (∃ packet, Packet.parse (information shortFrame) = some (.ok packet) ∧
      SamePacket shortFrame (pppIpv4ReceiveFrame shortFrame pppIpv4Initialize).1 packet) ∧
    internetChecksum shortPacket = some (checksumWords 0 shortPacket ^^^ 0xffff) := by
  obtain ⟨haccepted, hsame⟩ := packets_agree.1 shortFrame pppIpv4Initialize rfl
  obtain ⟨packet, hparse⟩ := haccepted.mp (by decide +kernel)
  exact ⟨⟨packet, hparse, hsame packet hparse⟩, packets_agree.2 shortPacket (by decide)⟩

end Agreement

end SnesModem.Asm.Ipv4Refinement
