import SnesModem.Lib.InternetChecksum
import SnesModem.Lib.Octets

/-!
# `ndm24-ppp/src/ipv4.rs`

* The accumulator of a checksum has 32 bits, and an addition that overflows panics: `none`.
* A parsed packet carries that its header lies in its octets, so that the accessors read within them.
* A packet is encoded into an output of a given size; what is written there is the result.
-/

namespace SnesModem.Rust.Ipv4

open SnesModem.Lib.Cpu65816 SnesModem.Lib.OnesComplement SnesModem.Lib.InternetChecksum
open SnesModem.Lib.Octets (high low)

abbrev version : UInt8 := 4
abbrev minimumIhlWords : UInt8 := 5
abbrev minimumHeaderLength : ℕ := 20
abbrev protocolIcmp : UInt8 := 1
abbrev protocolUdp : UInt8 := 17

abbrev flagReserved : UInt16 := 0x8000
abbrev flagDontFragment : UInt16 := 0x4000
abbrev flagMoreFragments : UInt16 := 0x2000
abbrev fragmentOffsetMask : UInt16 := 0x1fff

inductive ParseError where
  | truncatedMinimumHeader
  | unsupportedVersion (version : UInt8)
  | invalidHeaderLength (ihlWords : UInt8)
  | truncatedHeader (headerLength available : ℕ)
  | totalLengthSmallerThanHeader (totalLength headerLength : ℕ)
  | truncatedPacket (totalLength available : ℕ)
  | invalidHeaderChecksum
  deriving DecidableEq, Repr

inductive EncodeError where
  | outputTooSmall (required available : ℕ)
  | packetTooLong (totalLength : ℕ)
  | reservedFlagSet
  deriving DecidableEq, Repr

/-- `[u8; 4]`. -/
structure Address where
  a : UInt8
  b : UInt8
  c : UInt8
  d : UInt8
  deriving DecidableEq, Repr

def Address.octets (address : Address) : List UInt8 := [address.a, address.b, address.c, address.d]

structure Header where
  dscpEcn : UInt8
  identification : UInt16
  flagsFragmentOffset : UInt16
  ttl : UInt8
  protocol : UInt8
  source : Address
  destination : Address
  deriving DecidableEq, Repr

def Header.new (protocol : UInt8) (source destination : Address) : Header where
  dscpEcn := 0
  identification := 0
  flagsFragmentOffset := 0
  ttl := 64
  protocol := protocol
  source := source
  destination := destination

def readU16 (bytes : List UInt8) (offset : ℕ) : UInt16 := word (bytes.getD offset 0) (bytes.getD (offset + 1) 0)

def readAddress (bytes : List UInt8) (offset : ℕ) : Address :=
  ⟨bytes.getD offset 0, bytes.getD (offset + 1) 0, bytes.getD (offset + 2) 0, bytes.getD (offset + 3) 0⟩

/-! ### The checksum -/

/-- `+=` of the accumulator. -/
def addWord (sum word : UInt32) : Option UInt32 := if sum.toNat + word.toNat < 2 ^ 32 then some (sum + word) else none

/-- The loop over the words, and `add_bytes` of `udp.rs`. -/
def addBytes (sum : UInt32) : List UInt8 → Option UInt32
  | [] => some sum
  | [last] => addWord sum (last.toUInt32 <<< 8)
  | a :: b :: bytes => (addWord sum (word a b).toUInt32).bind fun sum => addBytes sum bytes

/-- A turn of the loop that folds the accumulator. -/
def foldTurn (sum : UInt32) : UInt32 := (sum &&& (0xffff : UInt32)) + (sum >>> (16 : UInt32))

lemma toNat_foldTurn (sum : UInt32) : (foldTurn sum).toNat = sum.toNat % 65536 + sum.toNat / 65536 := by
  have hsum := sum.toNat_lt
  have hand : (sum &&& (0xffff : UInt32)).toNat = sum.toNat % 65536 := by
    rw [UInt32.toNat_and]
    exact Nat.and_two_pow_sub_one_eq_mod sum.toNat 16
  have hshift : (sum >>> (16 : UInt32)).toNat = sum.toNat / 65536 := by
    rw [UInt32.toNat_shiftRight]
    exact Nat.shiftRight_eq_div_pow sum.toNat 16
  unfold foldTurn
  rw [UInt32.toNat_add, hand, hshift]
  omega

/-- The loop that folds the accumulator, and `fold_sum` of `udp.rs`. -/
def foldSum (sum : UInt32) : UInt16 := if 65535 < sum.toNat then foldSum (foldTurn sum) else sum.toUInt16
termination_by sum.toNat
decreasing_by
  rw [toNat_foldTurn]
  omega

def internetChecksum (bytes : List UInt8) : Option UInt16 := (addBytes 0 bytes).map fun sum => ~~~ foldSum sum

section Checksum

variable {n m : ℕ}

lemma addWord_ofNat (h : n + m < 2 ^ 32) : addWord (UInt32.ofNat n) (UInt32.ofNat m) = some (UInt32.ofNat (n + m)) := by
  unfold addWord
  rw [UInt32.toNat_ofNat_of_lt' (show n < 2 ^ 32 by omega), UInt32.toNat_ofNat_of_lt' (show m < 2 ^ 32 by omega),
    if_pos h, UInt32.ofNat_add]

/-- **The accumulator has room** for so many words. -/
theorem addBytes_ofNat (bytes : List UInt8) (h : n + wordSum bytes < 2 ^ 32) :
    addBytes (UInt32.ofNat n) bytes = some (UInt32.ofNat (n + wordSum bytes)) := by
  induction bytes using wordSum.induct generalizing n with
  | case1 => rfl
  | case2 last =>
    have hlast := last.toNat_lt
    have hvalue : last.toUInt32 <<< 8 = UInt32.ofNat (256 * last.toNat) := by
      rw [← UInt32.toNat_inj, UInt32.toNat_shiftLeft, UInt8.toNat_toUInt32,
        UInt32.toNat_ofNat_of_lt' (show 256 * last.toNat < 2 ^ 32 by omega)]
      show last.toNat <<< 8 % 2 ^ 32 = _
      rw [Nat.shiftLeft_eq]
      omega
    simp only [wordSum] at h
    simp only [addBytes, wordSum]
    rw [hvalue, addWord_ofNat h]
  | case3 a b bytes ih =>
    have hlt := (word a b).toNat_lt
    have hvalue : (word a b).toUInt32 = UInt32.ofNat (256 * a.toNat + b.toNat) := by
      rw [← toNat_word, ← UInt32.toNat_inj, UInt16.toNat_toUInt32,
        UInt32.toNat_ofNat_of_lt' (show (word a b).toNat < 2 ^ 32 by omega)]
    simp only [wordSum] at h
    simp only [addBytes, wordSum]
    rw [hvalue, addWord_ofNat (by omega), Option.bind_some, ih (by omega), Nat.add_assoc]

/-- **The accumulator is folded** to the word of its sum. -/
theorem toNat_foldSum (sum : UInt32) : (foldSum sum).toNat = fold 65535 sum.toNat := by
  induction sum using foldSum.induct with
  | case1 sum h ih =>
    rw [foldSum, if_pos h, ih, toNat_foldTurn]
    apply fold_eq_of_modEq
    · omega
    · omega
    · unfold Nat.ModEq
      omega
  | case2 sum h =>
    rw [foldSum, if_neg h, UInt32.toNat_toUInt16, fold_of_le (by omega)]
    omega

/-- The sum of one string. -/
lemma internetChecksum_eq (bytes : List UInt8) (h : wordSum bytes < 2 ^ 32) : ∃ checksum,
    internetChecksum bytes = some checksum ∧ checksum.toNat = 65535 - fold 65535 (wordSum bytes) := by
  have hsum := addBytes_ofNat (n := 0) bytes (by omega)
  rw [Nat.zero_add] at hsum
  unfold internetChecksum
  rw [show (0 : UInt32) = UInt32.ofNat 0 from rfl, hsum]
  refine ⟨_, rfl, ?_⟩
  rw [UInt16.toNat_not, toNat_foldSum, UInt32.toNat_ofNat_of_lt' h]
  rfl

end Checksum

/-! ### Packets -/

structure Packet where
  bytes : List UInt8
  headerLength : ℕ
  minimum : minimumHeaderLength ≤ headerLength
  within : headerLength ≤ bytes.length
  deriving DecidableEq, Repr

namespace Packet

def parse (bytes : List UInt8) : Option (Except ParseError Packet) :=
  if bytes.length < minimumHeaderLength then some (.error .truncatedMinimumHeader)
  else
    let versionIhl := bytes.getD 0 0
    let packetVersion := versionIhl >>> 4
    if packetVersion ≠ version then some (.error (.unsupportedVersion packetVersion))
    else
      let ihlWords := versionIhl &&& 0x0f
      if hminimum : ihlWords < minimumIhlWords then some (.error (.invalidHeaderLength ihlWords))
      else
        let headerLength := ihlWords.toNat * 4
        if bytes.length < headerLength then some (.error (.truncatedHeader headerLength bytes.length))
        else
          let totalLength := (readU16 bytes 2).toNat
          if htotal : totalLength < headerLength then
            some (.error (.totalLengthSmallerThanHeader totalLength headerLength))
          else if hbytes : bytes.length < totalLength then some (.error (.truncatedPacket totalLength bytes.length))
          else (internetChecksum (bytes.take headerLength)).map fun checksum =>
            if checksum ≠ 0 then .error .invalidHeaderChecksum
            else .ok {
              bytes := bytes.take totalLength
              headerLength := headerLength
              minimum := by
                have hwords := mt UInt8.lt_iff_toNat_lt.mpr hminimum
                change ¬ ihlWords.toNat < 5 at hwords
                show 20 ≤ ihlWords.toNat * 4
                omega
              within := by
                rw [List.length_take]
                omega }

variable (packet : Packet)

def totalLength : ℕ := packet.bytes.length
def dscpEcn : UInt8 := packet.bytes.getD 1 0
def identification : UInt16 := readU16 packet.bytes 4
def flagsFragmentOffset : UInt16 := readU16 packet.bytes 6
def dontFragment : Bool := packet.flagsFragmentOffset &&& flagDontFragment ≠ 0
def moreFragments : Bool := packet.flagsFragmentOffset &&& flagMoreFragments ≠ 0
def fragmentOffset : UInt16 := packet.flagsFragmentOffset &&& fragmentOffsetMask
def isFragmented : Bool := packet.moreFragments || packet.fragmentOffset ≠ 0
def ttl : UInt8 := packet.bytes.getD 8 0
def protocol : UInt8 := packet.bytes.getD 9 0
def headerChecksum : UInt16 := readU16 packet.bytes 10
def source : Address := readAddress packet.bytes 12
def destination : Address := readAddress packet.bytes 16
def options : List UInt8 := (packet.bytes.take packet.headerLength).drop minimumHeaderLength
def payload : List UInt8 := packet.bytes.drop packet.headerLength

/-- The fields, as the encoder takes them. -/
def header : Header where
  dscpEcn := packet.dscpEcn
  identification := packet.identification
  flagsFragmentOffset := packet.flagsFragmentOffset
  ttl := packet.ttl
  protocol := packet.protocol
  source := packet.source
  destination := packet.destination

end Packet

/-- The header of an encoded packet, with its checksum. -/
def headerOctets (header : Header) (totalLength : ℕ) (checksum : UInt16) : List UInt8 :=
  let length := UInt16.ofNat totalLength
  [version <<< 4 ||| minimumIhlWords, header.dscpEcn, high length, low length,
    high header.identification, low header.identification,
    high header.flagsFragmentOffset, low header.flagsFragmentOffset, header.ttl, header.protocol] ++
    [high checksum, low checksum] ++ (header.source.octets ++ header.destination.octets)

def encodePacket (header : Header) (payload : List UInt8) (available : ℕ) : Option (Except EncodeError (List UInt8)) :=
  let totalLength := minimumHeaderLength + payload.length
  if 65535 < totalLength then some (.error (.packetTooLong totalLength))
  else if available < totalLength then some (.error (.outputTooSmall totalLength available))
  else if header.flagsFragmentOffset &&& flagReserved ≠ 0 then some (.error .reservedFlagSet)
  else (internetChecksum (headerOctets header totalLength 0)).map fun checksum =>
    .ok (headerOctets header totalLength checksum ++ payload)

/-! ### What is parsed -/

section Parse

variable {bytes : List UInt8} {packet : Packet}

/-- The length of the header, as the first octet says. -/
def declaredHeaderLength (bytes : List UInt8) : ℕ := (bytes.getD 0 0 &&& 0x0f).toNat * 4

def declaredTotalLength (bytes : List UInt8) : ℕ := (readU16 bytes 2).toNat

/-- **What a packet has to be.** -/
structure Valid (bytes : List UInt8) : Prop where
  minimum : minimumHeaderLength ≤ bytes.length
  version : bytes.getD 0 0 >>> 4 = version
  words : minimumHeaderLength ≤ declaredHeaderLength bytes
  total : declaredHeaderLength bytes ≤ declaredTotalLength bytes
  within : declaredTotalLength bytes ≤ bytes.length
  checksum : fold 65535 (wordSum (bytes.take (declaredHeaderLength bytes))) = 65535

lemma declaredHeaderLength_le (bytes : List UInt8) : declaredHeaderLength bytes ≤ 60 := by
  have hle : (bytes.getD 0 0 &&& 0x0f).toNat ≤ 15 := by
    rw [UInt8.toNat_and]
    exact Nat.and_le_right
  unfold declaredHeaderLength
  omega

/-- The parser never panics. -/
lemma headerChecksum_eq (bytes : List UInt8) : ∃ checksum,
    internetChecksum (bytes.take (declaredHeaderLength bytes)) = some checksum ∧
      (checksum = 0 ↔ fold 65535 (wordSum (bytes.take (declaredHeaderLength bytes))) = 65535) := by
  have hheader := declaredHeaderLength_le bytes
  have hlength := List.length_take_le (declaredHeaderLength bytes) bytes
  have hsum := wordSum_le (bytes.take (declaredHeaderLength bytes))
  have hfold := fold_le (m := 65535) (n := wordSum (bytes.take (declaredHeaderLength bytes))) (by omega)
  obtain ⟨checksum, hchecksum, hvalue⟩ :=
    internetChecksum_eq (bytes.take (declaredHeaderLength bytes)) (by omega)
  refine ⟨checksum, hchecksum, ?_⟩
  rw [← UInt16.toNat_inj, hvalue]
  show _ = 0 ↔ _
  omega

/-- **The parser accepts the valid packets**, and refuses the others with an error. -/
theorem parse_spec (bytes : List UInt8) :
    (Valid bytes → ∃ packet, Packet.parse bytes = some (.ok packet) ∧
      packet.bytes = bytes.take (declaredTotalLength bytes) ∧ packet.headerLength = declaredHeaderLength bytes) ∧
    (¬ Valid bytes → ∃ error, Packet.parse bytes = some (.error error)) := by
  obtain ⟨checksum, hchecksum, hzero⟩ := headerChecksum_eq bytes
  have hwords : bytes.getD 0 0 &&& 0x0f < minimumIhlWords ↔ declaredHeaderLength bytes < minimumHeaderLength := by
    rw [UInt8.lt_iff_toNat_lt]
    show _ < 5 ↔ (bytes.getD 0 0 &&& 0x0f).toNat * 4 < 20
    omega
  unfold Packet.parse
  dsimp only
  by_cases hminimum : bytes.length < minimumHeaderLength
  · rw [if_pos hminimum]
    exact ⟨fun h => absurd h.minimum (by omega), fun _ => ⟨_, rfl⟩⟩
  rw [if_neg hminimum]
  by_cases hversion : bytes.getD 0 0 >>> 4 ≠ version
  · rw [if_pos hversion]
    exact ⟨fun h => absurd h.version hversion, fun _ => ⟨_, rfl⟩⟩
  rw [if_neg hversion]
  by_cases hihl : bytes.getD 0 0 &&& 0x0f < minimumIhlWords
  · rw [dif_pos hihl]
    exact ⟨fun h => absurd h.words (Nat.not_le.mpr (hwords.mp hihl)), fun _ => ⟨_, rfl⟩⟩
  rw [dif_neg hihl]
  have hlong : minimumHeaderLength ≤ declaredHeaderLength bytes := Nat.not_lt.mp (mt hwords.mpr hihl)
  -- From here on the declared lengths stand as the parser reads them.
  by_cases hheader : bytes.length < (bytes.getD 0 0 &&& 0x0f).toNat * 4
  · rw [if_pos hheader]
    exact ⟨fun h => absurd (h.total.trans h.within) (Nat.not_le.mpr hheader), fun _ => ⟨_, rfl⟩⟩
  rw [if_neg hheader]
  by_cases htotal : (readU16 bytes 2).toNat < (bytes.getD 0 0 &&& 0x0f).toNat * 4
  · rw [dif_pos htotal]
    exact ⟨fun h => absurd h.total (Nat.not_le.mpr htotal), fun _ => ⟨_, rfl⟩⟩
  rw [dif_neg htotal]
  by_cases hwithin : bytes.length < (readU16 bytes 2).toNat
  · rw [dif_pos hwithin]
    exact ⟨fun h => absurd h.within (Nat.not_le.mpr hwithin), fun _ => ⟨_, rfl⟩⟩
  rw [dif_neg hwithin]
  unfold declaredHeaderLength at hchecksum
  rw [hchecksum]
  by_cases hsum : checksum = 0
  · refine ⟨fun _ => ⟨_, congrArg some (if_neg (not_not_intro hsum)), rfl, rfl⟩, fun hnot => ?_⟩
    exact absurd ⟨Nat.not_lt.mp hminimum, not_not.mp hversion, hlong, Nat.not_lt.mp htotal, Nat.not_lt.mp hwithin,
      hzero.mp hsum⟩ hnot
  · refine ⟨fun h => absurd (hzero.mpr h.checksum) hsum, fun _ => ⟨_, congrArg some (if_pos hsum)⟩⟩

/-- What is accepted is valid, and is cut to its length. -/
lemma valid_of_parse (hparse : Packet.parse bytes = some (.ok packet)) : Valid bytes ∧
    packet.bytes = bytes.take (declaredTotalLength bytes) ∧ packet.headerLength = declaredHeaderLength bytes := by
  obtain ⟨hok, herror⟩ := parse_spec bytes
  by_cases hvalid : Valid bytes
  · obtain ⟨packet', hparse', hfields⟩ := hok hvalid
    rw [hparse] at hparse'
    cases hparse'
    exact ⟨hvalid, hfields⟩
  · obtain ⟨error, hfails⟩ := herror hvalid
    rw [hfails] at hparse
    cases hparse

end Parse

/-! ### What is encoded -/

section Encode

variable {header : Header} {payload packet : List UInt8} {available : ℕ}

lemma length_headerOctets (header : Header) (totalLength : ℕ) (checksum : UInt16) :
    (headerOctets header totalLength checksum).length = 20 := rfl

lemma first_headerOctets (header : Header) (totalLength : ℕ) (checksum : UInt16) (payload : List UInt8) :
    (headerOctets header totalLength checksum ++ payload).getD 0 0 = 0x45 := by
  show version <<< 4 ||| minimumIhlWords = 0x45
  decide

/-- An encoded packet is its header, whose sum is the word of ones, and the payload. -/
lemma encodePacket_ok (h : encodePacket header payload available = some (.ok packet)) : ∃ checksum,
    packet = headerOctets header (20 + payload.length) checksum ++ payload ∧ 20 + payload.length ≤ 65535 ∧
      fold 65535 (wordSum (headerOctets header (20 + payload.length) checksum)) = 65535 := by
  have hsum := wordSum_le (headerOctets header (20 + payload.length) 0)
  rw [length_headerOctets] at hsum
  obtain ⟨checksum, hchecksum, hvalue⟩ :=
    internetChecksum_eq (headerOctets header (20 + payload.length) 0) (by omega)
  unfold encodePacket at h
  dsimp only at h
  by_cases hlong : 65535 < 20 + payload.length
  · rw [if_pos hlong] at h
    cases h
  rw [if_neg hlong] at h
  by_cases hroom : available < 20 + payload.length
  · rw [if_pos hroom] at h
    cases h
  rw [if_neg hroom] at h
  by_cases hflag : header.flagsFragmentOffset &&& flagReserved ≠ 0
  · rw [if_pos hflag] at h
    cases h
  rw [if_neg hflag, hchecksum] at h
  cases h
  refine ⟨checksum, rfl, by omega, ?_⟩
  have hfilled := fold_filled [version <<< 4 ||| minimumIhlWords, header.dscpEcn,
    high (UInt16.ofNat (20 + payload.length)), low (UInt16.ofNat (20 + payload.length)),
    high header.identification, low header.identification, high header.flagsFragmentOffset,
    low header.flagsFragmentOffset, header.ttl, header.protocol] (header.source.octets ++ header.destination.octets)
    (n := 0) ⟨5, rfl⟩ (by rw [Nat.zero_add]; exact hvalue) (Or.inl (Lib.Octets.high_low_value checksum))
  rwa [Nat.zero_add] at hfilled

/-- **The round trip.** -/
theorem parse_encodePacket (h : encodePacket header payload available = some (.ok packet)) : ∃ parsed,
    Packet.parse packet = some (.ok parsed) ∧ parsed.header = header ∧ parsed.headerLength = 20 ∧
      parsed.bytes = packet ∧ parsed.payload = payload := by
  obtain ⟨checksum, rfl, hlength, hsum⟩ := encodePacket_ok h
  set octets := headerOctets header (20 + payload.length) checksum with hoctets
  have htotal : declaredTotalLength (octets ++ payload) = 20 + payload.length := by
    show (word (high (UInt16.ofNat (20 + payload.length))) (low (UInt16.ofNat (20 + payload.length)))).toNat = _
    rw [Lib.Octets.word_high_low]
    exact UInt16.toNat_ofNat_of_lt' (show _ < 65536 by omega)
  have hheader : declaredHeaderLength (octets ++ payload) = 20 := by
    unfold declaredHeaderLength
    rw [hoctets, first_headerOctets]
    decide
  have hall : (octets ++ payload).length = 20 + payload.length := List.length_append
  have htake : (octets ++ payload).take 20 = octets := List.take_left' rfl
  obtain ⟨parsed, hparse, hbytes, hparsed⟩ := (parse_spec (octets ++ payload)).1
    ⟨show 20 ≤ _ by omega, by rw [hoctets, first_headerOctets]; decide, by rw [hheader], by rw [hheader, htotal]; omega, by rw [htotal, hall],
      by rw [hheader, htake]; exact hsum⟩
  rw [htotal, ← hall, List.take_length] at hbytes
  rw [hheader] at hparsed
  refine ⟨parsed, hparse, ?_, hparsed, hbytes, ?_⟩
  · unfold Packet.header Packet.dscpEcn Packet.identification Packet.flagsFragmentOffset Packet.ttl Packet.protocol
      Packet.source Packet.destination
    rw [hbytes]
    show Header.mk header.dscpEcn (word (high header.identification) (low header.identification))
      (word (high header.flagsFragmentOffset) (low header.flagsFragmentOffset)) header.ttl header.protocol
      header.source header.destination = header
    rw [Lib.Octets.word_high_low, Lib.Octets.word_high_low]
  · unfold Packet.payload
    rw [hbytes, hparsed]
    exact List.drop_left' rfl

/-- **A change of one word of the header**, but the first, is an error. -/
theorem parse_alters (h : encodePacket header payload available = some (.ok packet)) {packet' : List UInt8} {k : ℕ}
    (hpos : 1 ≤ k) (hk : k < 10) (halters : Alters k packet packet') :
    ∃ error, Packet.parse packet' = some (.error error) := by
  obtain ⟨checksum, rfl, hlength, hsum⟩ := encodePacket_ok h
  refine (parse_spec packet').2 fun hvalid => ?_
  have htake : (headerOctets header (20 + payload.length) checksum ++ payload).take 20 =
      headerOctets header (20 + payload.length) checksum := List.take_left' rfl
  have hheader : declaredHeaderLength packet' = 20 := by
    unfold declaredHeaderLength
    rw [halters.others 0 (by omega), first_headerOctets]
    decide
  have hvalidSum := hvalid.checksum
  rw [hheader] at hvalidSum
  have hshort := halters.take (n := 20) (by omega)
  rw [htake] at hshort
  exact fold_of_alters hshort (n := 0) (by rw [Nat.zero_add]; exact hsum) (by rw [Nat.zero_add]; exact hvalidSum)

end Encode

end SnesModem.Rust.Ipv4
