import SnesModem.Rust.Ipv4

/-!
# `ndm24-ppp/src/udp.rs`

The datagram, with the checksum over the addresses of its packet.  The accumulator is that of `ipv4.rs`.
-/

namespace SnesModem.Rust.Udp

open SnesModem.Lib.Cpu65816 SnesModem.Lib.OnesComplement SnesModem.Lib.InternetChecksum
open SnesModem.Lib.Octets (high low)
open SnesModem.Rust.Ipv4 (Address readU16 addWord addBytes foldSum)

abbrev headerLength : ℕ := 8

inductive ParseError where
  | truncatedHeader (available : ℕ)
  | invalidLength (length : ℕ)
  | truncatedDatagram (length available : ℕ)
  | invalidChecksum
  deriving DecidableEq, Repr

inductive EncodeError where
  | outputTooSmall (required available : ℕ)
  | datagramTooLong (length : ℕ)
  deriving DecidableEq, Repr

structure Datagram where
  bytes : List UInt8
  checksumPresent : Bool
  header : headerLength ≤ bytes.length
  deriving DecidableEq, Repr

def udpChecksumSum (source destination : Address) (datagram : List UInt8) : Option UInt16 := do
  let sum ← addBytes 0 source.octets
  let sum ← addBytes sum destination.octets
  let sum ← addWord sum (Ipv4.protocolUdp.toUInt32)
  let sum ← addWord sum (UInt32.ofNat datagram.length)
  let sum ← addBytes sum datagram
  return foldSum sum

namespace Datagram

def parse (source destination : Address) (bytes : List UInt8) : Option (Except ParseError Datagram) :=
  if bytes.length < headerLength then some (.error (.truncatedHeader bytes.length))
  else
    let length := (readU16 bytes 4).toNat
    if hheader : length < headerLength then some (.error (.invalidLength length))
    else if hbytes : bytes.length < length then some (.error (.truncatedDatagram length bytes.length))
    else
      let datagram (checksumPresent : Bool) : Datagram := {
        bytes := bytes.take length
        checksumPresent := checksumPresent
        header := by
          rw [List.length_take]
          omega }
      if readU16 (bytes.take length) 6 ≠ 0 then
        (udpChecksumSum source destination (bytes.take length)).map fun sum =>
          if sum ≠ 0xffff then .error .invalidChecksum else .ok (datagram true)
      else some (.ok (datagram false))

variable (datagram : Datagram)

def sourcePort : UInt16 := readU16 datagram.bytes 0
def destinationPort : UInt16 := readU16 datagram.bytes 2
def length : ℕ := datagram.bytes.length
def checksum : UInt16 := readU16 datagram.bytes 6
def payload : List UInt8 := datagram.bytes.drop headerLength

end Datagram

/-- An encoded datagram, with its checksum. -/
def datagramOctets (sourcePort destinationPort checksum : UInt16) (payload : List UInt8) : List UInt8 :=
  let length := UInt16.ofNat (headerLength + payload.length)
  [high sourcePort, low sourcePort, high destinationPort, low destinationPort, high length, low length] ++
    [high checksum, low checksum] ++ payload

def encodeDatagram (sourceAddress destinationAddress : Address) (sourcePort destinationPort : UInt16)
    (payload : List UInt8) (available : ℕ) : Option (Except EncodeError (List UInt8)) :=
  let length := headerLength + payload.length
  if 65535 < length then some (.error (.datagramTooLong length))
  else if available < length then some (.error (.outputTooSmall length available))
  else
    (udpChecksumSum sourceAddress destinationAddress (datagramOctets sourcePort destinationPort 0 payload)).map fun sum =>
      let checksum := if ~~~ sum = 0 then 0xffff else ~~~ sum
      .ok (datagramOctets sourcePort destinationPort checksum payload)

/-! ### What is parsed -/

/-- What the addresses, the protocol and the length add to the sum. -/
def pseudoSum (source destination : Address) (length : ℕ) : ℕ :=
  wordSum source.octets + wordSum destination.octets + Ipv4.protocolUdp.toNat + length

section Parse

lemma wordSum_address (address : Address) : wordSum address.octets ≤ 131070 := by
  have hsum := wordSum_le address.octets
  have hlength : address.octets.length = 4 := rfl
  have ha := address.a.toNat_lt
  have hb := address.b.toNat_lt
  have hc := address.c.toNat_lt
  have hd := address.d.toNat_lt
  show 256 * address.a.toNat + address.b.toNat + (256 * address.c.toNat + address.d.toNat + 0) ≤ _
  omega

/-- **The accumulator does not overflow** for a datagram. -/
theorem udpChecksumSum_eq (source destination : Address) {bytes : List UInt8} (h : bytes.length ≤ 65535) : ∃ sum,
    udpChecksumSum source destination bytes = some sum ∧
      sum.toNat = fold 65535 (pseudoSum source destination bytes.length + wordSum bytes) := by
  have hsource := wordSum_address source
  have hdestination := wordSum_address destination
  have hbytes := wordSum_le bytes
  have h₁ := Ipv4.addBytes_ofNat (n := 0) source.octets (by omega)
  rw [Nat.zero_add] at h₁
  have h₂ := Ipv4.addBytes_ofNat (n := wordSum source.octets) destination.octets (by omega)
  have h₃ := Ipv4.addWord_ofNat (n := wordSum source.octets + wordSum destination.octets) (m := 17) (by omega)
  have h₄ := Ipv4.addWord_ofNat (n := wordSum source.octets + wordSum destination.octets + 17) (m := bytes.length)
    (by omega)
  have h₅ := Ipv4.addBytes_ofNat (n := wordSum source.octets + wordSum destination.octets + 17 + bytes.length) bytes
    (by omega)
  refine ⟨foldSum (UInt32.ofNat (wordSum source.octets + wordSum destination.octets + 17 + bytes.length +
    wordSum bytes)), ?_, ?_⟩
  · unfold udpChecksumSum
    rw [show (0 : UInt32) = UInt32.ofNat 0 from rfl, show Ipv4.protocolUdp.toUInt32 = UInt32.ofNat 17 from rfl]
    simp only [h₁, h₂, h₃, h₄, h₅, Option.bind_eq_bind, Option.bind_some, Option.pure_def]
  · rw [Ipv4.toNat_foldSum, UInt32.toNat_ofNat_of_lt' (show _ < 2 ^ 32 by omega)]
    rfl

def declaredLength (bytes : List UInt8) : ℕ := (readU16 bytes 4).toNat

/-- **What a datagram has to be.** -/
structure Valid (source destination : Address) (bytes : List UInt8) : Prop where
  header : headerLength ≤ bytes.length
  length : headerLength ≤ declaredLength bytes
  within : declaredLength bytes ≤ bytes.length
  checksum : readU16 bytes 6 ≠ 0 → fold 65535 (pseudoSum source destination (declaredLength bytes) +
    wordSum (bytes.take (declaredLength bytes))) = 65535

/-- What lies before the end stays. -/
lemma readU16_take {n offset : ℕ} (h : offset + 2 ≤ n) (bytes : List UInt8) :
    readU16 (bytes.take n) offset = readU16 bytes offset := by
  have hget (i : ℕ) (hi : i < n) : (bytes.take n).getD i 0 = bytes.getD i 0 := by
    rw [List.getD_eq_getElem?_getD, List.getD_eq_getElem?_getD, List.getElem?_take_of_lt hi]
  unfold readU16
  rw [hget _ (by omega), hget _ (by omega)]

/-- **The parser accepts the valid datagrams**, and refuses the others with an error. -/
theorem parse_spec (source destination : Address) (bytes : List UInt8) :
    (Valid source destination bytes → ∃ datagram, Datagram.parse source destination bytes = some (.ok datagram) ∧
      datagram.bytes = bytes.take (declaredLength bytes) ∧
      datagram.checksumPresent = decide (readU16 bytes 6 ≠ 0)) ∧
    (¬ Valid source destination bytes → ∃ error, Datagram.parse source destination bytes = some (.error error)) := by
  unfold Datagram.parse
  dsimp only
  by_cases hheader : bytes.length < headerLength
  · rw [if_pos hheader]
    exact ⟨fun h => absurd h.header (Nat.not_le.mpr hheader), fun _ => ⟨_, rfl⟩⟩
  rw [if_neg hheader]
  by_cases hlength : (readU16 bytes 4).toNat < headerLength
  · rw [dif_pos hlength]
    exact ⟨fun h => absurd h.length (Nat.not_le.mpr hlength), fun _ => ⟨_, rfl⟩⟩
  rw [dif_neg hlength]
  by_cases hwithin : bytes.length < (readU16 bytes 4).toNat
  · rw [dif_pos hwithin]
    exact ⟨fun h => absurd h.within (Nat.not_le.mpr hwithin), fun _ => ⟨_, rfl⟩⟩
  rw [dif_neg hwithin]
  have hsame : readU16 (bytes.take (readU16 bytes 4).toNat) 6 = readU16 bytes 6 := by
    refine readU16_take ?_ bytes
    have : ¬ (readU16 bytes 4).toNat < 8 := hlength
    omega
  have htake : (bytes.take (readU16 bytes 4).toNat).length = declaredLength bytes := by
    rw [List.length_take]
    exact min_eq_left (Nat.not_lt.mp hwithin)
  have hvalid (hsum : readU16 bytes 6 ≠ 0 → fold 65535 (pseudoSum source destination (declaredLength bytes) +
      wordSum (bytes.take (declaredLength bytes))) = 65535) : Valid source destination bytes :=
    ⟨Nat.not_lt.mp hheader, Nat.not_lt.mp hlength, Nat.not_lt.mp hwithin, hsum⟩
  rw [hsame]
  by_cases hchecksum : readU16 bytes 6 ≠ 0
  · have hshort : (bytes.take (readU16 bytes 4).toNat).length ≤ 65535 := by
      have hlt := (readU16 bytes 4).toNat_lt
      rw [htake]
      exact Nat.le_of_lt_succ hlt
    obtain ⟨sum, hsum, hvalue⟩ := udpChecksumSum_eq source destination hshort
    have hones : sum = 0xffff ↔ fold 65535 (pseudoSum source destination (declaredLength bytes) +
        wordSum (bytes.take (declaredLength bytes))) = 65535 := by
      rw [← UInt16.toNat_inj, hvalue, htake]
      rfl
    rw [if_pos hchecksum, hsum]
    by_cases hok : sum = 0xffff
    · refine ⟨fun _ => ⟨_, congrArg some (if_neg (not_not_intro hok)), rfl, (decide_eq_true hchecksum).symm⟩,
        fun hnot => ?_⟩
      exact absurd (hvalid fun _ => hones.mp hok) hnot
    · refine ⟨fun h => absurd (hones.mpr (h.checksum hchecksum)) hok, fun _ => ⟨_, congrArg some (if_pos hok)⟩⟩
  · rw [if_neg hchecksum]
    refine ⟨fun _ => ⟨_, rfl, rfl, (decide_eq_false hchecksum).symm⟩, fun hnot => ?_⟩
    exact absurd (hvalid fun h => absurd h hchecksum) hnot

/-- What is accepted is valid, and is cut to its length. -/
lemma valid_of_parse {source destination : Address} {bytes : List UInt8} {datagram : Datagram}
    (hparse : Datagram.parse source destination bytes = some (.ok datagram)) : Valid source destination bytes ∧
    datagram.bytes = bytes.take (declaredLength bytes) ∧ datagram.checksumPresent = decide (readU16 bytes 6 ≠ 0) := by
  obtain ⟨hok, herror⟩ := parse_spec source destination bytes
  by_cases hvalid : Valid source destination bytes
  · obtain ⟨datagram', hparse', hfields⟩ := hok hvalid
    rw [hparse] at hparse'
    cases hparse'
    exact ⟨hvalid, hfields⟩
  · obtain ⟨error, hfails⟩ := herror hvalid
    rw [hfails] at hparse
    cases hparse

end Parse

/-! ### What is encoded -/

section Encode

variable {source destination : Address} {sourcePort destinationPort : UInt16} {payload datagram : List UInt8}
  {available : ℕ}

lemma length_datagramOctets (sourcePort destinationPort checksum : UInt16) (payload : List UInt8) :
    (datagramOctets sourcePort destinationPort checksum payload).length = 8 + payload.length := by
  unfold datagramOctets
  rw [List.length_append]
  rfl

/-- An encoded datagram has a checksum that is not zero, and with its addresses sums to the word of ones. -/
lemma encodeDatagram_ok
    (h : encodeDatagram source destination sourcePort destinationPort payload available = some (.ok datagram)) :
    ∃ checksum, checksum ≠ 0 ∧ datagram = datagramOctets sourcePort destinationPort checksum payload ∧
      8 + payload.length ≤ 65535 ∧
      fold 65535 (pseudoSum source destination (8 + payload.length) +
        wordSum (datagramOctets sourcePort destinationPort checksum payload)) = 65535 := by
  unfold encodeDatagram at h
  dsimp only at h
  by_cases hlong : 65535 < 8 + payload.length
  · rw [if_pos hlong] at h
    cases h
  rw [if_neg hlong] at h
  by_cases hroom : available < 8 + payload.length
  · rw [if_pos hroom] at h
    cases h
  have hlength := length_datagramOctets sourcePort destinationPort 0 payload
  obtain ⟨sum, hsum, hvalue⟩ := udpChecksumSum_eq source destination
    (show (datagramOctets sourcePort destinationPort 0 payload).length ≤ 65535 by omega)
  rw [hlength] at hvalue
  have hnot : (~~~ sum).toNat = 65535 - sum.toNat := UInt16.toNat_not sum
  rw [if_neg hroom, hsum] at h
  cases h
  have hfilled (checksum : UInt16)
      (hchecksum : checksum.toNat = (~~~ sum).toNat ∨ (~~~ sum).toNat = 0 ∧ checksum.toNat = 65535) :
      fold 65535 (pseudoSum source destination (8 + payload.length) +
        wordSum (datagramOctets sourcePort destinationPort checksum payload)) = 65535 := by
    rw [← Lib.Octets.high_low_value checksum] at hchecksum
    exact fold_filled [high sourcePort, low sourcePort, high destinationPort, low destinationPort,
      high (UInt16.ofNat (8 + payload.length)), low (UInt16.ofNat (8 + payload.length))] payload ⟨3, rfl⟩
      (hnot.trans (congrArg (65535 - ·) hvalue)) hchecksum
  by_cases hzero : ~~~ sum = 0
  · rw [if_pos hzero]
    exact ⟨0xffff, by decide, rfl, by omega, hfilled _ (Or.inr ⟨congrArg UInt16.toNat hzero, rfl⟩)⟩
  · rw [if_neg hzero]
    exact ⟨_, hzero, rfl, by omega, hfilled _ (Or.inl rfl)⟩

lemma readU16_datagramOctets (sourcePort destinationPort checksum : UInt16) (payload : List UInt8) :
    readU16 (datagramOctets sourcePort destinationPort checksum payload) 0 = sourcePort ∧
    readU16 (datagramOctets sourcePort destinationPort checksum payload) 2 = destinationPort ∧
    readU16 (datagramOctets sourcePort destinationPort checksum payload) 4 = UInt16.ofNat (8 + payload.length) ∧
    readU16 (datagramOctets sourcePort destinationPort checksum payload) 6 = checksum :=
  ⟨Lib.Octets.word_high_low _, Lib.Octets.word_high_low _, Lib.Octets.word_high_low _, Lib.Octets.word_high_low _⟩

/-- **The round trip**, with a checksum that is not zero. -/
theorem parse_encodeDatagram
    (h : encodeDatagram source destination sourcePort destinationPort payload available = some (.ok datagram)) :
    ∃ parsed, Datagram.parse source destination datagram = some (.ok parsed) ∧ parsed.bytes = datagram ∧
      parsed.sourcePort = sourcePort ∧ parsed.destinationPort = destinationPort ∧ parsed.payload = payload ∧
      parsed.checksum ≠ 0 ∧ parsed.checksumPresent = true := by
  obtain ⟨checksum, hchecksum, rfl, hlength, hsum⟩ := encodeDatagram_ok h
  obtain ⟨hsource, hdestination, hdeclared, hfield⟩ :=
    readU16_datagramOctets sourcePort destinationPort checksum payload
  have hall := length_datagramOctets sourcePort destinationPort checksum payload
  have htotal : declaredLength (datagramOctets sourcePort destinationPort checksum payload) = 8 + payload.length := by
    unfold declaredLength
    rw [hdeclared]
    exact UInt16.toNat_ofNat_of_lt' (show _ < 65536 by omega)
  have htake : (datagramOctets sourcePort destinationPort checksum payload).take (8 + payload.length) =
      datagramOctets sourcePort destinationPort checksum payload := by rw [← hall, List.take_length]
  obtain ⟨parsed, hparse, hbytes, hpresent⟩ := (parse_spec source destination _).1
    (show Valid source destination (datagramOctets sourcePort destinationPort checksum payload) from
      ⟨show 8 ≤ _ by omega, show 8 ≤ _ by omega, by omega, fun _ => by rw [htotal, htake]; exact hsum⟩)
  rw [htotal, htake] at hbytes
  refine ⟨parsed, hparse, hbytes, ?_, ?_, ?_, ?_, ?_⟩
  · unfold Datagram.sourcePort
    rw [hbytes, hsource]
  · unfold Datagram.destinationPort
    rw [hbytes, hdestination]
  · unfold Datagram.payload
    rw [hbytes]
    exact List.drop_left' rfl
  · unfold Datagram.checksum
    rwa [hbytes, hfield]
  · rw [hpresent, hfield]
    exact decide_eq_true hchecksum

/-- **A change of one word**, but the length, is an error, unless it clears the checksum. -/
theorem parse_alters
    (h : encodeDatagram source destination sourcePort destinationPort payload available = some (.ok datagram))
    {datagram' : List UInt8} {k : ℕ} (hk : k ≠ 2) (hcleared : k = 3 → readU16 datagram' 6 ≠ 0)
    (halters : Alters k datagram datagram') :
    ∃ error, Datagram.parse source destination datagram' = some (.error error) := by
  obtain ⟨checksum, hchecksum, rfl, hlength, hsum⟩ := encodeDatagram_ok h
  obtain ⟨-, -, hdeclared, hfield⟩ := readU16_datagramOctets sourcePort destinationPort checksum payload
  have hall := length_datagramOctets sourcePort destinationPort checksum payload
  have hsame (i : ℕ) (hi : 2 * k ≠ i) (heven : i % 2 = 0) : readU16 datagram' i =
      readU16 (datagramOctets sourcePort destinationPort checksum payload) i := by
    unfold readU16
    rw [halters.others i (by omega), halters.others (i + 1) (by omega)]
  refine (parse_spec source destination datagram').2 fun hvalid => ?_
  have htotal : declaredLength datagram' = 8 + payload.length := by
    unfold declaredLength
    rw [hsame 4 (by omega) rfl, hdeclared]
    exact UInt16.toNat_ofNat_of_lt' (show _ < 65536 by omega)
  have hpresent : readU16 datagram' 6 ≠ 0 := by
    by_cases hthree : k = 3
    · exact hcleared hthree
    · rwa [hsame 6 (by omega) rfl, hfield]
  have hvalidSum := hvalid.checksum hpresent
  rw [htotal, ← hall, ← halters.length, List.take_length, halters.length, hall] at hvalidSum
  exact fold_of_alters halters hsum hvalidSum

end Encode

end SnesModem.Rust.Udp
