import SnesModem.Rust.Ipv4

/-!
# `ndm24-ppp/src/icmp.rs`

The Echo messages.
-/

namespace SnesModem.Rust.Icmp

open SnesModem.Lib.OnesComplement SnesModem.Lib.InternetChecksum
open SnesModem.Lib.Octets (high low)
open SnesModem.Rust.Ipv4 (readU16 internetChecksum)

abbrev typeEchoReply : UInt8 := 0
abbrev typeEchoRequest : UInt8 := 8
abbrev echoCode : UInt8 := 0
abbrev echoHeaderLength : ℕ := 8

inductive EchoKind where
  | reply | request
  deriving DecidableEq, Repr

def EchoKind.icmpType : EchoKind → UInt8
  | .reply => typeEchoReply
  | .request => typeEchoRequest

/-- The kind of a type octet. -/
def EchoKind.ofType (type : UInt8) : Option EchoKind :=
  if type = typeEchoReply then some .reply else if type = typeEchoRequest then some .request else none

inductive ParseError where
  | truncated (available : ℕ)
  | unsupportedType (type : UInt8)
  | nonZeroCode (code : UInt8)
  | invalidChecksum
  deriving DecidableEq, Repr

inductive EncodeError where
  | outputTooSmall (required available : ℕ)
  | messageTooLong (length : ℕ)
  deriving DecidableEq, Repr

structure EchoPacket where
  bytes : List UInt8
  kind : EchoKind
  header : echoHeaderLength ≤ bytes.length
  deriving DecidableEq, Repr

namespace EchoPacket

def parse (bytes : List UInt8) : Option (Except ParseError EchoPacket) :=
  if hheader : bytes.length < echoHeaderLength then some (.error (.truncated bytes.length))
  else
    match EchoKind.ofType (bytes.getD 0 0) with
    | none => some (.error (.unsupportedType (bytes.getD 0 0)))
    | some kind =>
      if bytes.getD 1 0 ≠ echoCode then some (.error (.nonZeroCode (bytes.getD 1 0)))
      else (internetChecksum bytes).map fun checksum =>
        if checksum ≠ 0 then .error .invalidChecksum else .ok ⟨bytes, kind, Nat.not_lt.mp hheader⟩

variable (packet : EchoPacket)

def checksum : UInt16 := readU16 packet.bytes 2
def identifier : UInt16 := readU16 packet.bytes 4
def sequence : UInt16 := readU16 packet.bytes 6
def payload : List UInt8 := packet.bytes.drop echoHeaderLength

end EchoPacket

/-- An encoded message, with its checksum. -/
def echoOctets (kind : EchoKind) (identifier sequence checksum : UInt16) (payload : List UInt8) : List UInt8 :=
  [kind.icmpType, echoCode] ++ [high checksum, low checksum] ++
    ([high identifier, low identifier, high sequence, low sequence] ++ payload)

def encodeEcho (kind : EchoKind) (identifier sequence : UInt16) (payload : List UInt8) (available : ℕ) :
    Option (Except EncodeError (List UInt8)) :=
  let length := echoHeaderLength + payload.length
  if 65535 < length then some (.error (.messageTooLong length))
  else if available < length then some (.error (.outputTooSmall length available))
  else (internetChecksum (echoOctets kind identifier sequence 0 payload)).map fun checksum =>
    .ok (echoOctets kind identifier sequence checksum payload)

def encodeEchoReply (request : EchoPacket) (available : ℕ) : Option (Except EncodeError (List UInt8)) :=
  encodeEcho .reply request.identifier request.sequence request.payload available

/-! ### What is parsed -/

/-- **What a message has to be.** -/
structure Valid (bytes : List UInt8) (kind : EchoKind) : Prop where
  header : echoHeaderLength ≤ bytes.length
  kind : bytes.getD 0 0 = kind.icmpType
  code : bytes.getD 1 0 = echoCode
  checksum : fold 65535 (wordSum bytes) = 65535

lemma EchoKind.ofType_eq_some_iff {type : UInt8} {kind : EchoKind} :
    EchoKind.ofType type = some kind ↔ type = kind.icmpType := by
  unfold EchoKind.ofType
  constructor
  · intro h
    split_ifs at h
    · cases h
      assumption
    · cases h
      assumption
  · rintro rfl
    cases kind <;> rfl

/-- **The parser accepts the valid messages** of a packet, and refuses the others with an error. -/
theorem parse_spec {bytes : List UInt8} (h : bytes.length ≤ 65535) :
    (∀ kind, Valid bytes kind → ∃ packet, EchoPacket.parse bytes = some (.ok packet) ∧
      packet.bytes = bytes ∧ packet.kind = kind) ∧
    ((¬ ∃ kind, Valid bytes kind) → ∃ error, EchoPacket.parse bytes = some (.error error)) := by
  have hsum := wordSum_le bytes
  have hfold := fold_le (m := 65535) (n := wordSum bytes) (by omega)
  obtain ⟨checksum, hchecksum, hvalue⟩ := Ipv4.internetChecksum_eq bytes (by omega)
  have hzero : checksum = 0 ↔ fold 65535 (wordSum bytes) = 65535 := by
    rw [← UInt16.toNat_inj, hvalue]
    show _ = 0 ↔ _
    omega
  unfold EchoPacket.parse
  by_cases hheader : bytes.length < echoHeaderLength
  · rw [dif_pos hheader]
    exact ⟨fun kind hvalid => absurd hvalid.header (Nat.not_le.mpr hheader), fun _ => ⟨_, rfl⟩⟩
  rw [dif_neg hheader]
  cases htype : EchoKind.ofType (bytes.getD 0 0) with
  | none =>
    refine ⟨fun kind hvalid => ?_, fun _ => ⟨_, rfl⟩⟩
    rw [EchoKind.ofType_eq_some_iff.mpr hvalid.kind] at htype
    cases htype
  | some kind =>
    have hkind := EchoKind.ofType_eq_some_iff.mp htype
    dsimp only
    by_cases hcode : bytes.getD 1 0 ≠ echoCode
    · rw [if_pos hcode]
      exact ⟨fun kind hvalid => absurd hvalid.code hcode, fun _ => ⟨_, rfl⟩⟩
    rw [if_neg hcode, hchecksum]
    by_cases hok : checksum = 0
    · refine ⟨fun kind' hvalid => ⟨_, congrArg some (if_neg (not_not_intro hok)), rfl, ?_⟩, fun hnot => ?_⟩
      · have htype' := EchoKind.ofType_eq_some_iff.mpr hvalid.kind
        rw [htype] at htype'
        exact Option.some.inj htype'
      · exact absurd ⟨kind, Nat.not_lt.mp hheader, hkind, not_not.mp hcode, hzero.mp hok⟩ hnot
    · refine ⟨fun kind hvalid => absurd (hzero.mpr hvalid.checksum) hok, fun _ => ⟨_, congrArg some (if_pos hok)⟩⟩

/-- What is accepted is valid. -/
lemma valid_of_parse {bytes : List UInt8} (h : bytes.length ≤ 65535) {packet : EchoPacket}
    (hparse : EchoPacket.parse bytes = some (.ok packet)) : Valid bytes packet.kind ∧ packet.bytes = bytes := by
  obtain ⟨hok, herror⟩ := parse_spec h
  by_cases hvalid : ∃ kind, Valid bytes kind
  · obtain ⟨kind, hkind⟩ := hvalid
    obtain ⟨packet', hparse', hbytes, rfl⟩ := hok kind hkind
    rw [hparse] at hparse'
    cases hparse'
    exact ⟨hkind, hbytes⟩
  · obtain ⟨error, hfails⟩ := herror hvalid
    rw [hfails] at hparse
    cases hparse

/-- A valid message is the encoding of its fields. -/
lemma Valid.octets {bytes : List UInt8} {kind : EchoKind} (h : Valid bytes kind) :
    bytes = echoOctets kind (readU16 bytes 4) (readU16 bytes 6) (readU16 bytes 2) (bytes.drop echoHeaderLength) := by
  obtain ⟨hheader, htype, hcode, -⟩ := h
  match bytes, hheader with
  | type :: code :: a :: b :: c :: d :: e :: f :: payload, _ =>
    simp only [List.getD_cons_zero, List.getD_cons_succ] at htype hcode
    simp only [echoOctets, readU16, List.getD_cons_zero, List.getD_cons_succ, Lib.Octets.high_word, Lib.Octets.low_word,
      htype, hcode, List.drop_succ_cons, List.drop_zero, List.cons_append, List.nil_append]

/-! ### What is encoded -/

section Encode

variable {kind : EchoKind} {identifier sequence : UInt16} {payload message : List UInt8} {available : ℕ}

lemma length_echoOctets (kind : EchoKind) (identifier sequence checksum : UInt16) (payload : List UInt8) :
    (echoOctets kind identifier sequence checksum payload).length = 8 + payload.length := by
  unfold echoOctets
  simp only [List.length_append, List.length_cons, List.length_nil]
  omega

/-- An encoded message sums to the word of ones. -/
lemma encodeEcho_ok (h : encodeEcho kind identifier sequence payload available = some (.ok message)) : ∃ checksum,
    message = echoOctets kind identifier sequence checksum payload ∧ 8 + payload.length ≤ 65535 ∧
      fold 65535 (wordSum (echoOctets kind identifier sequence checksum payload)) = 65535 := by
  unfold encodeEcho at h
  dsimp only at h
  by_cases hlong : 65535 < 8 + payload.length
  · rw [if_pos hlong] at h
    cases h
  rw [if_neg hlong] at h
  by_cases hroom : available < 8 + payload.length
  · rw [if_pos hroom] at h
    cases h
  have hbound := wordSum_le (echoOctets kind identifier sequence 0 payload)
  rw [length_echoOctets] at hbound
  obtain ⟨checksum, hchecksum, hvalue⟩ :=
    Ipv4.internetChecksum_eq (echoOctets kind identifier sequence 0 payload) (by omega)
  rw [if_neg hroom, hchecksum] at h
  cases h
  have hfilled := fold_filled [kind.icmpType, echoCode]
    ([high identifier, low identifier, high sequence, low sequence] ++ payload) (n := 0) ⟨1, rfl⟩
    (by rw [Nat.zero_add]; exact hvalue) (Or.inl (Lib.Octets.high_low_value checksum))
  rw [Nat.zero_add] at hfilled
  exact ⟨checksum, rfl, by omega, hfilled⟩

/-- **The round trip.** -/
theorem parse_encodeEcho (h : encodeEcho kind identifier sequence payload available = some (.ok message)) :
    ∃ parsed, EchoPacket.parse message = some (.ok parsed) ∧ parsed.bytes = message ∧ parsed.kind = kind ∧
      parsed.identifier = identifier ∧ parsed.sequence = sequence ∧ parsed.payload = payload := by
  obtain ⟨checksum, rfl, hlength, hsum⟩ := encodeEcho_ok h
  have hall := length_echoOctets kind identifier sequence checksum payload
  obtain ⟨parsed, hparse, hbytes, hkind⟩ := (parse_spec (by omega)).1 kind
    (show Valid (echoOctets kind identifier sequence checksum payload) kind from
      ⟨show 8 ≤ _ by omega, rfl, rfl, hsum⟩)
  refine ⟨parsed, hparse, hbytes, hkind, ?_, ?_, ?_⟩
  · unfold EchoPacket.identifier
    rw [hbytes]
    exact Lib.Octets.word_high_low identifier
  · unfold EchoPacket.sequence
    rw [hbytes]
    exact Lib.Octets.word_high_low sequence
  · unfold EchoPacket.payload
    rw [hbytes]
    rfl

/-- **A change of one word** is an error. -/
theorem parse_alters (h : encodeEcho kind identifier sequence payload available = some (.ok message))
    {message' : List UInt8} {k : ℕ} (halters : Alters k message message') :
    ∃ error, EchoPacket.parse message' = some (.error error) := by
  obtain ⟨checksum, rfl, hlength, hsum⟩ := encodeEcho_ok h
  have hall := length_echoOctets kind identifier sequence checksum payload
  have hshort : message'.length ≤ 65535 := by
    rw [halters.length]
    omega
  refine (parse_spec hshort).2 fun ⟨kind', hvalid⟩ => ?_
  exact fold_of_alters halters (n := 0) (by rw [Nat.zero_add]; exact hsum) (by rw [Nat.zero_add]; exact hvalid.checksum)

end Encode

end SnesModem.Rust.Icmp
