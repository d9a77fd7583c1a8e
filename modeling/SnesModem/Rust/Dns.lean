import SnesModem.Lib.Octets
import SnesModem.Lib.Slices

/-!
# `ndm24-ppp/src/dns.rs`

The encoder of A queries and the parser of A responses.  A name is the octets of its string, and what is written to the
output goes through the accesses that panic out of bounds.
-/

namespace SnesModem.Rust.Dns

open SnesModem.Lib SnesModem.Lib.Cpu65816
open SnesModem.Lib.Octets (high low)

abbrev headerLength : ℕ := 12
abbrev typeA : UInt16 := 1
abbrev classIn : UInt16 := 1
abbrev maxLabelLength : ℕ := 63
abbrev maxNameLength : ℕ := 253

abbrev flagResponse : UInt16 := 0x8000
abbrev flagRecursionDesired : UInt16 := 0x0100
abbrev flagTruncated : UInt16 := 0x0200
abbrev opcodeMask : UInt16 := 0x7800
abbrev responseCodeMask : UInt16 := 0x000f

inductive EncodeError where
  | emptyName
  | nameTooLong (length : ℕ)
  | emptyLabel
  | labelTooLong (length : ℕ)
  | nonAscii
  | invalidCharacter (octet : UInt8)
  | outputTooSmall (required available : ℕ)
  deriving DecidableEq, Repr

inductive ParseError where
  | truncated
  | identifierMismatch (expected received : UInt16)
  | notResponse
  | unsupportedOpcode (opcode : UInt8)
  | truncatedResponse
  | responseCode (code : UInt8)
  | noQuestion
  | noAnswer
  | malformedName
  | noIpv4Answer
  deriving DecidableEq, Repr

structure AResponse where
  responseCode : UInt8
  answerCount : UInt16
  address : List UInt8
  deriving DecidableEq, Repr

/-! ### The query -/

/-- `'.'`. -/
abbrev dot : UInt8 := 0x2e

/-- `strip_suffix('.').unwrap_or(name)`. -/
def stripDot (name : List UInt8) : List UInt8 := if name.getLast? = some dot then name.dropLast else name

def isAscii (octet : UInt8) : Bool := octet < 0x80

def isAsciiAlphanumeric (octet : UInt8) : Bool :=
  (0x30 ≤ octet && octet ≤ 0x39) || (0x41 ≤ octet && octet ≤ 0x5a) || (0x61 ≤ octet && octet ≤ 0x7a)

/-- The loop that checks the labels, with `encoded_name_length`. -/
def checkLabels : List (List UInt8) → ℕ → Except EncodeError ℕ
  | [], encodedNameLength => .ok encodedNameLength
  | label :: labels, encodedNameLength =>
    if label = [] then .error .emptyLabel
    else if maxLabelLength < label.length then .error (.labelTooLong label.length)
    else
      match label.find? fun octet => !isAsciiAlphanumeric octet && octet ≠ 0x2d with
      | some octet => .error (.invalidCharacter octet)
      | none => checkLabels labels (encodedNameLength + (1 + label.length))

/-- `write_u16`. -/
def writeU16 (bytes : List UInt8) (offset : ℕ) (value : UInt16) : Option (List UInt8) :=
  Slices.copyFromSlice bytes offset (offset + 2) [high value, low value]

/-- The loop that writes the labels, with `offset`. -/
def writeLabels : List (List UInt8) → List UInt8 → ℕ → Option (List UInt8 × ℕ)
  | [], packet, offset => some (packet, offset)
  | label :: labels, packet, offset => do
    let packet ← Slices.store packet offset (UInt8.ofNat label.length)
    let offset := offset + 1
    let packet ← Slices.copyFromSlice packet offset (offset + label.length) label
    writeLabels labels packet (offset + label.length)

/-- The octets of `packet`, which is `output[..required]`, after all is written. -/
def writeQuery (identifier : UInt16) (labels : List (List UInt8)) (required : ℕ) : Option (List UInt8) := do
  let packet := List.replicate required 0
  let packet ← writeU16 packet 0 identifier
  let packet ← writeU16 packet 2 flagRecursionDesired
  let packet ← writeU16 packet 4 1
  let (packet, offset) ← writeLabels labels packet headerLength
  let packet ← Slices.store packet offset 0
  let offset := offset + 1
  let packet ← writeU16 packet offset typeA
  writeU16 packet (offset + 2) classIn

/-- `encode_a_query`, with the output as it leaves it; `none` is a panic. -/
def encodeAQuery (identifier : UInt16) (name output : List UInt8) : Option (Except EncodeError ℕ × List UInt8) :=
  let name := stripDot name
  if name = [] then some (.error .emptyName, output)
  else if maxNameLength < name.length then some (.error (.nameTooLong name.length), output)
  else if !name.all isAscii then some (.error .nonAscii, output)
  else
    match checkLabels (name.splitOn dot) 1 with
    | .error error => some (.error error, output)
    | .ok encodedNameLength =>
      let required := headerLength + encodedNameLength + 4
      if output.length < required then some (.error (.outputTooSmall required output.length), output)
      else (writeQuery identifier (name.splitOn dot) required).map fun packet => (.ok required, packet ++ output.drop required)

/-! ### The response -/

/-- `read_u16`; an index past the end panics. -/
def readU16 (bytes : List UInt8) (offset : ℕ) : Option UInt16 := do
  let first ← bytes[offset]?
  let second ← bytes[offset + 1]?
  return word first second

/-- `skip_name`. -/
def skipName (bytes : List UInt8) (offset : ℕ) : Except ParseError ℕ :=
  match h : bytes[offset]? with
  | none => .error .truncated
  | some length =>
    if length = 0 then .ok (offset + 1)
    else if length &&& 0xc0 = 0xc0 then
      match bytes[offset + 1]? with
      | none => .error .truncated
      | some second =>
        if bytes.length ≤ (word (length &&& 0x3f) second).toNat then .error .malformedName
        else .ok (offset + 2)
    else if length &&& 0xc0 ≠ 0 ∨ maxLabelLength < length.toNat then .error .malformedName
    else if bytes.length < offset + (1 + length.toNat) then .error .truncated
    else skipName bytes (offset + (1 + length.toNat))
termination_by bytes.length - offset
decreasing_by
  have hlt := (List.getElem?_eq_some_iff.mp h).1
  omega

lemma skipName_of_none {bytes : List UInt8} {offset : ℕ} (h : bytes[offset]? = none) :
    skipName bytes offset = .error .truncated := by
  rw [skipName]
  split
  · rfl
  · rename_i heq
    exact absurd (heq.symm.trans h) nofun

lemma skipName_of_some {bytes : List UInt8} {offset : ℕ} {length : UInt8} (h : bytes[offset]? = some length) :
    skipName bytes offset =
      if length = 0 then .ok (offset + 1)
      else if length &&& 0xc0 = 0xc0 then
        match bytes[offset + 1]? with
        | none => .error .truncated
        | some second =>
          if bytes.length ≤ (word (length &&& 0x3f) second).toNat then .error .malformedName
          else .ok (offset + 2)
      else if length &&& 0xc0 ≠ 0 ∨ maxLabelLength < length.toNat then .error .malformedName
      else if bytes.length < offset + (1 + length.toNat) then .error .truncated
      else skipName bytes (offset + (1 + length.toNat)) := by
  rw [skipName]
  split
  · rename_i heq
    exact absurd (heq.symm.trans h) nofun
  · rename_i heq
    obtain rfl := Option.some.inj (heq.symm.trans h)
    rfl

/-- The loop over the questions. -/
def skipQuestions (bytes : List UInt8) : ℕ → ℕ → Except ParseError ℕ
  | 0, offset => .ok offset
  | count + 1, offset =>
    match skipName bytes offset with
    | .error error => .error error
    | .ok offset =>
      if bytes.length < offset + 4 then .error .truncated
      else skipQuestions bytes count (offset + 4)

/-- The loop over the answers; `none` is a panic. -/
def findAnswer (bytes : List UInt8) (responseCode : UInt8) (answerCount : UInt16) :
    ℕ → ℕ → Option (Except ParseError AResponse)
  | 0, _ => some (.error .noIpv4Answer)
  | count + 1, offset =>
    match skipName bytes offset with
    | .error error => some (.error error)
    | .ok offset =>
      if bytes.length - offset < 10 then some (.error .truncated)
      else do
        let recordType ← readU16 bytes offset
        let recordClass ← readU16 bytes (offset + 2)
        let dataLength ← readU16 bytes (offset + 8)
        if bytes.length - (offset + 10) < dataLength.toNat then some (.error .truncated)
        else if recordType = typeA ∧ recordClass = classIn ∧ dataLength = 4 then
          let first ← bytes[offset + 10]?
          let second ← bytes[offset + 11]?
          let third ← bytes[offset + 12]?
          let fourth ← bytes[offset + 13]?
          some (.ok ⟨responseCode, answerCount, [first, second, third, fourth]⟩)
        else findAnswer bytes responseCode answerCount count (offset + 10 + dataLength.toNat)

/-- `parse_a_response`; `none` is a panic. -/
def parseAResponse (identifier : UInt16) (bytes : List UInt8) : Option (Except ParseError AResponse) :=
  if bytes.length < headerLength then some (.error .truncated)
  else do
    let received ← readU16 bytes 0
    if received ≠ identifier then some (.error (.identifierMismatch identifier received))
    else
      let flags ← readU16 bytes 2
      let opcode := ((flags &&& opcodeMask) >>> 11).toUInt8
      let responseCode := (flags &&& responseCodeMask).toUInt8
      if flags &&& flagResponse = 0 then some (.error .notResponse)
      else if opcode ≠ 0 then some (.error (.unsupportedOpcode opcode))
      else if flags &&& flagTruncated ≠ 0 then some (.error .truncatedResponse)
      else if responseCode ≠ 0 then some (.error (.responseCode responseCode))
      else
        let questionCount ← readU16 bytes 4
        if questionCount = 0 then some (.error .noQuestion)
        else
          let answerCount ← readU16 bytes 6
          if answerCount = 0 then some (.error .noAnswer)
          else
            match skipQuestions bytes questionCount.toNat headerLength with
            | .error error => some (.error error)
            | .ok offset => findAnswer bytes responseCode answerCount answerCount.toNat offset

example : (encodeAQuery 0x4e44 [0x61, 0x2e] (List.replicate 20 0xcc)).map Prod.fst = some (.ok 19) := by decide +kernel

example : skipName [3, 97, 98, 99, 0] 0 = .ok 5 := by decide +kernel

end SnesModem.Rust.Dns
