import SnesModem.Rust.ControlPacket

/-!
# The reference CHAP codec

* `Packet.parse`: the codec of `ControlPacket` at the errors of `chap.rs`, and then the Code;
* `Packet.valuePacket`: the value and the name of a Challenge or a Response.
-/

namespace SnesModem.Rust.Chap

open SnesModem.Rust.ControlPacket (ParseErrors parsePacket)

inductive Code where
  | challenge | response | success | failure
  deriving DecidableEq, Repr

def Code.fromOctet (value : UInt8) : Option Code :=
  match value.toNat with
  | 1 => some .challenge
  | 2 => some .response
  | 3 => some .success
  | 4 => some .failure
  | _ => none

inductive ParseError where
  | truncatedHeader | invalidLength | truncatedPacket | unsupportedCode | missingValueLength | truncatedValue
  deriving DecidableEq, Repr

structure Packet where
  code : Code
  identifier : UInt8
  data : List UInt8
  deriving DecidableEq, Repr

structure ValuePacket where
  value : List UInt8
  name : List UInt8
  deriving DecidableEq, Repr

def parseErrors : ParseErrors ParseError where
  headerTruncated _ := .truncatedHeader
  declaredShort _ _ := .invalidLength
  declaredLong _ _ := .truncatedPacket

def Packet.parse (input : List UInt8) : Except ParseError Packet :=
  match parsePacket parseErrors input with
  | .error error => .error error
  | .ok packet =>
    match Code.fromOctet packet.code with
    | none => .error .unsupportedCode
    | some code => .ok { code, identifier := packet.identifier, data := packet.data }

def Packet.valuePacket (packet : Packet) : Except ParseError ValuePacket :=
  match packet.data with
  | [] => .error .missingValueLength
  | length :: rest =>
    if packet.data.length < 1 + length.toNat then .error .truncatedValue
    else .ok { value := rest.take length.toNat, name := rest.drop length.toNat }

lemma Code.fromOctet_eq_challenge_iff {value : UInt8} : Code.fromOctet value = some .challenge ↔ value = 1 := by
  constructor
  · intro h
    apply UInt8.toNat_inj.mp
    unfold Code.fromOctet at h
    split at h <;> first | assumption | cases h
  · rintro rfl
    rfl

example : Packet.parse [1, 7, 0, 7, 1, 0xaa, 0x6e, 0xff] = .ok ⟨.challenge, 7, [1, 0xaa, 0x6e]⟩ := by decide

end SnesModem.Rust.Chap
