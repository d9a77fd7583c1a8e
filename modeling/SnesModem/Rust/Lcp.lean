import SnesModem.Rust.ControlPacket

/-!
# The reference LCP codec

The codes, the option types and the errors of the Link Control Protocol in the reference crate; the packets
themselves are those of `ControlPacket`.
-/

namespace SnesModem.Rust.Lcp

open SnesModem.Lib SnesModem.Rust.ControlPacket

inductive Code where
  | configureRequest | configureAck | configureNak | configureReject | terminateRequest | terminateAck
  | codeReject | protocolReject | echoRequest | echoReply | discardRequest
  deriving DecidableEq, Repr

/-- `code as u8`. -/
def Code.octet : Code → UInt8
  | .configureRequest => 1
  | .configureAck => 2
  | .configureNak => 3
  | .configureReject => 4
  | .terminateRequest => 5
  | .terminateAck => 6
  | .codeReject => 7
  | .protocolReject => 8
  | .echoRequest => 9
  | .echoReply => 10
  | .discardRequest => 11

def Code.fromOctet (value : UInt8) : Option Code :=
  match value.toNat with
  | 1 => some .configureRequest
  | 2 => some .configureAck
  | 3 => some .configureNak
  | 4 => some .configureReject
  | 5 => some .terminateRequest
  | 6 => some .terminateAck
  | 7 => some .codeReject
  | 8 => some .protocolReject
  | 9 => some .echoRequest
  | 10 => some .echoReply
  | 11 => some .discardRequest
  | _ => none

inductive OptionType where
  | maximumReceiveUnit | asyncControlCharacterMap | authenticationProtocol | qualityProtocol | magicNumber
  | protocolFieldCompression | addressControlFieldCompression
  deriving DecidableEq, Repr

/-- `option_type as u8`. -/
def OptionType.octet : OptionType → UInt8
  | .maximumReceiveUnit => 1
  | .asyncControlCharacterMap => 2
  | .authenticationProtocol => 3
  | .qualityProtocol => 4
  | .magicNumber => 5
  | .protocolFieldCompression => 7
  | .addressControlFieldCompression => 8

def OptionType.fromOctet (value : UInt8) : Option OptionType :=
  match value.toNat with
  | 1 => some .maximumReceiveUnit
  | 2 => some .asyncControlCharacterMap
  | 3 => some .authenticationProtocol
  | 4 => some .qualityProtocol
  | 5 => some .magicNumber
  | 7 => some .protocolFieldCompression
  | 8 => some .addressControlFieldCompression
  | _ => none

lemma Code.octet_of_fromOctet {value : UInt8} {code : Code} (h : Code.fromOctet value = some code) :
    value = code.octet := by
  apply UInt8.toNat_inj.mp
  unfold Code.fromOctet at h
  split at h <;> cases h <;> assumption

@[simp] lemma Code.fromOctet_octet (code : Code) : Code.fromOctet code.octet = some code := by
  cases code <;> rfl

lemma OptionType.octet_of_fromOctet {value : UInt8} {type : OptionType}
    (h : OptionType.fromOctet value = some type) : value = type.octet := by
  apply UInt8.toNat_inj.mp
  unfold OptionType.fromOctet at h
  split at h <;> cases h <;> assumption

@[simp] lemma OptionType.fromOctet_octet (type : OptionType) : OptionType.fromOctet type.octet = some type := by
  cases type <;> rfl

inductive ParseError where
  | headerTruncated (actualLength : ℕ)
  | invalidLength (declaredLength availableLength : ℕ)
  deriving DecidableEq, Repr

def parseErrors : ParseErrors ParseError where
  headerTruncated := .headerTruncated
  declaredShort := .invalidLength
  declaredLong := .invalidLength

def Packet.parse (input : List UInt8) : Except ParseError Packet := parsePacket parseErrors input

def knownCode (packet : Packet) : Option Code := Code.fromOctet packet.code

/-- Configure-Ack is valid only when Identifier and Options exactly match the Configure-Request that it
acknowledges. -/
def exactlyAcknowledges (packet : Packet) (identifier : UInt8) (options : List UInt8) : Bool :=
  knownCode packet == some .configureAck && packet.identifier == identifier && packet.data == options

inductive EncodeError where
  | dataTooLong (dataLength : ℕ)
  deriving DecidableEq, Repr

inductive OptionParseError where
  | headerTruncated (remainingLength : ℕ)
  | invalidLength (optionType : UInt8) (declaredLength remainingLength : ℕ)
  deriving DecidableEq, Repr

def optionParseError : Tlv.Fault → OptionParseError
  | .headerTruncated remaining => .headerTruncated remaining
  | .invalidLength type declared remaining => .invalidLength type declared remaining

def knownType (option : ConfigurationOption) : Option OptionType := OptionType.fromOctet option.type

end SnesModem.Rust.Lcp
