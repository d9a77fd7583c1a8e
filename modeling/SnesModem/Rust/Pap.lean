import SnesModem.Rust.ControlPacket

/-!
# The reference PAP codec and client

* A request is encoded into an output of a given size; what is written there is the result.
* `Option` is the check of a method: `none` stands for a panic, that of `new` on a maximum of zero and that of a
  subtraction which underflows.
* `encodeAuthenticateRequest_parses`: the peer reads back the fields of a request.
-/

namespace SnesModem.Rust.Pap

open SnesModem.Lib SnesModem.Rust.ControlPacket

/-! ### Packets -/

inductive Code where
  | authenticateRequest | authenticateAck | authenticateNak
  deriving DecidableEq, Repr

/-- `code as u8`. -/
def Code.octet : Code → UInt8
  | .authenticateRequest => 1
  | .authenticateAck => 2
  | .authenticateNak => 3

def Code.fromOctet (value : UInt8) : Option Code :=
  match value.toNat with
  | 1 => some .authenticateRequest
  | 2 => some .authenticateAck
  | 3 => some .authenticateNak
  | _ => none

lemma Code.fromOctet_eq_some_iff {value : UInt8} {code : Code} : Code.fromOctet value = some code ↔ value = code.octet := by
  constructor
  · intro h
    apply UInt8.toNat_inj.mp
    unfold Code.fromOctet at h
    split at h <;> cases h <;> assumption
  · rintro rfl
    cases code <;> rfl

inductive ParseError where
  | headerTruncated (actualLength : ℕ)
  | invalidLength (declaredLength availableLength : ℕ)
  deriving DecidableEq, Repr

inductive DataParseError where
  | wrongCode (actual : UInt8)
  | peerIdLengthMissing
  | peerIdTruncated (declaredLength availableLength : ℕ)
  | passwordLengthMissing
  | passwordTruncated (declaredLength availableLength : ℕ)
  | messageLengthMissing
  | messageTruncated (declaredLength availableLength : ℕ)
  | trailingData (trailingLength : ℕ)
  deriving DecidableEq, Repr

inductive Field where
  | peerId | password | message
  deriving DecidableEq, Repr

inductive EncodeError where
  | fieldTooLong (field : Field) (length : ℕ)
  | invalidReplyCode (actual : Code)
  | packetTooLong (dataLength : ℕ)
  | outputTooSmall (required available : ℕ)
  deriving DecidableEq, Repr

def parseErrors : ParseErrors ParseError where
  headerTruncated := .headerTruncated
  declaredShort := .invalidLength
  declaredLong := .invalidLength

def Packet.parse (input : List UInt8) : Except ParseError Packet := parsePacket parseErrors input

def knownCode (packet : Packet) : Option Code := Code.fromOctet packet.code

/-- A field behind its length octet, and what follows it: `split_first` and `split_at`. -/
def splitField (missing : DataParseError) (truncated : ℕ → ℕ → DataParseError) :
    List UInt8 → Except DataParseError (List UInt8 × List UInt8)
  | [] => .error missing
  | length :: remaining =>
    if remaining.length < length.toNat then .error (truncated length.toNat remaining.length)
    else .ok (remaining.take length.toNat, remaining.drop length.toNat)

/-- `authenticate_request`: the peer id and the password. -/
def authenticateRequest (packet : Packet) : Except DataParseError (List UInt8 × List UInt8) :=
  if knownCode packet ≠ some .authenticateRequest then .error (.wrongCode packet.code)
  else match splitField .peerIdLengthMissing .peerIdTruncated packet.data with
    | .error error => .error error
    | .ok (peerId, remaining) =>
      match splitField .passwordLengthMissing .passwordTruncated remaining with
      | .error error => .error error
      | .ok (password, trailing) =>
        if trailing ≠ [] then .error (.trailingData trailing.length) else .ok (peerId, password)

def replyMessage (packet : Packet) : Except DataParseError (List UInt8) :=
  if knownCode packet ≠ some .authenticateAck ∧ knownCode packet ≠ some .authenticateNak then
    .error (.wrongCode packet.code)
  else match splitField .messageLengthMissing .messageTruncated packet.data with
    | .error error => .error error
    | .ok (message, trailing) =>
      if trailing ≠ [] then .error (.trailingData trailing.length) else .ok message

/-- A reply is well-formed exactly when its message fills the packet. -/
lemma replyMessage_ok_iff {packet : Packet}
    (hcode : knownCode packet = some .authenticateAck ∨ knownCode packet = some .authenticateNak) :
    (∃ message, replyMessage packet = .ok message) ↔
      ∃ length message, packet.data = length :: message ∧ message.length = length.toNat := by
  unfold replyMessage
  rw [if_neg (by tauto)]
  cases packet.data with
  | nil =>
    refine iff_of_false ?_ ?_
    · rintro ⟨message, hmessage⟩
      cases hmessage
    · rintro ⟨length, message, hdata, -⟩
      cases hdata
  | cons length remaining =>
    have hright : (∃ length' message, length :: remaining = length' :: message ∧ message.length = length'.toNat) ↔
        remaining.length = length.toNat := by simp
    rw [hright]
    unfold splitField
    dsimp only
    by_cases htruncated : remaining.length < length.toNat
    · rw [if_pos htruncated]
      refine iff_of_false ?_ htruncated.ne
      rintro ⟨message, hmessage⟩
      cases hmessage
    · rw [if_neg htruncated]
      dsimp only
      by_cases htrailing : remaining.drop length.toNat ≠ []
      · rw [if_pos htrailing]
        rw [ne_eq, List.drop_eq_nil_iff] at htrailing
        refine iff_of_false ?_ (by omega)
        rintro ⟨message, hmessage⟩
        cases hmessage
      · rw [if_neg htrailing]
        rw [ne_eq, not_not, List.drop_eq_nil_iff] at htrailing
        exact iff_of_true ⟨_, rfl⟩ (by omega)

/-- `packet_length`, with the packet of that length. -/
def encodeData (code : Code) (identifier : UInt8) (data : List UInt8) (available : ℕ) :
    Except EncodeError (List UInt8) :=
  match encodePacket EncodeError.packetTooLong code.octet identifier data with
  | .error error => .error error
  | .ok packet => if available < packet.length then .error (.outputTooSmall packet.length available) else .ok packet

/-- `encode_authenticate_request`, into an output of `available` octets. -/
def encodeAuthenticateRequest (identifier : UInt8) (peerId password : List UInt8) (available : ℕ) :
    Except EncodeError (List UInt8) :=
  if 255 < peerId.length then .error (.fieldTooLong .peerId peerId.length)
  else if 255 < password.length then .error (.fieldTooLong .password password.length)
  else encodeData .authenticateRequest identifier
    (UInt8.ofNat peerId.length :: peerId ++ UInt8.ofNat password.length :: password) available

/-! ### The client -/

inductive State where
  | inactive | requestPending | waitingForReply | opened | failed
  deriving DecidableEq, Repr

inductive Failure where
  | rejected | retryLimitExceeded
  deriving DecidableEq, Repr

inductive IgnoreReason where
  | inactive
  | packet (error : ParseError)
  | unsupportedCode (actual : UInt8)
  | identifierMismatch (expected actual : UInt8)
  | data (error : DataParseError)
  deriving DecidableEq, Repr

inductive ReceiveOutcome where
  | authenticated
  | rejected
  | ignored (reason : IgnoreReason)
  deriving DecidableEq, Repr

abbrev defaultMaxAuthenticate : UInt8 := 10

structure Client where
  state : State
  nextIdentifier : UInt8
  currentIdentifier : UInt8
  attemptsRemaining : UInt8
  maxAuthenticate : UInt8
  failure : Option Failure
  deriving DecidableEq, Repr

namespace Client

def new (maxAuthenticate : UInt8) : Option Client :=
  if 0 < maxAuthenticate then some {
    state := .inactive
    nextIdentifier := 1
    currentIdentifier := 0
    attemptsRemaining := 0
    maxAuthenticate := maxAuthenticate
    failure := none }
  else none

def lowerUp (c : Client) (papRequired : Bool) : Client :=
  { c with
    attemptsRemaining := c.maxAuthenticate
    failure := none
    state := if papRequired then .requestPending else .opened }

def lowerDown (c : Client) : Client :=
  { c with state := .inactive, currentIdentifier := 0, attemptsRemaining := 0, failure := none }

def buildPendingRequest (c : Client) (peerId password : List UInt8) (available : ℕ) :
    Except EncodeError (Option (List UInt8)) :=
  if c.state ≠ .requestPending then .ok none
  else (encodeAuthenticateRequest c.nextIdentifier peerId password available).map some

def requestSent (c : Client) : Option (Client × Bool) :=
  if c.state ≠ .requestPending then some (c, false)
  else if c.attemptsRemaining = 0 then none
  else some ({ c with
    currentIdentifier := c.nextIdentifier
    nextIdentifier := c.nextIdentifier + 1
    attemptsRemaining := c.attemptsRemaining - 1
    state := .waitingForReply }, true)

def timeout (c : Client) : Client × Bool :=
  if c.state ≠ .waitingForReply then (c, false)
  else if c.attemptsRemaining = 0 then ({ c with state := .failed, failure := some .retryLimitExceeded }, true)
  else ({ c with state := .requestPending }, true)

def receive (c : Client) (input : List UInt8) : Client × ReceiveOutcome :=
  if c.state ≠ .waitingForReply then (c, .ignored .inactive)
  else match Packet.parse input with
    | .error error => (c, .ignored (.packet error))
    | .ok packet =>
      if knownCode packet ≠ some .authenticateAck ∧ knownCode packet ≠ some .authenticateNak then
        (c, .ignored (.unsupportedCode packet.code))
      else if packet.identifier ≠ c.currentIdentifier then
        (c, .ignored (.identifierMismatch c.currentIdentifier packet.identifier))
      else match replyMessage packet with
        | .error error => (c, .ignored (.data error))
        | .ok _ =>
          if knownCode packet = some .authenticateAck then ({ c with state := .opened }, .authenticated)
          else ({ c with state := .failed, failure := some .rejected }, .rejected)

end Client

/-! ### What is encoded is read back -/

section RoundTrip

lemma splitField_cons (missing : DataParseError) (truncated : ℕ → ℕ → DataParseError) {field : List UInt8}
    (hlength : field.length ≤ 255) (trailing : List UInt8) :
    splitField missing truncated (UInt8.ofNat field.length :: (field ++ trailing)) = .ok (field, trailing) := by
  have hoctet : (UInt8.ofNat field.length).toNat = field.length := UInt8.toNat_ofNat_of_lt' (by
    have hsize : UInt8.size = 256 := rfl
    omega)
  unfold splitField
  dsimp only
  rw [hoctet, if_neg (by simp), List.take_left, List.drop_left]

lemma parse_encodeData {code : Code} {identifier : UInt8} {data packet : List UInt8} {available : ℕ}
    (h : encodeData code identifier data available = .ok packet) (padding : List UInt8) :
    Packet.parse (packet ++ padding) = .ok ⟨code.octet, identifier, data⟩ := by
  unfold encodeData at h
  split at h
  · cases h
  · rename_i octets hencode
    split_ifs at h
    cases h
    exact parsePacket_encodePacket parseErrors _ hencode padding

/-- **A request is read back** by the peer: its identifier, the peer id and the password. -/
theorem encodeAuthenticateRequest_parses {identifier : UInt8} {peerId password packet : List UInt8} {available : ℕ}
    (h : encodeAuthenticateRequest identifier peerId password available = .ok packet) (padding : List UInt8) :
    ∃ parsed, Packet.parse (packet ++ padding) = .ok parsed ∧ parsed.identifier = identifier ∧
      authenticateRequest parsed = .ok (peerId, password) := by
  unfold encodeAuthenticateRequest at h
  split_ifs at h with hpeer hpassword
  refine ⟨_, parse_encodeData h padding, rfl, ?_⟩
  have hfirst := splitField_cons .peerIdLengthMissing .peerIdTruncated (Nat.not_lt.mp hpeer) (UInt8.ofNat password.length :: password)
  have hsecond := splitField_cons .passwordLengthMissing .passwordTruncated (Nat.not_lt.mp hpassword) []
  rw [List.append_nil] at hsecond
  unfold authenticateRequest
  rw [if_neg (by simp [knownCode, Code.octet, Code.fromOctet]), List.cons_append, hfirst]
  dsimp only
  rw [hsecond]
  rfl

end RoundTrip

end SnesModem.Rust.Pap
