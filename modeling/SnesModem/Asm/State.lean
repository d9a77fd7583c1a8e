import SnesModem.Lib.Octets

/-!
# The variables of the SFC stack

The variables of `ppp/state.asm`, grouped by the source file that owns them.

* A variable that only ever holds `$00` or `$01`, and each bit of a variable of flags, is a `Bool`; a variable
  of states, stages or errors is an enumeration.
* A buffer is followed by the memory behind it.
* Counters that only a host reads are left out, except those of the dispatched packets.
* The memory that the reset code clears is `default`.
-/

namespace SnesModem.Asm

open SnesModem.Lib.Octets

/-! ### Framing and receive -/

inductive Event where
  | none | frame | fcsError | invalid | overflow | carrierLost
  deriving DecidableEq, Repr, Inhabited

inductive InvalidReason where
  | none | tooShort | escapeBeforeFlag
  deriving DecidableEq, Repr, Inhabited

/-- The variables of `framing.asm`, with the frame that it has completed. -/
structure Decoder where
  synchronized : Bool
  escaped : Bool
  overflowed : Bool
  fcs : UInt16
  length : UInt16
  lastEvent : Event
  lastInvalidReason : InvalidReason
  lastFrameLength : UInt16
  lastProtocol : UInt16
  frameBuffer : Buffer
  deriving Inhabited

/-- The variables of `receive.asm`. -/
structure Receive where
  enabled : Bool
  active : Bool
  frameReady : Bool
  carrierLineIndex : ℕ
  decoder : Decoder
  deriving Inhabited

/-! ### The encoder -/

inductive TransmitStage where
  | idle | openingFlag | frame | fcsLow | fcsHigh | closingFlag | complete
  deriving DecidableEq, Repr, Inhabited

/-- The variables of `transmit.asm`. -/
structure Transmit where
  active : Bool
  stage : TransmitStage
  escapeSecond : Bool
  length : UInt16
  position : UInt16
  fcs : UInt16
  logicalByte : UInt8
  buffer : Buffer
  deriving Inhabited

/-! ### LCP -/

inductive LcpState where
  | closed | stopped | closing | requestSent | ackReceived | ackSent | opened
  deriving DecidableEq, Repr, Inhabited

inductive LcpAction where
  | none | configureRequest | configureAck | configureNak | configureReject | terminateAck | protocolReject
  | codeReject | echoReply | terminateRequest
  deriving DecidableEq, Repr, Inhabited

inductive LcpError where
  | none | wrongProtocol | truncatedHeader | invalidPacketLength | truncatedPacket | truncatedOption
  | invalidOptionLength | optionOverrun | invalidResponse | notConfiguring | malformedEchoRequest
  | unexpectedMagicNumber
  deriving DecidableEq, Repr, Inhabited

/-- `PPP_LCP_PEER_FLAG_*`. -/
structure PeerFlags where
  mru : Bool
  accm : Bool
  pap : Bool
  magicNumber : Bool
  chapMd5 : Bool
  deriving DecidableEq, Repr, Inhabited

/-- The variables of the `lcp*.asm` files.  `optionRam` is the memory from `pppLcpOptionSeen` on: the two
option maps of LCP, those of IPCP, and what lies behind. -/
structure Lcp where
  state : LcpState
  lastCode : UInt8
  lastIdentifier : UInt8
  lastError : LcpError
  requestIdentifier : UInt8
  restartRemaining : UInt8
  restartDeadline : UInt16
  timerActive : Bool
  pendingAction : LcpAction
  deferredRequest : Bool
  administrativeOpen : Bool
  packetLength : UInt16
  packetEnd : UInt16
  peerFlags : PeerFlags
  peerMru : UInt16
  peerAccm : UInt32
  peerMagic : UInt32
  localMagic : UInt32
  magicRequest : Bool
  magicAcknowledged : Bool
  rejectIdentifier : UInt8
  receiveCount : UInt32
  optionRam : Buffer
  deriving Inhabited

/-! ### PAP and CHAP -/

inductive PapState where
  | inactive | requestPending | waitingForReply | opened | failed
  deriving DecidableEq, Repr, Inhabited

inductive PapError where
  | none | wrongProtocol | truncatedHeader | invalidPacketLength | truncatedPacket | unsupportedCode
  | identifierMismatch | messageLengthMissing | messageTruncated | trailingData
  deriving DecidableEq, Repr, Inhabited

inductive PapFailure where
  | none | rejected | retryLimit | credentialsMissing
  deriving DecidableEq, Repr, Inhabited

/-- The variables of `pap.asm`.  The only pending action is `PPP_PAP_ACTION_AUTHENTICATE_REQUEST`. -/
structure Pap where
  state : PapState
  lastCode : UInt8
  lastIdentifier : UInt8
  lastError : PapError
  requestIdentifier : UInt8
  nextIdentifier : UInt8
  restartRemaining : UInt8
  requestPending : Bool
  timerActive : Bool
  failure : PapFailure
  packetLength : UInt16
  restartDeadline : UInt16
  receiveCount : UInt32
  deriving Inhabited

abbrev maximumPeerIdLength : ℕ := 8
abbrev minimumPasswordLength : ℕ := 6
abbrev maximumPasswordLength : ℕ := 24

/-- A staged peer id. -/
structure PeerId where
  octets : List UInt8
  length_pos : 0 < octets.length
  length_le : octets.length ≤ maximumPeerIdLength
  deriving DecidableEq

/-- A staged password. -/
structure Password where
  octets : List UInt8
  le_length : minimumPasswordLength ≤ octets.length
  length_le : octets.length ≤ maximumPasswordLength
  deriving DecidableEq

/-- The variables of `papCredentials.asm`.  A field is present exactly when its flag is set; its length is zero
otherwise. -/
structure Credentials where
  transient : Bool
  peerId : Option PeerId
  password : Option Password
  deriving Inhabited

inductive ChapState where
  | inactive | waitingChallenge | responsePending | waitingResult | opened | failed
  deriving DecidableEq, Repr, Inhabited

inductive ChapError where
  | none | wrongProtocol | truncatedHeader | invalidPacketLength | truncatedPacket | unsupportedCode
  | identifierMismatch | valueLengthMissing | valueTruncated | challengeTooLong
  deriving DecidableEq, Repr, Inhabited

inductive ChapFailure where
  | none | rejected | credentialsMissing
  deriving DecidableEq, Repr, Inhabited

/-- The variables of `chap.asm`.  The digest and the input of MD5 do not outlive the build of a Response. -/
structure Chap where
  state : ChapState
  lastCode : UInt8
  lastIdentifier : UInt8
  lastError : ChapError
  responseIdentifier : UInt8
  failure : ChapFailure
  challengeLength : UInt8
  peerNameLength : UInt8
  packetLength : UInt16
  receiveCount : UInt32
  challenge : Buffer
  deriving Inhabited

/-! ### IPCP -/

inductive IpcpState where
  | closed | stopped | requestSent | ackReceived | ackSent | opened
  deriving DecidableEq, Repr, Inhabited

inductive IpcpAction where
  | none | configureRequest | configureAck | configureNak | configureReject
  deriving DecidableEq, Repr, Inhabited

inductive IpcpError where
  | none | wrongProtocol | truncatedHeader | invalidPacketLength | truncatedPacket | truncatedOption
  | invalidOptionLength | optionOverrun | invalidResponse | notConfiguring
  deriving DecidableEq, Repr, Inhabited

/-- An address, octet by octet. -/
structure Address where
  a : UInt8
  b : UInt8
  c : UInt8
  d : UInt8
  deriving DecidableEq, Repr, Inhabited

/-- `PPP_IPCP_FLAG_*`. -/
structure IpcpFlags where
  requestAddress : Bool
  localValid : Bool
  peerValid : Bool
  requestPrimaryDns : Bool
  primaryDnsValid : Bool
  requestSecondaryDns : Bool
  secondaryDnsValid : Bool
  deriving DecidableEq, Repr, Inhabited

/-- The variables of `ipcp.asm`; its option maps lie behind those of LCP. -/
structure Ipcp where
  state : IpcpState
  lastCode : UInt8
  lastIdentifier : UInt8
  lastError : IpcpError
  requestIdentifier : UInt8
  restartRemaining : UInt8
  pendingAction : IpcpAction
  timerActive : Bool
  deferredRequest : Bool
  packetLength : UInt16
  packetEnd : UInt16
  restartDeadline : UInt16
  receiveCount : UInt32
  localAddress : Address
  peerAddress : Address
  primaryDnsAddress : Address
  secondaryDnsAddress : Address
  flags : IpcpFlags
  deriving Inhabited

/-! ### Constants -/

abbrev defaultMru : UInt16 := 1500
abbrev frameOffset : UInt16 := 4
abbrev headerLength : UInt16 := 4
abbrev minimumFrameLength : UInt16 := 8
abbrev maximumTransmitFrameLength : UInt16 := 1504

/-- `bpl` after a deadline was subtracted from `frameCounter`. -/
def expired (now : UInt32) (deadline : UInt16) : Bool := (now.toUInt16 - deadline).toNat < 2 ^ 15

abbrev protocolIp : UInt16 := 0x0021
abbrev protocolIpcp : UInt16 := 0x8021
abbrev protocolLcp : UInt16 := 0xc021
abbrev protocolPap : UInt16 := 0xc023
abbrev protocolChap : UInt16 := 0xc223

end SnesModem.Asm
