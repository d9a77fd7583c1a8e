import SnesModem.Asm.Md5
import SnesModem.Asm.Pap

/-!
# `ppp/chap.asm`

The CHAP client: the received packets, and the Response to a Challenge.
-/

namespace SnesModem.Asm

open SnesModem.Lib.Cpu65816 SnesModem.Lib.Octets

abbrev chapHeaderLength : UInt16 := 4
abbrev maximumChallengeLength : ℕ := 64
abbrev md5ValueLength : UInt8 := 16

/-- `pppChapInitialize`; the work buffers stay. -/
def pppChapInitialize (h : Chap) : Chap := { (default : Chap) with challenge := h.challenge }

/-- `pppChapScrubWorkBuffers`. -/
def pppChapScrubWorkBuffers (h : Chap) : Chap :=
  { h with challenge := write h.challenge 0 (List.replicate maximumChallengeLength 0) }

def pppChapLowerUp (flags : PeerFlags) (c : Credentials) (h : Chap) : Chap :=
  if h.state ≠ .inactive then h
  else
    let h := { h with failure := .none }
    -- The state of a configuration without CHAP is that of an authenticated one.
    if !flags.chapMd5 then { h with state := .opened }
    else if pppPapCredentialsReady c then { h with state := .waitingChallenge }
    else { h with state := .failed, failure := .credentialsMissing }

/-- `pppChapLowerDown`, without the credentials, which it clears. -/
def pppChapLowerDown (h : Chap) : Chap :=
  pppChapScrubWorkBuffers { h with
    state := .inactive
    responseIdentifier := 0
    failure := .none
    challengeLength := 0
    peerNameLength := 0
    packetLength := 0 }

/-- `pppAuthenticationReady`: whether the carry is clear. -/
def pppAuthenticationReady (flags : PeerFlags) (p : Pap) (h : Chap) : Bool :=
  if flags.chapMd5 then h.state = .opened else p.state = .opened

/-! ### Received packets -/

/-- `pppChapReturnError`. -/
def chapReturnError (h : Chap) (error : ChapError) : Chap := { h with lastError := error }

/-- The states in which a Challenge is accepted. -/
def ChapState.acceptsChallenge : ChapState → Bool
  | .waitingChallenge | .waitingResult | .opened => true
  | _ => false

/-- `@challenge`. -/
def receiveChallenge (d : Decoder) (h : Chap) : Chap :=
  let length := d.frameBuffer 8
  if !h.state.acceptsChallenge then chapReturnError h .unsupportedCode
  else if h.packetLength < chapHeaderLength + 1 then chapReturnError h .valueLengthMissing
  else if length = 0 then chapReturnError h .valueTruncated
  else if maximumChallengeLength + 1 ≤ length.toNat then chapReturnError h .challengeTooLong
  else
    let h := { h with challengeLength := length }
    if h.packetLength < length.toUInt16 + (chapHeaderLength + 1) then chapReturnError h .valueTruncated
    else { h with
      peerNameLength := low (h.packetLength - (chapHeaderLength + 1)) - length
      challenge := write h.challenge 0 (read d.frameBuffer 9 length.toNat)
      lastError := .none
      state := .responsePending }

/-- `@result`. -/
def receiveResult (c : Credentials) (h : Chap) : Chap × Credentials :=
  if h.state ≠ .waitingResult then (chapReturnError h .unsupportedCode, c)
  else if h.lastIdentifier ≠ h.responseIdentifier then (chapReturnError h .identifierMismatch, c)
  else
    let h := { h with lastError := .none }
    let h := if h.lastCode = 3 then { h with state := .opened, failure := .none }
      else { h with state := .failed, failure := .rejected }
    (h, pppPapCredentialsClearSensitive c)

/-- `@code`. -/
def dispatchChap (d : Decoder) (c : Credentials) (h : Chap) : Chap × Credentials :=
  match h.lastCode.toNat with
  | 1 => (receiveChallenge d h, c)
  | 3 | 4 => receiveResult c h
  | _ => (chapReturnError h .unsupportedCode, c)

def pppChapReceiveFrame (d : Decoder) (c : Credentials) (h : Chap) : Chap × Credentials :=
  -- The last identifier is that of every packet, not of the Challenge to be answered.
  let h := { h with
    receiveCount := h.receiveCount + 1
    lastCode := 0
    lastIdentifier := 0
    peerNameLength := 0
    packetLength := 0 }
  if d.lastProtocol ≠ protocolChap then (chapReturnError h .wrongProtocol, c)
  else if d.lastFrameLength < minimumFrameLength then (chapReturnError h .truncatedHeader, c)
  else
    let h := { h with
      lastCode := d.frameBuffer 4
      lastIdentifier := d.frameBuffer 5
      packetLength := word (d.frameBuffer 6) (d.frameBuffer 7) }
    if h.packetLength < chapHeaderLength then (chapReturnError h .invalidPacketLength, c)
    else if d.lastFrameLength < h.packetLength + frameOffset then (chapReturnError h .truncatedPacket, c)
    else dispatchChap d c h

/-! ### The Response -/

/-- The frame of a Response. -/
def responseFrame (identifier : UInt8) (digest : List UInt8) (peerId : PeerId) : List UInt8 :=
  let length := UInt8.ofNat peerId.octets.length + (5 + md5ValueLength)
  [0xff, 0x03, 0xc2, 0x23, 2, identifier, 0, length, md5ValueLength] ++ digest ++ peerId.octets

/-- The value of a Response: MD5 of the identifier, the secret and the value of the Challenge. -/
def responseValue (identifier : UInt8) (secret : Password) (challenge : List UInt8) : List UInt8 :=
  pppMd5Compute (identifier :: secret.octets ++ challenge)

/-- `pppChapBuildPending`.  A Challenge is accepted with one octet at least, for which the loop that copies it
is a plain copy. -/
def pppChapBuildPending (c : Credentials) (h : Chap) (t : Transmit) : Chap × Transmit :=
  if h.state ≠ .responsePending then (h, t)
  else if t.active then (h, t)
  else
    match c.peerId, c.password with
    | some peerId, some password =>
      let digest := responseValue h.lastIdentifier password (read h.challenge 0 h.challengeLength.toNat)
      match sendFrame t (responseFrame h.lastIdentifier digest peerId) with
      | (t, true) => (h, t)
      | (t, false) =>
        (pppChapScrubWorkBuffers { h with responseIdentifier := h.lastIdentifier, state := .waitingResult }, t)
    | _, _ => ({ h with state := .failed, failure := .credentialsMissing }, t)

end SnesModem.Asm
