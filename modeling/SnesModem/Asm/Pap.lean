import SnesModem.Asm.Receive

/-!
# `ppp/papCredentials.asm` and `ppp/pap.asm`

The staged credentials, and the PAP client.  The upload of credentials with the accumulator's hidden octet is
`PapCredentials`; here the copy of an upload has the validated length, and what a longer one overwrites is the
main loop's matter.
-/

namespace SnesModem.Asm

open SnesModem.Lib.Cpu65816 SnesModem.Lib.Octets

/-! ### Credentials -/

/-- `pppPapCredentialsInitialize`: the public fixture. -/
def pppPapCredentialsInitialize : Credentials where
  transient := false
  peerId := some ⟨[0x6e, 0x64, 0x6d, 0x32, 0x34], by decide, by decide⟩
  password := some ⟨[0x6e, 0x64, 0x6d, 0x32, 0x34, 0x2d, 0x74, 0x65, 0x73, 0x74], by decide, by decide⟩

/-- `pppPapCredentialsClear`. -/
def pppPapCredentialsClear : Credentials := ⟨true, none, none⟩

/-- `pppPapCredentialsClearSensitive`: the fixture stays. -/
def pppPapCredentialsClearSensitive (c : Credentials) : Credentials :=
  if c.transient then pppPapCredentialsClear else c

def pppPapCredentialsReady (c : Credentials) : Bool := c.peerId.isSome && c.password.isSome

/-- The checks of `pppPapCredentialSetPeerId`. -/
def acceptsPeerId (arguments : Buffer) (credentials : Credentials) : Bool :=
  credentials.transient && (arguments 0).toNat = maximumPeerIdLength

/-- The checks of `pppPapCredentialSetPassword`. -/
def acceptsPassword (arguments : Buffer) (credentials : Credentials) : Bool :=
  credentials.transient &&
    decide (minimumPasswordLength ≤ (arguments 0).toNat ∧ (arguments 0).toNat ≤ maximumPasswordLength)

/-- `pppPapCredentialSetPeerId`, with the octets of `modemMailboxArguments`.  An upload that fails its checks
clears the credentials. -/
def pppPapCredentialSetPeerId (arguments : Buffer) (c : Credentials) : Credentials :=
  if !c.transient then pppPapCredentialsClear
  else if (arguments 0).toNat = maximumPeerIdLength then
    { c with peerId := some ⟨read arguments 1 maximumPeerIdLength, by simp, by simp⟩ }
  else pppPapCredentialsClear

/-- `pppPapCredentialSetPassword`. -/
def pppPapCredentialSetPassword (arguments : Buffer) (c : Credentials) : Credentials :=
  if !c.transient then pppPapCredentialsClear
  else if h : minimumPasswordLength ≤ (arguments 0).toNat ∧ (arguments 0).toNat ≤ maximumPasswordLength then
    { c with password := some ⟨read arguments 1 (arguments 0).toNat, by simpa using h.1, by simpa using h.2⟩ }
  else pppPapCredentialsClear

/-! ### The PAP client -/

abbrev defaultMaxAuthenticate : UInt8 := 10
abbrev papRestartIntervalFrames : UInt16 := 180
abbrev papHeaderLength : UInt16 := 4

/-- `pppPapInitialize`. -/
def pppPapInitialize : Pap := { (default : Pap) with nextIdentifier := 1 }

def pppPapLowerUp (flags : PeerFlags) (c : Credentials) (p : Pap) : Pap :=
  if p.state ≠ .inactive then p
  else
    let p := { p with failure := .none, timerActive := false, restartRemaining := defaultMaxAuthenticate }
    if !flags.pap then { p with state := .opened, requestPending := false }
    else if pppPapCredentialsReady c then { p with state := .requestPending, requestPending := true }
    else { p with state := .failed, failure := .credentialsMissing, requestPending := false }

/-- `pppPapLowerDown`, without the credentials, which it clears. -/
def pppPapLowerDown (p : Pap) : Pap :=
  { p with
    state := .inactive
    requestIdentifier := 0
    restartRemaining := 0
    requestPending := false
    timerActive := false
    failure := .none
    packetLength := 0
    restartDeadline := 0 }

/-- The Authenticate-Request. -/
def authenticateRequest (identifier : UInt8) (peerId : PeerId) (password : Password) : List UInt8 :=
  let idLength := UInt8.ofNat peerId.octets.length
  let passwordLength := UInt8.ofNat password.octets.length
  [0xff, 0x03, 0xc0, 0x23, 1, identifier, 0, idLength + passwordLength + 6, idLength] ++ peerId.octets ++
    passwordLength :: password.octets

/-- `pppPapBuildPending`. -/
def pppPapBuildPending (now : UInt32) (c : Credentials) (p : Pap) (t : Transmit) : Pap × Transmit :=
  if !p.requestPending then (p, t)
  else
    match c.peerId, c.password with
    | some peerId, some password =>
      if t.active then (p, t)
      else
        match sendFrame t (authenticateRequest p.nextIdentifier peerId password) with
        | (t, true) => (p, t)
        | (t, false) =>
          ({ p with
            requestIdentifier := p.nextIdentifier
            nextIdentifier := p.nextIdentifier + 1
            restartRemaining := p.restartRemaining - 1
            requestPending := false
            state := .waitingForReply
            restartDeadline := now.toUInt16 + papRestartIntervalFrames
            timerActive := true }, t)
    | _, _ => ({ p with state := .failed, failure := .credentialsMissing, requestPending := false }, t)

/-- `@accepted`. -/
def acceptReply (c : Credentials) (p : Pap) : Pap × Credentials :=
  let p := { p with lastError := .none, timerActive := false }
  let p := if p.lastCode = 2 then { p with state := .opened, failure := .none }
    else { p with state := .failed, failure := .rejected }
  (p, pppPapCredentialsClearSensitive c)

/-- `@checkState` and what follows. -/
def receiveReply (d : Decoder) (c : Credentials) (p : Pap) : Pap × Credentials :=
  let messageEnd := (d.frameBuffer 8).toUInt16 + (papHeaderLength + 1)
  if p.state ≠ .waitingForReply then ({ p with lastError := .unsupportedCode }, c)
  else if p.lastCode ≠ 2 ∧ p.lastCode ≠ 3 then ({ p with lastError := .unsupportedCode }, c)
  else if p.lastIdentifier ≠ p.requestIdentifier then ({ p with lastError := .identifierMismatch }, c)
  else if p.packetLength < papHeaderLength + 1 then ({ p with lastError := .messageLengthMissing }, c)
  else if p.packetLength < messageEnd then ({ p with lastError := .messageTruncated }, c)
  else if messageEnd < p.packetLength then ({ p with lastError := .trailingData }, c)
  else acceptReply c p

/-- `pppPapReceiveFrame`. -/
def pppPapReceiveFrame (d : Decoder) (c : Credentials) (p : Pap) : Pap × Credentials :=
  let p := { p with receiveCount := p.receiveCount + 1, lastCode := 0, lastIdentifier := 0, packetLength := 0 }
  if d.lastProtocol ≠ protocolPap then ({ p with lastError := .wrongProtocol }, c)
  else if d.lastFrameLength < minimumFrameLength then ({ p with lastError := .truncatedHeader }, c)
  else
    let p := { p with
      lastCode := d.frameBuffer 4
      lastIdentifier := d.frameBuffer 5
      packetLength := word (d.frameBuffer 6) (d.frameBuffer 7) }
    if p.packetLength < papHeaderLength then ({ p with lastError := .invalidPacketLength }, c)
    else if d.lastFrameLength < p.packetLength + frameOffset then ({ p with lastError := .truncatedPacket }, c)
    else receiveReply d c p

/-- `pppPapPollTimeout`. -/
def pppPapPollTimeout (now : UInt32) (c : Credentials) (p : Pap) : Pap × Credentials :=
  if !p.timerActive || !expired now p.restartDeadline then (p, c)
  else
    let p := { p with timerActive := false }
    if p.state ≠ .waitingForReply then (p, c)
    else if p.restartRemaining = 0 then
      ({ p with state := .failed, failure := .retryLimit }, pppPapCredentialsClearSensitive c)
    else ({ p with state := .requestPending, requestPending := true }, c)

end SnesModem.Asm
