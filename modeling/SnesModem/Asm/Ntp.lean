import SnesModem.Asm.Ipv4Transmit

/-!
# `ppp/ntp.asm`

The NTP client.
-/

namespace SnesModem.Asm

open SnesModem.Lib.Cpu65816 SnesModem.Lib.Octets

abbrev ntpPacketLength : UInt16 := 48
abbrev ntpServerPort : UInt16 := 123
abbrev ntpClientPort : UInt16 := 0xc000
abbrev ntpResponseTimeoutFrames : UInt16 := 900
abbrev ntpUnixEpochOffsetSeconds : UInt32 := 0x83aa7e80
abbrev ntpCookieSeconds : UInt32 := 0x4e444d24

inductive NtpError where
  | none | linkNotOpen | transmitFailed | wrongPort | truncated | unsupportedVersion | unexpectedMode | kissOfDeath
  | invalidStratum | unsynchronized | originateMismatch | preUnixEpoch | timeout | sourceMismatch
  | unexpectedResponse | requestBusy
  deriving DecidableEq, Repr, Inhabited

/-- The variables of `ntp.asm`. -/
structure Ntp where
  state : RequestState
  lastError : NtpError
  cookieValid : Bool
  responseValid : Bool
  unixTimeValid : Bool
  version : UInt8
  leapIndicator : UInt8
  stratum : UInt8
  pollExponent : UInt8
  precision : UInt8
  referenceId : List UInt8
  cookieSeconds : UInt32
  cookieFraction : UInt32
  serverReceiveSeconds : UInt32
  serverReceiveFraction : UInt32
  serverTransmitSeconds : UInt32
  serverTransmitFraction : UInt32
  unixSeconds : UInt32
  deadline : UInt16
  deriving DecidableEq, Repr, Inhabited

def pppNtpInitialize : Ntp where
  state := .idle
  lastError := .none
  cookieValid := false
  responseValid := false
  unixTimeValid := false
  version := 0
  leapIndicator := 0
  stratum := 0
  pollExponent := 0
  precision := 0
  referenceId := [0, 0, 0, 0]
  cookieSeconds := 0
  cookieFraction := 0
  serverReceiveSeconds := 0
  serverReceiveFraction := 0
  serverTransmitSeconds := 0
  serverTransmitFraction := 0
  unixSeconds := 0
  deadline := 0

/-- `pppNtpFail`. -/
def Ntp.fail (n : Ntp) (error : NtpError) : Ntp :=
  { n with state := .failed, lastError := error, responseValid := false, unixTimeValid := false }

/-- `linkIsOpen` of the client: the server is the peer, so that its address counts too. -/
def ntpLinkIsOpen (p : Ipcp) : Bool := p.state = .opened && p.flags.localValid && p.flags.peerValid

/-- `pppNtpRequest`; the carry comes with the error. -/
def pppNtpRequest (p : Ipcp) (n : Ntp) : Ntp × Option NtpError :=
  if n.state.outstanding then (n, some .requestBusy)
  else if !ntpLinkIsOpen p then (n.fail .linkNotOpen, some .linkNotOpen)
  else
    ({ pppNtpInitialize with
      state := .requested
      cookieValid := true
      cookieSeconds := ntpCookieSeconds
      cookieFraction := n.cookieFraction + 1 }, none)

/-- The four octets of a double word, in network order. -/
def doubleWordOctets (value : UInt32) : List UInt8 :=
  [(value >>> 24).toUInt8, (value >>> 16).toUInt8, (value >>> 8).toUInt8, value.toUInt8]

/-- The double word at an offset of a buffer, in network order. -/
def doubleWordAt (buffer : Buffer) (offset : ℕ) : UInt32 :=
  (wordAt buffer offset).toUInt32 <<< 16 ||| (wordAt buffer (offset + 2)).toUInt32

/-- The request, with the cookie as its Transmit Timestamp. -/
def ntpRequestPacket (cookieSeconds cookieFraction : UInt32) : List UInt8 :=
  0x23 :: List.replicate 39 0 ++ doubleWordOctets cookieSeconds ++ doubleWordOctets cookieFraction

/-- `buildRequest` and `pppUdpBeginTransmit`. -/
def sendNtpRequest (p : Ipcp) (s : Ipv4Sender) (cookieSeconds cookieFraction : UInt32) : Ipv4Sender × Bool :=
  let buffer := write s.transmit.buffer udpTransmitPayloadOffset (ntpRequestPacket cookieSeconds cookieFraction)
  pppUdpBeginTransmit p { s with transmit := { s.transmit with buffer := buffer } } ntpClientPort ntpServerPort
    p.peerAddress ntpPacketLength

/-- `pppNtpPoll`. -/
def pppNtpPoll (p : Ipcp) (now : UInt32) (n : Ntp) (s : Ipv4Sender) : Ntp × Ipv4Sender :=
  match n.state with
  | .requested =>
    if !ntpLinkIsOpen p then (n.fail .linkNotOpen, s)
    else if s.transmit.active then (n, s)
    else
      match sendNtpRequest p s n.cookieSeconds n.cookieFraction with
      | (s, true) => (n.fail .transmitFailed, s)
      | (s, false) =>
        ({ n with state := .waiting, lastError := .none, deadline := now.toUInt16 + ntpResponseTimeoutFrames }, s)
  | .waiting =>
    if !ntpLinkIsOpen p then (n.fail .linkNotOpen, s)
    else if expired now n.deadline then (n.fail .timeout, s)
    else (n, s)
  | .idle | .received | .failed => (n, s)

/-- `pppNtpReceive`, from `cookie` on. -/
def Ntp.receiveTimestamps (n : Ntp) (buffer : Buffer) (x : ℕ) : Ntp :=
  if doubleWordAt buffer (x + 24) ≠ n.cookieSeconds ∨ doubleWordAt buffer (x + 28) ≠ n.cookieFraction then
    n.fail .originateMismatch
  else
    let n := { n with
      serverReceiveSeconds := doubleWordAt buffer (x + 32)
      serverReceiveFraction := doubleWordAt buffer (x + 36)
      serverTransmitSeconds := doubleWordAt buffer (x + 40)
      serverTransmitFraction := doubleWordAt buffer (x + 44) }
    if n.serverTransmitSeconds < ntpUnixEpochOffsetSeconds then n.fail .preUnixEpoch
    else
      { n with
        unixSeconds := n.serverTransmitSeconds - ntpUnixEpochOffsetSeconds
        state := .received
        lastError := .none
        cookieValid := true
        responseValid := true
        unixTimeValid := true }

/-- `pppNtpReceive`.  An accepted response also sets the clock, to `unixSeconds` and the fraction. -/
def pppNtpReceive (p : Ipcp) (d : UdpDatagram) (n : Ntp) : Ntp :=
  if n.state ≠ .waiting then n.fail .unexpectedResponse
  else if d.sourcePort ≠ ntpServerPort ∨ d.destinationPort ≠ ntpClientPort then n.fail .wrongPort
  else if d.payloadLength < ntpPacketLength then n.fail .truncated
  else if d.source ≠ p.peerAddress then n.fail .sourceMismatch
  else
    let x := (d.packetOffset + udpHeaderLength).toNat
    let first := d.frameBuffer x
    let n := { n with version := first >>> 3 &&& 7 }
    if n.version ≠ 3 ∧ n.version ≠ 4 then n.fail .unsupportedVersion
    else if first &&& 7 ≠ 4 then n.fail .unexpectedMode
    else
      let n := { n with
        leapIndicator := first >>> 6
        stratum := d.frameBuffer (x + 1)
        pollExponent := d.frameBuffer (x + 2)
        precision := d.frameBuffer (x + 3)
        referenceId := read d.frameBuffer (x + 12) 4 }
      if n.stratum = 0 then n.fail .kissOfDeath
      else if 16 ≤ n.stratum then n.fail .invalidStratum
      else if n.leapIndicator = 3 then n.fail .unsynchronized
      else n.receiveTimestamps d.frameBuffer x

end SnesModem.Asm
