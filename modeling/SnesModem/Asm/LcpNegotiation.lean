import SnesModem.Asm.LcpOptions
import SnesModem.Asm.Transmit

/-!
# `ppp/lcpNegotiation.asm` and `ppp/lcpTimer.asm`

The LCP automaton: commands, received packets, the restart timer, and the packets it sends.  The time `now`
is `frameCounter`.
-/

namespace SnesModem.Asm

open SnesModem.Lib.Cpu65816 SnesModem.Lib.Octets

abbrev defaultMaxConfigure : UInt8 := 10
abbrev defaultMaxTerminate : UInt8 := 2
abbrev restartIntervalFrames : UInt16 := 180

/-! ### The restart timer -/

def pppLcpArmRestartTimer (now : UInt32) (l : Lcp) : Lcp :=
  { l with restartDeadline := now.toUInt16 + restartIntervalFrames, timerActive := true }

/-- The variables that end with the negotiation, on the way to `Closed` or `Stopped`. -/
def terminateComplete (state : LcpState) (l : Lcp) : Lcp :=
  { l with
    state := state
    restartRemaining := 0
    pendingAction := .none
    timerActive := false
    deferredRequest := false
    peerFlags := ⟨false, false, false, false, false⟩
    magicRequest := false
    magicAcknowledged := false
    peerMru := defaultMru
    peerAccm := 0xffffffff
    peerMagic := 0
    localMagic := 0 }

def pppLcpLocalTerminateComplete : Lcp → Lcp := terminateComplete .closed
def pppLcpLowerDown : Lcp → Lcp := terminateComplete .closed
def pppLcpPeerTerminateComplete : Lcp → Lcp := terminateComplete .stopped

def pppLcpPollTimeout (now : UInt32) (l : Lcp) : Lcp :=
  if !l.timerActive || !expired now l.restartDeadline then l
  else
    match l.state with
    | .closing =>
      if l.restartRemaining = 0 then pppLcpLocalTerminateComplete l
      else { l with
        restartRemaining := l.restartRemaining - 1
        pendingAction := .terminateRequest
        timerActive := false
        deferredRequest := false }
    | .requestSent | .ackReceived | .ackSent =>
      if l.restartRemaining = 0 then { l with
        state := .stopped
        restartRemaining := 0
        pendingAction := .none
        timerActive := false
        deferredRequest := false }
      else { l with
        restartRemaining := l.restartRemaining - 1
        state := if l.state = .ackReceived then .requestSent else l.state
        pendingAction := .configureRequest
        timerActive := false
        deferredRequest := false }
    | _ => { l with timerActive := false, deferredRequest := false }

/-! ### Commands -/

/-- The magic number of a new establishment, which is not zero. -/
def initialMagic (now : UInt32) : UInt32 :=
  if now ^^^ 0x4e444d24 = 0 then 1 else now ^^^ 0x4e444d24

def pppLcpOpen (now : UInt32) (l : Lcp) : Lcp :=
  let l := { l with administrativeOpen := true }
  if l.state = .opened ∨ l.state = .closing then l
  else { l with
    state := .requestSent
    localMagic := initialMagic now
    magicRequest := true
    magicAcknowledged := false
    requestIdentifier := 0
    restartRemaining := defaultMaxConfigure - 1
    deferredRequest := false
    pendingAction := .configureRequest
    lastError := .none }

def pppLcpClose (l : Lcp) : Lcp :=
  let l := { l with administrativeOpen := false }
  if l.state = .closed ∨ l.state = .stopped then pppLcpLocalTerminateComplete l
  else if l.state = .closing then l
  else if l.pendingAction ≠ .none then l
  else { l with
    state := .closing
    requestIdentifier := l.requestIdentifier + 1
    restartRemaining := defaultMaxTerminate - 1
    timerActive := false
    deferredRequest := false
    pendingAction := .terminateRequest
    lastError := .none }

def pppLcpRejectProtocol (l : Lcp) : Lcp :=
  { l with rejectIdentifier := l.rejectIdentifier + 1, pendingAction := .protocolReject }

def pppLcpRejectCode (l : Lcp) : Lcp :=
  { l with rejectIdentifier := l.rejectIdentifier + 1, pendingAction := .codeReject }

/-! ### Received packets

Each handler returns the carry, which is set for a packet that is dropped. -/

/-- `@returnSuccess`. -/
def returnSuccess (l : Lcp) : Lcp × Bool := ({ l with lastError := .none }, false)

/-- `@returnFailure` after the error was stored. -/
def returnFailure (l : Lcp) (error : LcpError) : Lcp × Bool := ({ l with lastError := error }, true)

/-- `@newRequest`. -/
def newRequest (l : Lcp) : Lcp :=
  { l with
    magicAcknowledged := false
    requestIdentifier := l.requestIdentifier + 1
    restartRemaining := defaultMaxConfigure - 1
    timerActive := false
    deferredRequest := false
    pendingAction := .configureRequest }

/-- `@configureRequest`, whose frame is retained for the response. -/
def receiveConfigureRequest (d : Decoder) (l : Lcp) : Lcp × Bool :=
  if l.state = .closing then returnFailure l .notConfiguring
  else
    let (action, l) := pppLcpEvaluatePeerRequest d.frameBuffer l
    let l := { l with pendingAction := action }
    if l.state = .opened then
      returnSuccess { l with
        requestIdentifier := l.requestIdentifier + 1
        restartRemaining := defaultMaxConfigure - 1
        timerActive := false
        deferredRequest := true
        state := if action = .configureAck then .ackSent else .requestSent }
    else if action = .configureAck then
      if l.state = .ackReceived then
        returnSuccess { l with state := .opened, restartRemaining := 0, timerActive := false }
      else returnSuccess { l with state := .ackSent }
    else if l.state = .ackReceived then returnSuccess l
    else returnSuccess { l with state := .requestSent }

/-- `@configureAck` up to `@ackValidated`: the packet repeats the options of the request. -/
def ackValid (d : Decoder) (l : Lcp) : Bool :=
  if l.magicRequest then
    l.packetLength = headerLength + 6 ∧ d.frameBuffer 8 = 5 ∧ d.frameBuffer 9 = 6 ∧
      read d.frameBuffer 10 4 = spelledMagic l.localMagic
  else l.packetLength = headerLength

def receiveConfigureAck (d : Decoder) (l : Lcp) : Lcp × Bool :=
  if l.state = .closing then returnFailure l .notConfiguring
  else if l.lastIdentifier ≠ l.requestIdentifier ∨ !ackValid d l then returnFailure l .invalidResponse
  else
    let l := { l with magicAcknowledged := if l.magicRequest then true else l.magicAcknowledged }
    match l.state with
    | .requestSent => returnSuccess { l with state := .ackReceived, restartRemaining := defaultMaxConfigure }
    | .ackSent => returnSuccess { l with state := .opened, restartRemaining := 0, timerActive := false }
    | .ackReceived | .opened => returnSuccess (newRequest { l with state := .requestSent })
    | _ => returnSuccess l

/-- `@negativeMagic`, after the checks that Nak and Reject share. -/
def applyNegativeMagic (buffer : Buffer) (l : Lcp) (y : UInt16) : Option Lcp :=
  if l.lastCode = 4 then
    if pppLcpPeerMagicMatchesLocal buffer l y then
      some { l with magicRequest := false, magicAcknowledged := false, localMagic := 0 }
    else none
  else if read buffer (y.toNat + 2) 4 = [0, 0, 0, 0] ∨ pppLcpPeerMagicMatchesLocal buffer l y then
    some (pppLcpAdvanceLocalMagic l)
  else some { l with localMagic := readMagic buffer (y.toNat + 2) }

/-- `@negativeOptionLoop`, with `pppLcpHasNak`.  The carry is set at `@negativeInvalid`, and what earlier
options have changed stays. -/
def applyNegativeOptions (buffer : Buffer) : List UInt16 → Bool → Lcp → Lcp × Bool
  | [], hasNak, l => (l, !(l.lastCode = 3 || hasNak))
  | y :: offsets, hasNak, l =>
    if buffer y.toNat = 5 then
      if hasNak || !l.magicRequest || buffer (y.toNat + 1) ≠ 6 then (l, true)
      else
        match applyNegativeMagic buffer l y with
        | some l => applyNegativeOptions buffer offsets true l
        | none => (l, true)
    else if l.lastCode = 4 then (l, true)
    else applyNegativeOptions buffer offsets hasNak l

/-- `@configureNegative`. -/
def receiveConfigureNegative (d : Decoder) (l : Lcp) : Lcp × Bool :=
  if l.state = .closing then returnFailure l .notConfiguring
  else if l.lastIdentifier ≠ l.requestIdentifier then returnFailure l .invalidResponse
  else
    match applyNegativeOptions d.frameBuffer (options d.frameBuffer l.packetEnd) false l with
    | (l, true) => returnFailure l .invalidResponse
    | (l, false) =>
      returnSuccess (newRequest { l with state := if l.state = .ackSent then .ackSent else .requestSent })

/-- `@terminateRequest`. -/
def receiveTerminateRequest (l : Lcp) : Lcp × Bool :=
  let l := if l.state = .closing then l else
    { l with restartRemaining := 0, timerActive := false, deferredRequest := false }
  returnSuccess { l with pendingAction := .terminateAck }

/-- `@terminateAck`. -/
def receiveTerminateAck (l : Lcp) : Lcp × Bool :=
  if l.state ≠ .closing then returnSuccess l
  else if l.lastIdentifier ≠ l.requestIdentifier then returnFailure l .invalidResponse
  else returnSuccess (pppLcpLocalTerminateComplete l)

/-- The magic number that the peer's Echo-Requests carry. -/
def expectedMagic (l : Lcp) : List UInt8 :=
  if l.peerFlags.magicNumber then spelledMagic l.peerMagic else [0, 0, 0, 0]

/-- `@echoRequest`. -/
def receiveEchoRequest (d : Decoder) (l : Lcp) : Lcp × Bool :=
  if l.state ≠ .opened then returnFailure l .notConfiguring
  else if l.packetLength < headerLength + 4 then returnFailure l .malformedEchoRequest
  else if read d.frameBuffer 8 4 ≠ expectedMagic l then returnFailure l .unexpectedMagicNumber
  else returnSuccess { l with pendingAction := .echoReply }

/-- `@openedMaintenancePacket`. -/
def receiveMaintenance (l : Lcp) : Lcp × Bool :=
  if l.state = .opened then returnSuccess l else returnFailure l .notConfiguring

/-- A parsed packet. -/
def receivePacket (d : Decoder) (l : Lcp) : Lcp × Bool :=
  if l.state = .closed ∨ l.state = .stopped then returnFailure l .notConfiguring
  else
    match (d.frameBuffer 4).toNat with
    | 1 => receiveConfigureRequest d l
    | 2 => receiveConfigureAck d l
    | 3 | 4 => receiveConfigureNegative d l
    | 5 => receiveTerminateRequest l
    | 6 => receiveTerminateAck l
    | 7 | 8 => returnSuccess l
    | 9 => receiveEchoRequest d l
    | 10 | 11 => receiveMaintenance l
    | _ => returnSuccess (pppLcpRejectCode l)

def pppLcpReceiveFrame (d : Decoder) (l : Lcp) : Lcp × Bool :=
  match pppLcpParseFrame d l with
  | (l, true) => (l, true)
  | (l, false) => receivePacket d l

/-! ### The packets it sends -/

/-- A length bounded by the peer's MRU and the transmit buffer, but not below `least`. -/
def boundedLength (l : Lcp) (least length : UInt16) : UInt16 := max (min (min length l.peerMru) defaultMru) least

/-- A packet in the transmit buffer and the length of its frame. -/
abbrev Built := Buffer × UInt16

/-- A packet without data, and `@buildRequest` with the magic number as data. -/
def buildPacket (output : Buffer) (code identifier : UInt8) (data : List UInt8) : Built :=
  (write output 4 ([code, identifier, 0, 4 + UInt8.ofNat data.length] ++ data),
    minimumFrameLength + UInt16.ofNat data.length)

def buildRequest (l : Lcp) (output : Buffer) : Built :=
  buildPacket output 1 l.requestIdentifier (if l.magicRequest then [5, 6] ++ spelledMagic l.localMagic else [])

/-- `@copyResponse`. -/
def copyResponse (d : Decoder) (l : Lcp) (output : Buffer) : Built :=
  let output := write output 4 (read d.frameBuffer 4 l.packetLength.toNat)
  (write output 4 [2], l.packetLength + frameOffset)

/-- `@buildProtocolReject` and `@buildCodeReject`: a header and a part of the frame, from `source` on. -/
def buildReject (d : Decoder) (l : Lcp) (output : Buffer) (code : UInt8) (source : ℕ) (length : UInt16) : Built :=
  let output := write output 4 [code, l.rejectIdentifier]
  let output := write output 6 [high length, low length]
  let output := write output 8 (read d.frameBuffer source (length - headerLength).toNat)
  (output, length + frameOffset)

def buildProtocolReject (d : Decoder) (l : Lcp) (output : Buffer) : Built :=
  buildReject d l output 8 2 (boundedLength l 6 (d.lastFrameLength + 2))

def buildCodeReject (d : Decoder) (l : Lcp) (output : Buffer) : Built :=
  buildReject d l output 7 4 (boundedLength l 8 (l.packetLength + headerLength))

def buildEchoReply (d : Decoder) (l : Lcp) (output : Buffer) : Built :=
  let length := boundedLength l 8 l.packetLength
  let output := write output 4 (read d.frameBuffer 4 length.toNat)
  let output := write output 6 [high length, low length]
  let output := write output 4 [10]
  let magic := if l.magicAcknowledged then spelledMagic l.localMagic else [0, 0, 0, 0]
  (write output 8 magic, length + frameOffset)

/-- The packet of the pending action, if there is one. -/
def buildAction (d : Decoder) (l : Lcp) (output : Buffer) : Option Built :=
  let output := write output 0 [0xff, 0x03, 0xc0, 0x21]
  match l.pendingAction with
  | .none => none
  | .configureRequest => some (buildRequest l output)
  | .configureAck => some (copyResponse d l output)
  | .configureNak | .configureReject => some (pppLcpBuildPeerResponse d.frameBuffer l output)
  | .terminateAck => some (buildPacket output 6 l.lastIdentifier [])
  | .protocolReject => some (buildProtocolReject d l output)
  | .codeReject => some (buildCodeReject d l output)
  | .echoReply => some (buildEchoReply d l output)
  | .terminateRequest => some (buildPacket output 5 l.requestIdentifier [])

/-- After the builders: the count of the copy loops of the two rejects is kept in `pppLcpPacketEnd`, and ends
at zero. -/
def afterBuild (l : Lcp) : Lcp :=
  if l.pendingAction = .protocolReject ∨ l.pendingAction = .codeReject then { l with packetEnd := 0 } else l

/-- `@begin` once the encoder has the packet. -/
def afterBegin (now : UInt32) (l : Lcp) : Lcp :=
  let l := if l.pendingAction = .configureRequest ∨ l.pendingAction = .terminateRequest then
    pppLcpArmRestartTimer now l else l
  { l with pendingAction := .none }

/-- `pppLcpBuildPending`: the carry is set if there is nothing to send or the encoder does not take it. -/
def pppLcpBuildPending (now : UInt32) (d : Decoder) (l : Lcp) (t : Transmit) : Lcp × Transmit × Bool :=
  if t.active then (l, t, true)
  else
    match buildAction d l t.buffer with
    | none => (l, t, true)
    | some (buffer, length) =>
      let l := afterBuild l
      match pppTransmitBegin { t with buffer := buffer } length with
      | (t, true) => (l, t, true)
      | (t, false) => (afterBegin now l, t, false)

end SnesModem.Asm
