import SnesModem.Asm.State

/-!
# `ppp/lcp.asm`

The initial LCP variables and the parser of the retained frame.
-/

namespace SnesModem.Asm

open SnesModem.Lib.Cpu65816 SnesModem.Lib.Octets

/-- `pppLcpInitialize`, over the variables that it leaves alone. -/
def pppLcpInitialize (l : Lcp) : Lcp :=
  { l with
    state := .closed
    lastCode := 0
    lastIdentifier := 0
    lastError := .none
    requestIdentifier := 0
    restartRemaining := 0
    restartDeadline := 0
    timerActive := false
    pendingAction := .none
    deferredRequest := false
    administrativeOpen := true
    packetLength := 0
    peerFlags := ⟨false, false, false, false, false⟩
    peerMru := defaultMru
    peerAccm := 0xffffffff
    peerMagic := 0
    localMagic := 0
    magicRequest := false
    magicAcknowledged := false
    rejectIdentifier := 0
    receiveCount := 0 }

/-- The length octet of the option at `x`. -/
def optionLength (buffer : Buffer) (x : UInt16) : UInt16 := (buffer (x.toNat + 1)).toUInt16

/-- `@optionLoop`: the error that the walk from `x` ends with, if it does not end at the packet's end. -/
def optionLoop (buffer : Buffer) (packetEnd : UInt16) : ℕ → UInt16 → Option LcpError
  | 0, _ => some .optionOverrun
  | turns + 1, x =>
    if x = packetEnd then none
    else if packetEnd < x + 2 then some .truncatedOption
    else if optionLength buffer x < 2 then some .invalidOptionLength
    else if packetEnd < x + optionLength buffer x then some .optionOverrun
    else optionLoop buffer packetEnd turns (x + optionLength buffer x)

/-- A walk advances by two octets at least. -/
abbrev maximumTurns : ℕ := 2 ^ 15

abbrev firstOption : UInt16 := frameOffset + headerLength

def configureCode (code : UInt8) : Bool := 1 ≤ code ∧ code < 5

/-- `@fail`, with the carry set. -/
def parseFail (l : Lcp) (error : LcpError) : Lcp × Bool := ({ l with lastError := error }, true)

/-- `@success`, with the carry clear. -/
def parseSuccess (l : Lcp) : Lcp × Bool := ({ l with lastError := .none }, false)

/-- `@checkConfigure`. -/
def parseOptions (d : Decoder) (l : Lcp) : Lcp × Bool :=
  if configureCode l.lastCode then
    match optionLoop d.frameBuffer l.packetEnd maximumTurns firstOption with
    | some error => parseFail l error
    | none => parseSuccess l
  else parseSuccess l

def pppLcpParseFrame (d : Decoder) (l : Lcp) : Lcp × Bool :=
  let l := { l with receiveCount := l.receiveCount + 1, lastCode := 0, lastIdentifier := 0, packetLength := 0 }
  if d.lastProtocol ≠ protocolLcp then parseFail l .wrongProtocol
  else if d.lastFrameLength < minimumFrameLength then parseFail l .truncatedHeader
  else
    let l := { l with
      lastCode := d.frameBuffer 4
      lastIdentifier := d.frameBuffer 5
      packetLength := word (d.frameBuffer 6) (d.frameBuffer 7) }
    if l.packetLength < headerLength then parseFail l .invalidPacketLength
    else
      -- The sum wraps for a declared length of `$fffc` and above.
      let l := { l with packetEnd := l.packetLength + frameOffset }
      if d.lastFrameLength < l.packetEnd then parseFail l .truncatedPacket else parseOptions d l

end SnesModem.Asm
