import SnesModem.Lib.ReflectedCrc

/-!
# The reference asynchronous PPP framing

The frame check sequence, the encoder of whole frames and the octet decoder of the host's reference
crate.

* An octet is a `UInt8`, the check sequence a `UInt16` and an async control character map (ACCM) a
  `UInt32`, as in the source; lengths are naturals.
* `AsyncDecoder.push` returns the decoder after the octet with the event of that octet; `AsyncDecoder.feed`
  is its run over a stream, with the events in order.
-/

namespace SnesModem.Rust.Framing

open SnesModem.Lib

abbrev flagSequence : UInt8 := 0x7e
abbrev controlEscape : UInt8 := 0x7d
abbrev transparencyXor : UInt8 := 0x20
abbrev defaultAccm : UInt32 := 0xffffffff

abbrev initialFcs16 : UInt16 := 0xffff
abbrev goodFcs16 : UInt16 := 0xf0b8
abbrev fcs16PolynomialReversed : UInt16 := 0x8408

abbrev defaultMru : ℕ := 1500
abbrev uncompressedHeaderLength : ℕ := 4
abbrev fcs16Length : ℕ := 2
abbrev minimumFrameWithFcsLength : ℕ := 4
abbrev defaultMaxUnescapedFrameLength : ℕ := uncompressedHeaderLength + defaultMru + fcs16Length

/-! ### The frame check sequence -/

/-- One turn of the bit loop of `updateFcs16`. -/
def shiftFcs16 (fcs : UInt16) : UInt16 :=
  if fcs &&& 1 ≠ 0 then (fcs >>> 1) ^^^ fcs16PolynomialReversed else fcs >>> 1

def updateFcs16 (fcs : UInt16) (octet : UInt8) : UInt16 := shiftFcs16^[8] (fcs ^^^ octet.toUInt16)

def fcs16 (octets : List UInt8) : UInt16 := octets.foldl updateFcs16 initialFcs16

def transmittedFcs16 (frame : List UInt8) : UInt16 := fcs16 frame ^^^ 0xffff

/-- `u16::to_le_bytes`. -/
def leBytes (word : UInt16) : List UInt8 := [word.toUInt8, (word >>> 8).toUInt8]

def appendFcs16 (frame : List UInt8) : List UInt8 := frame ++ leBytes (transmittedFcs16 frame)

def hasValidFcs16 (frameWithFcs : List UInt8) : Bool := fcs16 frameWithFcs == goodFcs16

/-! ### The encoder -/

def accmContains (accm : UInt32) (octet : UInt8) : Bool :=
  decide (octet < 0x20) && (accm &&& (1 <<< octet.toUInt32)) != 0

def mustEscape (octet : UInt8) (sendAccm : UInt32) : Bool :=
  octet == flagSequence || octet == controlEscape || accmContains sendAccm octet

/-- What the encoder writes for one octet of the frame or of its check sequence. -/
def escape (sendAccm : UInt32) (octet : UInt8) : List UInt8 :=
  if mustEscape octet sendAccm then [controlEscape, octet ^^^ transparencyXor] else [octet]

def encodeAsync (frame : List UInt8) (sendAccm : UInt32) : List UInt8 :=
  flagSequence :: (appendFcs16 frame).flatMap (escape sendAccm) ++ [flagSequence]

/-! ### The decoder -/

inductive InvalidFrameReason where
  | tooShort | escapeBeforeFlag
  deriving DecidableEq, Repr

inductive DecodeEvent where
  /-- Address, Control, Protocol, and Information with the FCS removed. -/
  | frame (octets : List UInt8)
  | fcsError (unescapedLength : ℕ)
  | invalidFrame (reason : InvalidFrameReason)
  | overflow (maximumLength : ℕ)
  deriving DecidableEq, Repr

structure AsyncDecoder where
  receiveAccm : UInt32
  maximumUnescapedLength : ℕ
  frame : List UInt8
  synchronized : Bool
  escaped : Bool
  overflowed : Bool
  deriving DecidableEq, Repr

namespace AsyncDecoder

def new (receiveAccm : UInt32) (maximumUnescapedLength : ℕ) : AsyncDecoder where
  receiveAccm := receiveAccm
  maximumUnescapedLength := maximumUnescapedLength
  frame := []
  synchronized := false
  escaped := false
  overflowed := false

def finishAtFlag (d : AsyncDecoder) : AsyncDecoder × Option DecodeEvent :=
  if !d.synchronized then
    ({ d with synchronized := true, frame := [], escaped := false, overflowed := false }, none)
  else if d.escaped then
    ({ d with frame := [], escaped := false, overflowed := false },
      some (.invalidFrame .escapeBeforeFlag))
  else if d.overflowed then
    ({ d with frame := [], overflowed := false }, some (.overflow d.maximumUnescapedLength))
  else if d.frame = [] then (d, none)
  else if d.frame.length < minimumFrameWithFcsLength then
    ({ d with frame := [] }, some (.invalidFrame .tooShort))
  else if !hasValidFcs16 d.frame then ({ d with frame := [] }, some (.fcsError d.frame.length))
  else ({ d with frame := [] }, some (.frame (d.frame.take (d.frame.length - fcs16Length))))

/-- The end of `push`: the decoded octet goes to the frame, or the frame has overflowed. -/
def store (d : AsyncDecoder) (decoded : UInt8) : AsyncDecoder :=
  if d.frame.length = d.maximumUnescapedLength then { d with frame := [], overflowed := true }
  else { d with frame := d.frame ++ [decoded] }

def push (d : AsyncDecoder) (octet : UInt8) : AsyncDecoder × Option DecodeEvent :=
  if octet = flagSequence then d.finishAtFlag
  else if !d.synchronized || d.overflowed then (d, none)
  -- An unescaped control of the receive ACCM is dropped and leaves a pending escape pending.
  else if accmContains d.receiveAccm octet then (d, none)
  else if d.escaped then ({ d with escaped := false }.store (octet ^^^ transparencyXor), none)
  else if octet = controlEscape then ({ d with escaped := true }, none)
  else (d.store octet, none)

/-- The decoder after a stream, and the events of the stream in order. -/
def feed (d : AsyncDecoder) : List UInt8 → AsyncDecoder × List DecodeEvent
  | [] => (d, [])
  | octet :: octets =>
    let (d₁, event) := d.push octet
    let (d₂, events) := d₁.feed octets
    (d₂, event.toList ++ events)

end AsyncDecoder

end SnesModem.Rust.Framing
