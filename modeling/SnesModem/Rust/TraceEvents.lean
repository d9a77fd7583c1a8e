import Mathlib.Data.List.Sort
import SnesModem.Lib.Md5
import SnesModem.Lib.Octets

/-!
# The events that the host reads

`read_trace_events` on the sequence of the snapshot and on the octets of the ring: every slot is decoded, the numbers
tell which slots are in use, and the events are sorted by them.
-/

namespace SnesModem.Rust.TraceEvents

open SnesModem.Lib.Cpu65816 (word)
open SnesModem.Lib.Md5 (leWord)

abbrev traceEventSize : ℕ := 16

abbrev traceCapacity : ℕ := 256

structure TraceEvent where
  sequence : UInt32
  frame : UInt32
  kind : UInt8
  state : UInt8
  reason : UInt8
  flags : UInt8
  dataReport : UInt16
  statusReport : UInt16
  deriving DecidableEq, Repr

def readU32 (data : List UInt8) (offset : ℕ) : UInt32 := leWord ((data.drop offset).take 4)

def readU16 (data : List UInt8) (offset : ℕ) : UInt16 := word (data.getD (offset + 1) 0) (data.getD offset 0)

/-- `none` stands for the error of a truncated event. -/
def TraceEvent.decode (data : List UInt8) : Option TraceEvent :=
  if data.length < traceEventSize then none
  else some {
    sequence := readU32 data 0
    frame := readU32 data 4
    kind := data.getD 8 0
    state := data.getD 9 0
    reason := data.getD 10 0
    flags := data.getD 11 0
    dataReport := readU16 data 12
    statusReport := readU16 data 14 }

def chunksExact (size : ℕ) (data : List UInt8) : List (List UInt8) :=
  (List.range (data.length / size)).map fun i => (data.drop (size * i)).take size

/-- The test of `retain`. -/
def retained (nextSequence : UInt32) (event : TraceEvent) : Bool :=
  let available := min nextSequence 256
  let distance := nextSequence - event.sequence
  1 ≤ distance && distance ≤ available

/-- What `read_trace_events` makes of a snapshot and of the ring. -/
def readTraceEvents (nextSequence : UInt32) (data : List UInt8) : Option (List TraceEvent) :=
  ((chunksExact traceEventSize data).mapM TraceEvent.decode).map fun events =>
    (events.filter (retained nextSequence)).insertionSort fun a b => a.sequence ≤ b.sequence

end SnesModem.Rust.TraceEvents
