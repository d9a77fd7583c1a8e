import SnesModem.Lib.Octets
import SnesModem.Lib.Units
import SnesModem.Lib.Words

/-!
# The clock

Unix seconds with a binary fraction, advanced frame by frame, and the date and time in JST that is shown of them.

* `Clock`: the variables; the loops stop without a result if their fuel does not last;
* `clockSetUnixTime`, with `decomposeJst` and `clockFormatDisplay`;
* `clockAdvanceFrames`, with `clockIncrementCalendar` and `clockDaysInMonth`;
* `clockPoll`.
-/

namespace SnesModem.Asm

open SnesModem.Lib.Octets SnesModem.Lib.Units SnesModem.Lib.Words

structure Clock where
  valid : Bool
  unixSeconds : Long
  subsecond : Long
  lastFrame : UInt16
  year : UInt16
  month : UInt8
  day : UInt8
  hour : UInt8
  minute : UInt8
  second : UInt8
  displayText : Buffer
  conversionRemaining : Long
  deriving Inhabited

namespace Clock

/-- `CLOCK_NTSC_FRAME_FRACTION`. -/
abbrev frameFraction : Long := ⟨0x7885, 0x0442⟩
abbrev jstOffsetSeconds : Long := ⟨0x7e90, 0x0000⟩
abbrev commonYearSeconds : Long := ⟨0x3380, 0x01e1⟩
abbrev leapYearSeconds : Long := ⟨0x8500, 0x01e2⟩
abbrev monthSeconds28 : Long := ⟨0xea00, 0x0024⟩
abbrev monthSeconds29 : Long := ⟨0x3b80, 0x0026⟩
abbrev monthSeconds30 : Long := ⟨0x8d00, 0x0027⟩
abbrev monthSeconds31 : Long := ⟨0xde80, 0x0028⟩
abbrev daySeconds : Long := ⟨0x5180, 0x0001⟩
abbrev hourSeconds : Long := ⟨0x0e10, 0x0000⟩
abbrev minuteSeconds : Long := ⟨0x003c, 0x0000⟩

end Clock

open Clock

/-- The value is taken off what remains, unless it is too much. -/
def clockSubtractIfAtLeast (value remaining : Long) : Option Long :=
  if remaining.high < value.high then none
  else if remaining.high = value.high ∧ remaining.low < value.low then none
  else some (remaining.sub value).1

/-- The carry is set for leap years. -/
def clockIsLeapYear (year : UInt16) : Bool :=
  if year = 2000 then true
  else if year = 2100 then false
  else year &&& 0x0003 = 0

/-! ### `@decomposeJst` -/

/-- A turn of `@yearLoop`. -/
def yearStep : UInt16 × Long → Option (UInt16 × Long)
  | (year, remaining) =>
    (clockSubtractIfAtLeast (if clockIsLeapYear year then leapYearSeconds else commonYearSeconds) remaining).map
      fun remaining => (year + 1, remaining)

/-- A turn of `@monthLoop`. -/
def monthStep (year : UInt16) : UInt8 × Long → Option (UInt8 × Long)
  | (month, remaining) =>
    let seconds :=
      if month = 0x02 then
        if clockIsLeapYear year then monthSeconds29 else monthSeconds28
      else if month = 0x04 ∨ month = 0x06 ∨ month = 0x09 ∨ month = 0x0b then monthSeconds30
      else monthSeconds31
    (clockSubtractIfAtLeast seconds remaining).map fun remaining => (month + 1, remaining)

/-- A turn of `@dayLoop`, `@hourLoop` or `@minuteLoop`. -/
def unitStep (seconds : Long) : UInt8 × Long → Option (UInt8 × Long)
  | (unit, remaining) => (clockSubtractIfAtLeast seconds remaining).map fun remaining => (unit + 1, remaining)

def decomposeJst (fuel : ℕ) (c : Clock) : Option Clock := do
  let remaining := (c.unixSeconds.add jstOffsetSeconds).1
  let (year, remaining) ← loop yearStep fuel (1970, remaining)
  let (month, remaining) ← loop (monthStep year) fuel (1, remaining)
  let (day, remaining) ← loop (unitStep daySeconds) fuel (1, remaining)
  let (hour, remaining) ← loop (unitStep hourSeconds) fuel (0, remaining)
  let (minute, remaining) ← loop (unitStep minuteSeconds) fuel (0, remaining)
  some { c with
    year := year
    month := month
    day := day
    hour := hour
    minute := minute
    second := remaining.low.toUInt8
    conversionRemaining := remaining }

/-! ### `clockFormatDisplay` -/

/-- A turn of the loops of `@writeYear`: `A` holds the number and `Y` the digit. -/
def yearDigitStep (unit : UInt16) : UInt16 × UInt16 → Option (UInt16 × UInt16)
  | (a, y) => if a < unit then none else some (a - unit, y + 1)

def writeYear (fuel : ℕ) (text : Buffer) (offset : ℕ) (year : UInt16) : Option Buffer := do
  let (a, thousands) ← loop (yearDigitStep 1000) fuel (year, 0x30)
  let (a, hundreds) ← loop (yearDigitStep 100) fuel (a, 0x30)
  let (a, tens) ← loop (yearDigitStep 10) fuel (a, 0x30)
  some (write text offset [thousands.toUInt8, hundreds.toUInt8, tens.toUInt8, a.toUInt8 + 0x30])

/-- A turn of `@twoDigitTens`. -/
def tensStep : UInt8 × UInt16 → Option (UInt8 × UInt16)
  | (a, y) => if a < 10 then none else some (a - 10, y + 1)

def writeTwoDigits (fuel : ℕ) (text : Buffer) (offset : ℕ) (value : UInt8) : Option Buffer := do
  let (a, tens) ← loop tensStep fuel (value, 0x30)
  some (write text offset [tens.toUInt8, a + 0x30])

def clockFormatDisplay (fuel : ℕ) (c : Clock) : Option Clock := do
  let text ← writeYear fuel c.displayText 0 c.year
  let text := write (write text 4 [0x2d]) 7 [0x2d]
  let text := write (write text 10 [0x20]) 19 [0x20]
  let text := write (write text 13 [0x3a]) 16 [0x3a]
  let text := write text 20 [0x4a, 0x53, 0x54]
  let text ← writeTwoDigits fuel text 0x05 c.month
  let text ← writeTwoDigits fuel text 0x08 c.day
  let text ← writeTwoDigits fuel text 0x0b c.hour
  let text ← writeTwoDigits fuel text 0x0e c.minute
  let text ← writeTwoDigits fuel text 0x11 c.second
  some { c with displayText := text }

/-! ### Setting the clock -/

def clockInitialize (frameCounter : UInt16) (c : Clock) : Clock :=
  let text := write c.displayText 0 (List.replicate (0x20 - 7) 0x20)
  let text := write text 0 (List.replicate 10 0x2d)
  let text := write (write (write text 11 [0x2d, 0x2d]) 14 [0x2d, 0x2d]) 17 [0x2d, 0x2d]
  let text := write (write text 4 [0x20]) 7 [0x20]
  let text := write (write text 13 [0x3a]) 16 [0x3a]
  let text := write text 20 [0x4a, 0x53, 0x54]
  { valid := false
    unixSeconds := ⟨0, 0⟩
    subsecond := ⟨0, 0⟩
    lastFrame := frameCounter
    year := 0
    month := 0
    day := 0
    hour := 0
    minute := 0
    second := 0
    displayText := text
    conversionRemaining := ⟨0, 0⟩ }

/-- `A` and `X` hold the seconds, `Y` the high word of the fraction. -/
def clockSetUnixTime (fuel : ℕ) (a x y frameCounter : UInt16) (c : Clock) : Option Clock := do
  let c := { c with
    unixSeconds := ⟨a, x⟩
    subsecond := ⟨0, y⟩
    lastFrame := frameCounter
    valid := true }
  let c ← decomposeJst fuel c
  clockFormatDisplay fuel c

/-! ### Advancing the clock -/

def clockDaysInMonth (c : Clock) : UInt8 :=
  if c.month = 0x02 then
    if clockIsLeapYear c.year then 29 else 28
  else if c.month = 0x04 ∨ c.month = 0x06 ∨ c.month = 0x09 ∨ c.month = 0x0b then 30
  else 31

def clockIncrementCalendar (c : Clock) : Clock :=
  let c := { c with second := c.second + 1 }
  if c.second < 60 then c
  else
    let c := { c with second := 0, minute := c.minute + 1 }
    if c.minute < 60 then c
    else
      let c := { c with minute := 0, hour := c.hour + 1 }
      if c.hour < 24 then c
      else
        let c := { c with hour := 0, day := c.day + 1 }
        if c.day ≤ clockDaysInMonth c then c
        else
          let c := { c with day := 1, month := c.month + 1 }
          if c.month < 13 then c
          else { c with month := 1, year := c.year + 1 }

/-- A turn of `@frameLoop`, up to `@nextFrame`. -/
def clockAdvanceFrame (fuel : ℕ) (c : Clock) : Option Clock :=
  let sum := c.subsecond.add frameFraction
  let c := { c with subsecond := sum.1 }
  if sum.2 then
    let c := { c with unixSeconds := c.unixSeconds.inc }
    clockFormatDisplay fuel (clockIncrementCalendar c)
  else some c

/-- `@frameLoop` with `X`, for so many turns at most. -/
def frameLoop (fuel : ℕ) : ℕ → UInt16 → Clock → Option Clock
  | 0, _, _ => none
  | turns + 1, x, c => do
    let c ← clockAdvanceFrame fuel c
    if x - 1 = 0 then some c else frameLoop fuel turns (x - 1) c

def clockAdvanceFrames (fuel : ℕ) (x : UInt16) (c : Clock) : Option Clock := frameLoop fuel fuel x c

/-- The frame counter is read for the difference, and again for the next one. -/
def clockPoll (fuel : ℕ) (frameCounter frameCounter' : UInt16) (c : Clock) : Option Clock :=
  let x := frameCounter - c.lastFrame
  if x = 0 then some c
  else
    let c := { c with lastFrame := frameCounter' }
    if c.valid then clockAdvanceFrames fuel x c else some c

end SnesModem.Asm
