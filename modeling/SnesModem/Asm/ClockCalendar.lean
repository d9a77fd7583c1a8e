import SnesModem.Asm.Clock
import SnesModem.Lib.Gregorian

/-!
# The calendar that the clock is set to

* `Shows`: the fields of the clock are those of a date;
* `yearLoop_halts`, `monthLoop_halts`, `unitLoop_halts`: where the loops of the conversion stop;
* `clockSetUnixTime_halts`: the date is that of the seconds in JST, as far as 32 bits go;
* `converts_iff`: it is the date of the Unix time exactly if the seconds in JST fit 32 bits.
-/

namespace SnesModem.Asm.ClockCalendar

open SnesModem.Lib SnesModem.Lib.Gregorian SnesModem.Lib.Octets SnesModem.Lib.Units SnesModem.Lib.Words
open SnesModem.Asm.Clock

/-- The loops of the clock look at their steps at most so often. -/
abbrev clockFuel : ℕ := 256

/-- The fields of the clock are those of the date. -/
structure Shows (c : Clock) (d : DateTime 1970) : Prop where
  year : c.year.toNat = d.year
  month : c.month.toNat = d.month
  day : c.day.toNat = d.day
  hour : c.hour.toNat = d.hour
  minute : c.minute.toNat = d.minute
  second : c.second.toNat = d.second

/-! ### Subtraction and leap years -/

section Subtraction

variable {value remaining : Long}

lemma subtract_some (h : value.toNat ≤ remaining.toNat) :
    clockSubtractIfAtLeast value remaining = some (remaining.sub value).1 := by
  have hvalue := value.low.toNat_lt
  have hremaining := remaining.low.toNat_lt
  unfold Long.toNat at h
  unfold clockSubtractIfAtLeast
  rw [if_neg, if_neg]
  · rintro ⟨heq, hlow⟩
    have hhigh := congrArg UInt16.toNat heq
    have hless := UInt16.lt_iff_toNat_lt.mp hlow
    omega
  · intro hhigh
    have hless := UInt16.lt_iff_toNat_lt.mp hhigh
    omega

lemma subtract_none (h : remaining.toNat < value.toNat) : clockSubtractIfAtLeast value remaining = none := by
  have hvalue := value.low.toNat_lt
  have hremaining := remaining.low.toNat_lt
  unfold Long.toNat at h
  unfold clockSubtractIfAtLeast
  by_cases hhigh : remaining.high < value.high
  · rw [if_pos hhigh]
  · rw [if_neg hhigh, if_pos]
    have hge := mt UInt16.lt_iff_toNat_lt.mpr hhigh
    refine ⟨UInt16.toNat_inj.mp (by omega), UInt16.lt_iff_toNat_lt.mpr (by omega)⟩

/-- A turn takes the length of the unit off and goes on to the next one, if it fits. -/
lemma subtract_turn {ι : Type*} (unit : ι → ℕ) {index next : ι} {length : ℕ} (hlength : value.toNat = length)
    (hnext : unit next = unit index + 1) :
    if length ≤ remaining.toNat then
      ∃ s, (clockSubtractIfAtLeast value remaining).map (fun remaining => (next, remaining)) = some s ∧
        unit s.1 = unit index + 1 ∧ s.2.toNat = remaining.toNat - length
    else (clockSubtractIfAtLeast value remaining).map (fun remaining => (next, remaining)) = none := by
  rw [← hlength]
  split_ifs with hfits
  · rw [subtract_some hfits]
    exact ⟨_, rfl, hnext, Long.toNat_sub hfits⟩
  · rw [subtract_none (not_le.mp hfits)]
    rfl

end Subtraction

/-- The two century years of the range are taken care of. -/
lemma clockIsLeapYear_iff {year : UInt16} (hlow : 1900 < year.toNat) (hhigh : year.toNat < 2200) :
    clockIsLeapYear year = true ↔ IsLeapYear year.toNat := by
  have hand : (year &&& 0x0003).toNat = year.toNat % 4 := by
    rw [UInt16.toNat_and]
    exact Nat.and_two_pow_sub_one_eq_mod year.toNat 2
  have h2000 : year = 2000 ↔ year.toNat = 2000 := by
    rw [← UInt16.toNat_inj]
    rfl
  have h2100 : year = 2100 ↔ year.toNat = 2100 := by
    rw [← UInt16.toNat_inj]
    rfl
  have hzero : year &&& 0x0003 = 0 ↔ year.toNat % 4 = 0 := by
    rw [← UInt16.toNat_inj, hand]
    rfl
  unfold clockIsLeapYear IsLeapYear
  simp only [h2000, h2100, hzero]
  split_ifs with h h'
  · simp only [true_iff]
    omega
  · simp only [false_iff]
    omega
  · rw [decide_eq_true_iff]
    omega

/-! ### The loops -/

lemma toNat_succ_of_lt {year : UInt16} {limit : ℕ} (h : year.toNat < limit) (hlimit : limit < 2 ^ 16) :
    (year + 1).toNat = year.toNat + 1 := by
  have hone : (1 : UInt16).toNat = 1 := rfl
  rw [UInt16.toNat_add, hone]
  omega

lemma toNat_succ_of_lt8 {unit : UInt8} {limit : ℕ} (h : unit.toNat < limit) (hlimit : limit < 2 ^ 8) :
    (unit + 1).toNat = unit.toNat + 1 := by
  have hone : (1 : UInt8).toNat = 1 := rfl
  rw [UInt8.toNat_add, hone]
  omega

lemma yearLoop_halts (remaining : Long) :
    ∃ s, (∀ fuel, clockFuel ≤ fuel → loop yearStep fuel (1970, remaining) = some s) ∧
      1970 ≤ s.1.toNat ∧ s.1.toNat < 2107 ∧
      86400 * before daysInYear 1970 s.1.toNat + s.2.toNat = remaining.toNat ∧
      s.2.toNat < 86400 * daysInYear s.1.toNat := by
  have hstep : ∀ s : UInt16 × Long, 1970 ≤ s.1.toNat → s.1.toNat < 2107 →
      if 86400 * daysInYear s.1.toNat ≤ s.2.toNat then
        ∃ s', yearStep s = some s' ∧ s'.1.toNat = s.1.toNat + 1 ∧
          s'.2.toNat = s.2.toNat - 86400 * daysInYear s.1.toNat
      else yearStep s = none := by
    rintro ⟨year, remaining⟩ hlow hhigh
    dsimp only at hlow hhigh ⊢
    have hlength : (if clockIsLeapYear year then leapYearSeconds else commonYearSeconds : Long).toNat =
        86400 * daysInYear year.toNat := by
      have hleap := clockIsLeapYear_iff (by omega : 1900 < year.toNat) (by omega)
      unfold daysInYear
      simp only [hleap]
      split_ifs <;> rfl
    exact subtract_turn UInt16.toNat hlength (toNat_succ_of_lt hhigh (by decide))
  have hlimit : remaining.toNat < before (fun year => 86400 * daysInYear year) 1970 2107 := by
    have hrange : 2 ^ 32 < before (fun year => 86400 * daysInYear year) 1970 2107 := by decide +kernel
    have hlt := remaining.toNat_lt
    omega
  obtain ⟨s, hloop, hlow, hhigh, hsum, hrest⟩ := loop_units (fun s : UInt16 × Long => s.1.toNat)
    (fun s => s.2.toNat) (1970, remaining) hstep rfl hlimit
  rw [before_mul] at hsum
  refine ⟨s, fun fuel hfuel => hloop fuel ?_, hlow, hhigh, hsum, hrest⟩
  exact lt_of_lt_of_le (by decide : 2107 - 1970 < 256) hfuel

lemma monthLoop_halts {year : UInt16} (hlow : 1970 ≤ year.toNat) (hhigh : year.toNat < 2107) {remaining : Long}
    (h : remaining.toNat < 86400 * daysInYear year.toNat) :
    ∃ s, (∀ fuel, clockFuel ≤ fuel → loop (monthStep year) fuel (1, remaining) = some s) ∧
      1 ≤ s.1.toNat ∧ s.1.toNat < 13 ∧
      86400 * before (daysInMonth year.toNat) 1 s.1.toNat + s.2.toNat = remaining.toNat ∧
      s.2.toNat < 86400 * daysInMonth year.toNat s.1.toNat := by
  have hleap := clockIsLeapYear_iff (by omega : 1900 < year.toNat) (by omega)
  have hstep : ∀ s : UInt8 × Long, 1 ≤ s.1.toNat → s.1.toNat < 13 →
      if 86400 * daysInMonth year.toNat s.1.toNat ≤ s.2.toNat then
        ∃ s', monthStep year s = some s' ∧ s'.1.toNat = s.1.toNat + 1 ∧
          s'.2.toNat = s.2.toNat - 86400 * daysInMonth year.toNat s.1.toNat
      else monthStep year s = none := by
    rintro ⟨month, remaining⟩ hone htwelve
    dsimp only at hone htwelve ⊢
    have hlength : (if month = 0x02 then
        if clockIsLeapYear year then monthSeconds29 else monthSeconds28
        else if month = 0x04 ∨ month = 0x06 ∨ month = 0x09 ∨ month = 0x0b then monthSeconds30
        else monthSeconds31 : Long).toNat = 86400 * daysInMonth year.toNat month.toNat := by
      unfold daysInMonth
      simp only [hleap, ← UInt8.toNat_inj]
      split_ifs <;> first | rfl | simp_all
    exact subtract_turn UInt8.toNat hlength (toNat_succ_of_lt8 htwelve (by decide))
  have hlimit : remaining.toNat < before (fun month => 86400 * daysInMonth year.toNat month) 1 13 := by
    rw [before_mul, before_months]
    exact h
  obtain ⟨s, hloop, hone, htwelve, hsum, hrest⟩ := loop_units (fun s : UInt8 × Long => s.1.toNat)
    (fun s => s.2.toNat) (1, remaining) hstep rfl hlimit
  rw [before_mul] at hsum
  refine ⟨s, fun fuel hfuel => hloop fuel ?_, hone, htwelve, hsum, hrest⟩
  exact lt_of_lt_of_le (by decide : 13 - 1 < 256) hfuel

/-- Days, hours and minutes: each unit takes the same number of seconds. -/
lemma unitLoop_halts (seconds : Long) {start : UInt8} {limit : ℕ} (hlimit : limit < 2 ^ 8) {remaining : Long}
    (h : remaining.toNat < seconds.toNat * (limit - start.toNat)) :
    ∃ s, (∀ fuel, clockFuel ≤ fuel → loop (unitStep seconds) fuel (start, remaining) = some s) ∧
      start.toNat ≤ s.1.toNat ∧ s.1.toNat < limit ∧
      seconds.toNat * (s.1.toNat - start.toNat) + s.2.toNat = remaining.toNat ∧ s.2.toNat < seconds.toNat := by
  have hstep : ∀ s : UInt8 × Long, start.toNat ≤ s.1.toNat → s.1.toNat < limit →
      if seconds.toNat ≤ s.2.toNat then
        ∃ s', unitStep seconds s = some s' ∧ s'.1.toNat = s.1.toNat + 1 ∧ s'.2.toNat = s.2.toNat - seconds.toNat
      else unitStep seconds s = none := by
    rintro ⟨unit, remaining⟩ - hless
    exact subtract_turn UInt8.toNat rfl (toNat_succ_of_lt8 hless hlimit)
  rw [← before_const] at h
  obtain ⟨s, hloop, hge, hless, hsum, hrest⟩ := loop_units (fun s : UInt8 × Long => s.1.toNat)
    (fun s => s.2.toNat) (start, remaining) hstep rfl h
  rw [before_const] at hsum
  refine ⟨s, fun fuel (hfuel : 256 ≤ fuel) => hloop fuel ?_, hge, hless, hsum, hrest⟩
  omega

/-! ### The display -/

lemma yearDigit_halts (unit : UInt16) {a : UInt16} (y : UInt16) (hunit : 0 < unit.toNat)
    (ha : a.toNat < 255 * unit.toNat) :
    ∃ s, (∀ fuel, clockFuel ≤ fuel → loop (yearDigitStep unit) fuel (a, y) = some s) ∧ s.1.toNat < unit.toNat := by
  have hturn : ∀ s s' : UInt16 × UInt16, True → yearDigitStep unit s = some s' →
      True ∧ s'.1.toNat / unit.toNat < s.1.toNat / unit.toNat := by
    rintro ⟨a, y⟩ s' - hturn
    simp only [yearDigitStep] at hturn
    split_ifs at hturn with hless
    cases hturn
    have hle := not_lt.mp (mt UInt16.lt_iff_toNat_lt.mpr hless)
    have hdiv := Nat.div_eq_sub_div hunit hle
    refine ⟨trivial, ?_⟩
    dsimp only
    rw [UInt16.toNat_sub_of_le _ _ (UInt16.le_iff_toNat_le.mpr hle), hdiv]
    omega
  obtain ⟨s, hloop, -, hend⟩ := loop_halts (fun _ : UInt16 × UInt16 => True) (fun s => s.1.toNat / unit.toNat) hturn
    trivial
  refine ⟨s, fun fuel hfuel => hloop fuel ?_, ?_⟩
  · have hless : a.toNat / unit.toNat < 255 := (Nat.div_lt_iff_lt_mul hunit).mpr ha
    exact lt_trans hless (lt_of_lt_of_le (by decide : 255 < 256) hfuel)
  · by_contra hge
    have hnot : ¬ s.1 < unit := fun hless => hge (UInt16.lt_iff_toNat_lt.mp hless)
    have hturns : yearDigitStep unit s = some (s.1 - unit, s.2 + 1) := if_neg hnot
    rw [hturns] at hend
    cases hend

lemma tens_halts (a : UInt8) (y : UInt16) :
    ∃ s, ∀ fuel, clockFuel ≤ fuel → loop tensStep fuel (a, y) = some s := by
  have hturn : ∀ s s' : UInt8 × UInt16, True → tensStep s = some s' → True ∧ s'.1.toNat < s.1.toNat := by
    rintro ⟨a, y⟩ s' - hturn
    simp only [tensStep] at hturn
    split_ifs at hturn with hless
    cases hturn
    have hten : (10 : UInt8).toNat = 10 := rfl
    have hle := not_lt.mp (mt UInt8.lt_iff_toNat_lt.mpr hless)
    refine ⟨trivial, ?_⟩
    dsimp only
    rw [UInt8.toNat_sub_of_le _ _ (UInt8.le_iff_toNat_le.mpr hle)]
    omega
  obtain ⟨s, hloop, -, -⟩ := loop_halts (fun _ : UInt8 × UInt16 => True) (fun s => s.1.toNat) hturn trivial
  exact ⟨s, fun fuel hfuel => hloop fuel (lt_of_lt_of_le a.toNat_lt hfuel)⟩

lemma writeYear_halts (text : Buffer) (offset : ℕ) (year : UInt16) :
    ∃ text', ∀ fuel, clockFuel ≤ fuel → writeYear fuel text offset year = some text' := by
  obtain ⟨⟨a, thousands⟩, hthousands, ha⟩ := yearDigit_halts 1000 (a := year) 0x30 (by decide)
    (lt_trans year.toNat_lt (by decide))
  obtain ⟨⟨a', hundreds⟩, hhundreds, ha'⟩ := yearDigit_halts 100 (a := a) 0x30 (by decide)
    (lt_trans ha (by decide))
  obtain ⟨⟨a'', tens⟩, htens, -⟩ := yearDigit_halts 10 (a := a') 0x30 (by decide) (lt_trans ha' (by decide))
  refine ⟨write text offset [thousands.toUInt8, hundreds.toUInt8, tens.toUInt8, a''.toUInt8 + 0x30], ?_⟩
  intro fuel hfuel
  unfold writeYear
  simp only [hthousands fuel hfuel, hhundreds fuel hfuel, htens fuel hfuel, Option.bind_eq_bind, Option.bind_some]

lemma writeTwoDigits_halts (text : Buffer) (offset : ℕ) (value : UInt8) :
    ∃ text', ∀ fuel, clockFuel ≤ fuel → writeTwoDigits fuel text offset value = some text' := by
  obtain ⟨⟨a, tens⟩, htens⟩ := tens_halts value 0x30
  refine ⟨write text offset [tens.toUInt8, a + 0x30], fun fuel hfuel => ?_⟩
  unfold writeTwoDigits
  rw [htens fuel hfuel]
  rfl

/-- The display changes and nothing else does. -/
lemma clockFormatDisplay_halts (c : Clock) :
    ∃ text, ∀ fuel, clockFuel ≤ fuel → clockFormatDisplay fuel c = some { c with displayText := text } := by
  obtain ⟨text, hyear⟩ := writeYear_halts c.displayText 0 c.year
  let marks := write (write (write (write text 4 [0x2d]) 7 [0x2d]) 10 [0x20]) 19 [0x20]
  obtain ⟨text, hmonth⟩ := writeTwoDigits_halts
    (write (write (write marks 13 [0x3a]) 16 [0x3a]) 20 [0x4a, 0x53, 0x54]) 0x05 c.month
  obtain ⟨text, hday⟩ := writeTwoDigits_halts text 0x08 c.day
  obtain ⟨text, hhour⟩ := writeTwoDigits_halts text 0x0b c.hour
  obtain ⟨text, hminute⟩ := writeTwoDigits_halts text 0x0e c.minute
  obtain ⟨text, hsecond⟩ := writeTwoDigits_halts text 0x11 c.second
  refine ⟨text, fun fuel hfuel => ?_⟩
  unfold clockFormatDisplay
  simp only [hyear fuel hfuel, Option.bind_eq_bind, Option.bind_some]
  simp only [marks] at hmonth
  simp only [hmonth fuel hfuel, hday fuel hfuel, hhour fuel hfuel, hminute fuel hfuel, hsecond fuel hfuel,
    Option.bind_some]

/-! ### The conversion -/

lemma decomposeJst_halts (c : Clock) :
    ∃ c', (∀ fuel, clockFuel ≤ fuel → decomposeJst fuel c = some c') ∧
      (∃ d : DateTime 1970, Shows c' d ∧ d.seconds = (c.unixSeconds.toNat + 32400) % 2 ^ 32) ∧
      c'.unixSeconds = c.unixSeconds ∧ c'.subsecond = c.subsecond ∧ c'.lastFrame = c.lastFrame ∧
      c'.valid = c.valid := by
  have hjst := c.unixSeconds.toNat_add_mod jstOffsetSeconds
  have hoffset : jstOffsetSeconds.toNat = 32400 := rfl
  rw [hoffset] at hjst
  obtain ⟨⟨year, r1⟩, hyears, hlow, hhigh, hsum1, hrest1⟩ := yearLoop_halts (c.unixSeconds.add jstOffsetSeconds).1
  obtain ⟨⟨month, r2⟩, hmonths, hmonth, hmonth', hsum2, hrest2⟩ := monthLoop_halts hlow hhigh hrest1
  have hdayLimit : r2.toNat < daySeconds.toNat * (daysInMonth year.toNat month.toNat + 1 - (1 : UInt8).toNat) := hrest2
  have hday32 : daysInMonth year.toNat month.toNat + 1 < 2 ^ 8 := by
    have hle := daysInMonth_le year.toNat month.toNat
    omega
  obtain ⟨⟨day, r3⟩, hdays, hday, hday', hsum3, hrest3⟩ := unitLoop_halts daySeconds hday32 hdayLimit
  have hhourLimit : r3.toNat < hourSeconds.toNat * (24 - (0 : UInt8).toNat) := hrest3
  obtain ⟨⟨hour, r4⟩, hhours, -, hhour, hsum4, hrest4⟩ := unitLoop_halts hourSeconds (by decide) hhourLimit
  have hminuteLimit : r4.toNat < minuteSeconds.toNat * (60 - (0 : UInt8).toNat) := hrest4
  obtain ⟨⟨minute, r5⟩, hminutes, -, hminute, hsum5, hrest5⟩ := unitLoop_halts minuteSeconds (by decide) hminuteLimit
  dsimp only at hlow hhigh hsum1 hmonth hmonth' hsum2 hday hday' hsum3 hhour hsum4 hminute hsum5 hrest5
  have hone : (1 : UInt8).toNat = 1 := rfl
  have hzero : (0 : UInt8).toNat = 0 := rfl
  have hdaySeconds : daySeconds.toNat = 86400 := rfl
  have hhourSeconds : hourSeconds.toNat = 3600 := rfl
  have hminuteSeconds : minuteSeconds.toNat = 60 := rfl
  rw [hone, hdaySeconds] at hsum3
  rw [hone] at hday
  rw [hzero, hhourSeconds] at hsum4
  rw [hzero, hminuteSeconds] at hsum5
  rw [hminuteSeconds] at hrest5
  have hlast : r5.low.toNat = r5.toNat := by
    unfold Long.toNat at hrest5 ⊢
    omega
  let d : DateTime 1970 :=
    { year := year.toNat
      month := month.toNat
      day := day.toNat
      hour := hour.toNat
      minute := minute.toNat
      second := r5.toNat
      epoch_le := hlow
      month_pos := hmonth
      month_le := Nat.le_of_lt_succ hmonth'
      day_pos := hday
      day_le := Nat.le_of_lt_succ hday'
      hour_lt := hhour
      minute_lt := hminute
      second_lt := hrest5 }
  let converted : Clock :=
    { c with
      year := year, month := month, day := day, hour := hour, minute := minute, second := r5.low.toUInt8
      conversionRemaining := r5 }
  refine ⟨converted, fun fuel hfuel => ?_, ⟨d, ⟨rfl, rfl, rfl, rfl, rfl, ?_⟩, ?_⟩, rfl, rfl, rfl, rfl⟩
  · unfold decomposeJst
    simp only [hyears fuel hfuel, hmonths fuel hfuel, hdays fuel hfuel, hhours fuel hfuel, hminutes fuel hfuel,
      Option.bind_eq_bind, Option.bind_some, converted]
  · show r5.low.toUInt8.toNat = r5.toNat
    rw [UInt16.toNat_toUInt8, hlast]
    exact Nat.mod_eq_of_lt (by omega)
  · show 86400 * (before daysInYear 1970 year.toNat +
      (before (daysInMonth year.toNat) 1 month.toNat + (day.toNat - 1))) +
      (3600 * hour.toNat + (60 * minute.toNat + r5.toNat)) = _
    rw [← hjst]
    omega

/-- **Setting the clock** ends, and the date is that of the seconds in JST, as far as 32 bits go. -/
theorem clockSetUnixTime_halts (a x y frameCounter : UInt16) (c : Clock) :
    ∃ c', (∀ fuel, clockFuel ≤ fuel → clockSetUnixTime fuel a x y frameCounter c = some c') ∧
      (∃ d : DateTime 1970, Shows c' d ∧ d.seconds = ((⟨a, x⟩ : Long).toNat + 32400) % 2 ^ 32) ∧
      c'.unixSeconds = ⟨a, x⟩ ∧ c'.subsecond = ⟨0, y⟩ ∧ c'.lastFrame = frameCounter ∧ c'.valid = true := by
  let set : Clock := { c with unixSeconds := ⟨a, x⟩, subsecond := ⟨0, y⟩, lastFrame := frameCounter, valid := true }
  obtain ⟨c', hdecompose, ⟨d, hshows, hseconds⟩, hunix, hsubsecond, hframe, hvalid⟩ := decomposeJst_halts set
  obtain ⟨text, hdisplay⟩ := clockFormatDisplay_halts c'
  refine ⟨{ c' with displayText := text }, fun fuel hfuel => ?_, ⟨d, ?_, hseconds⟩, hunix, hsubsecond, hframe, hvalid⟩
  · show (decomposeJst fuel set).bind (fun c => clockFormatDisplay fuel c) = _
    rw [hdecompose fuel hfuel]
    exact hdisplay fuel hfuel
  · exact ⟨hshows.year, hshows.month, hshows.day, hshows.hour, hshows.minute, hshows.second⟩

/-- The clock is set to the date and time of day of the Unix time in JST, whatever fuel is enough. -/
def Converts (a x y frameCounter : UInt16) (c : Clock) : Prop :=
  ∃ c', (∀ fuel, clockFuel ≤ fuel → clockSetUnixTime fuel a x y frameCounter c = some c') ∧
    ∃ d : DateTime 1970, d.seconds = (⟨a, x⟩ : Long).toNat + 32400 ∧ Shows c' d

lemma Shows.unique {c : Clock} {d d' : DateTime 1970} (h : Shows c d) (h' : Shows c d') : d = d' := by
  apply DateTime.ext
  · rw [← h.year, h'.year]
  · rw [← h.month, h'.month]
  · rw [← h.day, h'.day]
  · rw [← h.hour, h'.hour]
  · rw [← h.minute, h'.minute]
  · rw [← h.second, h'.second]

section Converts

variable {a x y frameCounter : UInt16} {c : Clock}

lemma converts_of_lt (h : (⟨a, x⟩ : Long).toNat + 32400 < 2 ^ 32) : Converts a x y frameCounter c := by
  obtain ⟨c', hset, ⟨d, hshows, hseconds⟩, -⟩ := clockSetUnixTime_halts a x y frameCounter c
  rw [Nat.mod_eq_of_lt h] at hseconds
  exact ⟨c', hset, d, hseconds, hshows⟩

/-- The sum that does not fit shows a date of 1970. -/
lemma not_converts_of_le (h : 2 ^ 32 ≤ (⟨a, x⟩ : Long).toNat + 32400) : ¬ Converts a x y frameCounter c := by
  rintro ⟨c', hset, d, hseconds, hshows⟩
  obtain ⟨c'', hset', ⟨d', hshows', hseconds'⟩, -⟩ := clockSetUnixTime_halts a x y frameCounter c
  obtain rfl : c' = c'' := Option.some_injective _ ((hset clockFuel le_rfl).symm.trans (hset' clockFuel le_rfl))
  obtain rfl := hshows.unique hshows'
  have hlt := Nat.mod_lt ((⟨a, x⟩ : Long).toNat + 32400) (by decide : 0 < 2 ^ 32)
  omega

end Converts

/-- The conversion is right exactly for the seconds that the offset does not carry beyond 32 bits. -/
theorem converts_iff (a x y frameCounter : UInt16) (c : Clock) :
    Converts a x y frameCounter c ↔ (⟨a, x⟩ : Long).toNat + 32400 < 2 ^ 32 := by
  constructor
  · intro h
    by_contra hover
    exact not_converts_of_le (not_lt.mp hover) h
  · exact converts_of_lt

/-- The last second of the range. -/
theorem last_second_wraps : ¬ Converts 0xffff 0xffff 0 0 default := not_converts_of_le (by decide)

end SnesModem.Asm.ClockCalendar
