import SnesModem.Lib.Units

/-!
# The Gregorian calendar

* `IsLeapYear`, `daysInYear`, `daysInMonth`: the lengths of the years and of the months;
* `DateTime`: a date and a time of day, not before the first year of an epoch;
* `seconds`: the seconds since the epoch, which determine the date (`seconds_inj`);
* `next`: the next second, with the carries (`seconds_next`).
-/

namespace SnesModem.Lib.Gregorian

open SnesModem.Lib.Units

def IsLeapYear (year : ℕ) : Prop := 4 ∣ year ∧ (100 ∣ year → 400 ∣ year)

instance (year : ℕ) : Decidable (IsLeapYear year) := inferInstanceAs (Decidable (_ ∧ _))

def daysInYear (year : ℕ) : ℕ := if IsLeapYear year then 366 else 365

def daysInMonth (year month : ℕ) : ℕ :=
  if month = 2 then
    if IsLeapYear year then 29 else 28
  else if month = 4 ∨ month = 6 ∨ month = 9 ∨ month = 11 then 30
  else 31

/-- The months make up the year. -/
lemma before_months (year : ℕ) : before (daysInMonth year) 1 13 = daysInYear year := by
  have hsum : before (daysInMonth year) 1 13 = daysInMonth year 1 + daysInMonth year 2 + daysInMonth year 3 +
      daysInMonth year 4 + daysInMonth year 5 + daysInMonth year 6 + daysInMonth year 7 + daysInMonth year 8 +
      daysInMonth year 9 + daysInMonth year 10 + daysInMonth year 11 + daysInMonth year 12 := by
    simp only [before, Finset.sum_Ico_succ_top, Nat.reduceLeDiff, Finset.Ico_self, Finset.sum_empty, zero_add]
  have hfebruary : daysInMonth year 2 + 337 = daysInYear year := by
    unfold daysInMonth daysInYear
    split_ifs <;> omega
  have hrest : ∀ month, month ≠ 2 → daysInMonth year month =
      if month = 4 ∨ month = 6 ∨ month = 9 ∨ month = 11 then 30 else 31 := fun month hmonth => if_neg hmonth
  rw [hsum, ← hfebruary]
  simp only [hrest 1, hrest 3, hrest 4, hrest 5, hrest 6, hrest 7, hrest 8, hrest 9, hrest 10, hrest 11, hrest 12, ne_eq,
    Nat.reduceEqDiff, not_false_eq_true, or_false, or_true, if_true, if_false, or_self]
  omega

lemma daysInMonth_pos (year month : ℕ) : 28 ≤ daysInMonth year month := by
  unfold daysInMonth
  split_ifs <;> omega

lemma daysInMonth_le (year month : ℕ) : daysInMonth year month ≤ 31 := by
  unfold daysInMonth
  split_ifs <;> omega

/-- A date and a time of day. -/
@[ext]
structure DateTime (epoch : ℕ) where
  year : ℕ
  month : ℕ
  day : ℕ
  hour : ℕ
  minute : ℕ
  second : ℕ
  epoch_le : epoch ≤ year
  month_pos : 1 ≤ month
  month_le : month ≤ 12
  day_pos : 1 ≤ day
  day_le : day ≤ daysInMonth year month
  hour_lt : hour < 24
  minute_lt : minute < 60
  second_lt : second < 60
  deriving DecidableEq, Repr

namespace DateTime

variable {epoch : ℕ} (d : DateTime epoch)

/-- The days of the year before the date. -/
def dayOfYear : ℕ := before (daysInMonth d.year) 1 d.month + (d.day - 1)

/-- The days since the first day of the epoch. -/
def days : ℕ := before daysInYear epoch d.year + d.dayOfYear

def seconds : ℕ := 86400 * d.days + (3600 * d.hour + (60 * d.minute + d.second))

lemma dayOfYear_lt : d.dayOfYear < daysInYear d.year := by
  have hmonth : before (daysInMonth d.year) 1 (d.month + 1) ≤ before (daysInMonth d.year) 1 13 :=
    before_mono (by have := d.month_le; omega)
  have hday := d.day_le
  have hpos := d.day_pos
  rw [before_succ d.month_pos, before_months] at hmonth
  unfold dayOfYear
  omega

/-- **The seconds determine the date.** -/
theorem seconds_inj {d d' : DateTime epoch} (h : d.seconds = d'.seconds) : d = d' := by
  have hhour := d.hour_lt
  have hhour' := d'.hour_lt
  have hminute := d.minute_lt
  have hminute' := d'.minute_lt
  have hsecond := d.second_lt
  have hsecond' := d'.second_lt
  unfold seconds at h
  have hdays : d.days = d'.days := by omega
  obtain ⟨hyear, hday⟩ := before_add_inj d.epoch_le d'.epoch_le d.dayOfYear_lt d'.dayOfYear_lt hdays
  unfold dayOfYear at hday
  rw [← hyear] at hday
  have hle := d.day_le
  have hle' := d'.day_le
  rw [← hyear] at hle'
  have hpos := d.day_pos
  have hpos' := d'.day_pos
  obtain ⟨hmonth, hday⟩ := before_add_inj d.month_pos d'.month_pos (by omega) (by omega) hday
  apply DateTime.ext
  · exact hyear
  · exact hmonth
  all_goals omega

/-- A date before the first second of a year is in an earlier year. -/
lemma year_lt {year : ℕ} (h : d.seconds < 86400 * before daysInYear epoch year) : d.year < year := by
  by_contra hge
  have hmono : before daysInYear epoch year ≤ before daysInYear epoch d.year := before_mono (not_lt.mp hge)
  unfold seconds days at h
  omega

/-! ### The next second -/

/-- The next second, as a carry goes through the fields. -/
def next : DateTime epoch :=
  if hsecond : d.second + 1 < 60 then { d with second := d.second + 1, second_lt := hsecond }
  else if hminute : d.minute + 1 < 60 then
    { d with minute := d.minute + 1, second := 0, minute_lt := hminute, second_lt := by omega }
  else if hhour : d.hour + 1 < 24 then
    { d with
      hour := d.hour + 1, minute := 0, second := 0
      hour_lt := hhour, minute_lt := by omega, second_lt := by omega }
  else if hday : d.day + 1 ≤ daysInMonth d.year d.month then
    { d with
      day := d.day + 1, hour := 0, minute := 0, second := 0
      day_pos := by omega, day_le := hday, hour_lt := by omega, minute_lt := by omega, second_lt := by omega }
  else if hmonth : d.month + 1 ≤ 12 then
    { d with
      month := d.month + 1, day := 1, hour := 0, minute := 0, second := 0
      month_pos := by omega, month_le := hmonth, day_pos := le_rfl
      day_le := le_trans (by omega) (daysInMonth_pos _ _)
      hour_lt := by omega, minute_lt := by omega, second_lt := by omega }
  else
    { d with
      year := d.year + 1, month := 1, day := 1, hour := 0, minute := 0, second := 0
      epoch_le := le_trans d.epoch_le (Nat.le_succ _), month_pos := le_rfl, month_le := by omega, day_pos := le_rfl
      day_le := le_trans (by omega) (daysInMonth_pos _ _)
      hour_lt := by omega, minute_lt := by omega, second_lt := by omega }

/-- **The next second** is one second later. -/
theorem seconds_next : d.next.seconds = d.seconds + 1 := by
  have hsecond := d.second_lt
  have hminute := d.minute_lt
  have hhour := d.hour_lt
  have hday := d.day_le
  have hday' := d.day_pos
  have hmonth := d.month_le
  unfold next
  split_ifs with hsecond' hminute' hhour' hnext hlast
  · simp only [seconds, days, dayOfYear]
    omega
  · simp only [seconds, days, dayOfYear]
    omega
  · simp only [seconds, days, dayOfYear]
    omega
  · simp only [seconds, days, dayOfYear]
    omega
  · simp only [seconds, days, dayOfYear, before_succ d.month_pos]
    omega
  · -- The months before December and December itself make up the year.
    have hmonths := before_months d.year
    have htwelve : d.month = 12 := by omega
    rw [before_succ (by omega), ← htwelve] at hmonths
    simp only [seconds, days, dayOfYear, before_succ d.epoch_le, before_start]
    omega

end DateTime

end SnesModem.Lib.Gregorian
