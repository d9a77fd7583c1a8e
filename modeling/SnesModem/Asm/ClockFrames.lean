import SnesModem.Asm.ClockCalendar

/-!
# The clock, frame by frame

* `clockIncrementCalendar_shows`: the calendar goes on to the next second;
* `Follows`: the clock is so many fractions of a second after 1970, and shows the date of its seconds;
* `frameLoop_follows`, `advances_follow`: frames add their fractions, whatever calls they come in;
* `advances_agree`: no fraction is lost, and the calendar is the one that the clock would be set to.
-/

namespace SnesModem.Asm.ClockFrames

open SnesModem.Lib SnesModem.Lib.Gregorian SnesModem.Lib.Units SnesModem.Lib.Words
open SnesModem.Asm.Clock SnesModem.Asm.ClockCalendar

/-! ### The next second -/

section Calendar

variable {c : Clock} {d : DateTime 1970}

lemma clockDaysInMonth_toNat (h : Shows c d) (hyear : d.year < 2107) :
    (clockDaysInMonth c).toNat = daysInMonth d.year d.month := by
  have hepoch := d.epoch_le
  have hyear' := h.year
  have hleap := clockIsLeapYear_iff (by omega : 1900 < c.year.toNat) (by omega)
  unfold clockDaysInMonth daysInMonth
  simp only [hleap, ← UInt8.toNat_inj, h.year, h.month]
  split_ifs <;> first | rfl | simp_all

/-- The carry chain of the clock is that of the calendar. -/
lemma clockIncrementCalendar_shows (h : Shows c d) (hyear : d.year < 2107) :
    Shows (clockIncrementCalendar c) d.next := by
  have hsecond : (c.second + 1).toNat = d.second + 1 := by
    rw [← h.second]
    exact toNat_succ_of_lt8 (h.second ▸ d.second_lt) (by decide)
  have hminute : (c.minute + 1).toNat = d.minute + 1 := by
    rw [← h.minute]
    exact toNat_succ_of_lt8 (h.minute ▸ d.minute_lt) (by decide)
  have hhour : (c.hour + 1).toNat = d.hour + 1 := by
    rw [← h.hour]
    exact toNat_succ_of_lt8 (h.hour ▸ d.hour_lt) (by decide)
  have hday : (c.day + 1).toNat = d.day + 1 := by
    have hle := d.day_le.trans (daysInMonth_le d.year d.month)
    rw [← h.day]
    exact toNat_succ_of_lt8 (h.day ▸ Nat.lt_succ_of_le hle) (by decide)
  have hmonth : (c.month + 1).toNat = d.month + 1 := by
    rw [← h.month]
    exact toNat_succ_of_lt8 (h.month ▸ Nat.lt_succ_of_le d.month_le) (by decide)
  have hnextYear : (c.year + 1).toNat = d.year + 1 := by
    rw [← h.year]
    exact toNat_succ_of_lt (h.year ▸ hyear) (by decide)
  have hminutes : c.second + 1 < 60 ↔ d.second + 1 < 60 := by
    rw [UInt8.lt_iff_toNat_lt, hsecond]
    rfl
  have hhours : c.minute + 1 < 60 ↔ d.minute + 1 < 60 := by
    rw [UInt8.lt_iff_toNat_lt, hminute]
    rfl
  have hdays : c.hour + 1 < 24 ↔ d.hour + 1 < 24 := by
    rw [UInt8.lt_iff_toNat_lt, hhour]
    rfl
  have hmonths : c.day + 1 ≤ clockDaysInMonth { c with second := 0, minute := 0, hour := 0, day := c.day + 1 } ↔
      d.day + 1 ≤ daysInMonth d.year d.month := by
    rw [UInt8.le_iff_toNat_le, hday, ← clockDaysInMonth_toNat h hyear]
    rfl
  have hyears : c.month + 1 < 13 ↔ d.month + 1 ≤ 12 := by
    rw [UInt8.lt_iff_toNat_lt, hmonth]
    exact Nat.lt_succ_iff
  unfold clockIncrementCalendar DateTime.next
  simp only [hminutes, hhours, hdays, hmonths, hyears]
  split_ifs
  · exact { h with second := hsecond }
  · exact { h with second := rfl, minute := hminute }
  · exact { h with second := rfl, minute := rfl, hour := hhour }
  · exact { h with second := rfl, minute := rfl, hour := rfl, day := hday }
  · exact { h with second := rfl, minute := rfl, hour := rfl, day := rfl, month := hmonth }
  · exact { second := rfl, minute := rfl, hour := rfl, day := rfl, month := rfl, year := hnextYear }

end Calendar

/-! ### Frames -/

/-- The time in fractions of a second, `2 ^ 32` of which make up one. -/
def time (c : Clock) : ℕ := 2 ^ 32 * c.unixSeconds.toNat + c.subsecond.toNat

/-- The seconds of the time are those of a calendar of 32 bits in JST. -/
def Fits (time : ℕ) : Prop := time / 2 ^ 32 + 32400 < 2 ^ 32

/-- The clock has this time, and shows the date of its seconds. -/
structure Follows (c : Clock) (n : ℕ) : Prop where
  time : time c = n
  shows : ∃ d : DateTime 1970, Shows c d ∧ d.seconds = c.unixSeconds.toNat + 32400

section Frames

variable {c : Clock} {n : ℕ}

lemma Fits.mono {m : ℕ} (h : Fits n) (hle : m ≤ n) : Fits m := by
  unfold Fits at h ⊢
  have hdiv := Nat.div_le_div_right (c := 2 ^ 32) hle
  omega

lemma time_div (c : Clock) : time c / 2 ^ 32 = c.unixSeconds.toNat := by
  have hlt := c.subsecond.toNat_lt
  unfold time
  omega

/-- **One frame** adds its fraction. -/
lemma clockAdvanceFrame_follows (h : Follows c n) (hfits : Fits (n + frameFraction.toNat)) :
    ∃ c', (∀ fuel, clockFuel ≤ fuel → clockAdvanceFrame fuel c = some c') ∧ Follows c' (n + frameFraction.toNat) := by
  obtain ⟨htime, d, hshows, hseconds⟩ := h
  have hsum := c.subsecond.toNat_add frameFraction
  have hlt := c.subsecond.toNat_lt
  have hsumLt := (c.subsecond.add frameFraction).1.toNat_lt
  have hfraction : frameFraction.toNat = 0x04427885 := rfl
  unfold Fits at hfits
  unfold time at htime
  unfold clockAdvanceFrame
  dsimp only
  cases hcarry : (c.subsecond.add frameFraction).2 with
  | false =>
    refine ⟨{ c with subsecond := (c.subsecond.add frameFraction).1 }, fun _ _ => by simp, ⟨?_, d, ?_, hseconds⟩⟩
    · rw [hcarry, Bool.toNat_false] at hsum
      unfold time
      dsimp only
      omega
    · exact ⟨hshows.year, hshows.month, hshows.day, hshows.hour, hshows.minute, hshows.second⟩
  | true =>
    -- The second that begins is one second after the one that ends, for the clock as for the calendar.
    rw [hcarry, Bool.toNat_true] at hsum
    have hticked : 2 ^ 32 * (c.unixSeconds.toNat + 1) + (c.subsecond.add frameFraction).1.toNat =
        n + frameFraction.toNat := by omega
    let ticked : Clock :=
      { c with subsecond := (c.subsecond.add frameFraction).1, unixSeconds := c.unixSeconds.inc }
    obtain ⟨text, hdisplay⟩ := clockFormatDisplay_halts (clockIncrementCalendar ticked)
    have hinc : c.unixSeconds.inc.toNat = c.unixSeconds.toNat + 1 := by
      rw [Long.toNat_inc]
      omega
    have hnextSeconds : d.next.seconds = c.unixSeconds.inc.toNat + 32400 := by
      have hone := d.seconds_next
      omega
    have hrange : d.year < 2107 := by
      apply d.year_lt
      have hlimit : 2 ^ 32 < 86400 * before daysInYear 1970 2107 := by decide +kernel
      have hjst : c.unixSeconds.toNat + 32400 < 2 ^ 32 := by omega
      omega
    have hnext : Shows (clockIncrementCalendar ticked) d.next :=
      clockIncrementCalendar_shows (c := ticked)
        ⟨hshows.year, hshows.month, hshows.day, hshows.hour, hshows.minute, hshows.second⟩ hrange
    have hsame : (clockIncrementCalendar ticked).unixSeconds = c.unixSeconds.inc ∧
        (clockIncrementCalendar ticked).subsecond = (c.subsecond.add frameFraction).1 := by
      unfold clockIncrementCalendar
      dsimp only
      split_ifs <;> exact ⟨rfl, rfl⟩
    refine ⟨{ clockIncrementCalendar ticked with displayText := text }, fun fuel hfuel => ?_, ⟨?_, d.next, ?_, ?_⟩⟩
    · rw [if_pos rfl]
      exact hdisplay fuel hfuel
    · unfold time
      dsimp only
      rw [hsame.1, hsame.2, hinc]
      exact hticked
    · exact ⟨hnext.year, hnext.month, hnext.day, hnext.hour, hnext.minute, hnext.second⟩
    · dsimp only
      rw [hsame.1]
      exact hnextSeconds

/-- The loop over the frames, of which each turn keeps a property of the clock and the frames so far. -/
lemma frameLoop_rule {P : ℕ → Clock → Prop} {x : UInt16} (hx : x ≠ 0) (hframe : ∀ k < x.toNat, ∀ c, P k c →
      ∃ c', (∀ fuel, clockFuel ≤ fuel → clockAdvanceFrame fuel c = some c') ∧ P (k + 1) c')
    {c : Clock} (h : P 0 c) :
    ∃ c', (∀ fuel turns, clockFuel ≤ fuel → x.toNat ≤ turns → frameLoop fuel turns x c = some c') ∧ P x.toNat c' := by
  induction hcount : x.toNat generalizing x c P with
  | zero => exact absurd (UInt16.toNat_inj.mp hcount) hx
  | succ count ih =>
    have hpred : (x - 1).toNat = count := by
      have hone : (1 : UInt16).toNat = 1 := rfl
      rw [UInt16.toNat_sub_of_le, hcount, hone]
      · omega
      · rw [UInt16.le_iff_toNat_le, hcount, hone]
        omega
    obtain ⟨c1, hturn, h1⟩ := hframe 0 (by omega) c h
    by_cases hlast : x - 1 = 0
    · have hzero : count = 0 := by
        rw [← hpred, hlast]
        rfl
      subst hzero
      refine ⟨c1, fun fuel turns hfuel hturns => ?_, h1⟩
      obtain ⟨turns, rfl⟩ : ∃ k, turns = k + 1 := ⟨turns - 1, by omega⟩
      simp only [frameLoop, hturn fuel hfuel, Option.bind_eq_bind, Option.bind_some]
      exact if_pos hlast
    · -- The turns that are left keep the property, with one frame more.
      obtain ⟨c', hrest, h'⟩ := ih (P := fun k => P (k + 1)) hlast
        (fun k hk c => hframe (k + 1) (by omega) c) h1 hpred
      refine ⟨c', fun fuel turns hfuel hturns => ?_, h'⟩
      obtain ⟨turns, rfl⟩ : ∃ k, turns = k + 1 := ⟨turns - 1, by omega⟩
      simp only [frameLoop, hturn fuel hfuel, Option.bind_eq_bind, Option.bind_some]
      rw [if_neg hlast]
      exact hrest fuel turns hfuel (by omega)

/-- **A count of frames** adds as many fractions; the count of zero is not asked for. -/
lemma frameLoop_follows (x : UInt16) (h : Follows c n) (hx : x ≠ 0)
    (hfits : Fits (n + x.toNat * frameFraction.toNat)) :
    ∃ c', (∀ fuel turns, clockFuel ≤ fuel → x.toNat ≤ turns → frameLoop fuel turns x c = some c') ∧
      Follows c' (n + x.toNat * frameFraction.toNat) := by
  refine frameLoop_rule (P := fun k c => Follows c (n + k * frameFraction.toNat)) hx ?_ (by simpa using h)
  intro k hk c hfollows
  have hmore : (k + 1) * frameFraction.toNat ≤ x.toNat * frameFraction.toNat := Nat.mul_le_mul_right _ hk
  rw [Nat.succ_mul] at hmore ⊢
  rw [← Nat.add_assoc]
  exact clockAdvanceFrame_follows hfollows (hfits.mono (by omega))

end Frames

/-! ### Calls -/

/-- Calls of `clockAdvanceFrames` with these counts. -/
def advances (fuel : ℕ) (counts : List UInt16) (c : Clock) : Option Clock :=
  counts.foldlM (fun c x => clockAdvanceFrames fuel x c) c

/-- So many looks are enough for the loops of any call. -/
abbrev frameFuel : ℕ := 65536

/-- The frames of the calls. -/
def frames (counts : List UInt16) : ℕ := (counts.map UInt16.toNat).sum

lemma frames_cons (x : UInt16) (counts : List UInt16) : frames (x :: counts) = x.toNat + frames counts := by
  simp [frames]

/-- **Calls** add the fractions of all their frames. -/
theorem advances_follow {c : Clock} {n : ℕ} (counts : List UInt16) (h : Follows c n) (hcounts : ∀ x ∈ counts, x ≠ 0)
    (hfits : Fits (n + frames counts * frameFraction.toNat)) :
    ∃ c', (∀ fuel, frameFuel ≤ fuel → advances fuel counts c = some c') ∧
      Follows c' (n + frames counts * frameFraction.toNat) := by
  induction counts generalizing c n with
  | nil => exact ⟨c, fun _ _ => rfl, by simpa [frames] using h⟩
  | cons x counts ih =>
    rw [frames_cons, Nat.add_mul, ← Nat.add_assoc] at hfits ⊢
    obtain ⟨c1, hcall, hfollows⟩ := frameLoop_follows x h (hcounts x List.mem_cons_self)
      (hfits.mono (Nat.le_add_right _ _))
    obtain ⟨c', hrest, hfollows'⟩ := ih hfollows (fun y hy => hcounts y (List.mem_cons_of_mem x hy)) hfits
    refine ⟨c', fun fuel hfuel => ?_, hfollows'⟩
    have hfirst : clockAdvanceFrames fuel x c = some c1 :=
      hcall fuel fuel (le_trans (by decide : 256 ≤ 65536) hfuel) (le_trans x.toNat_lt.le hfuel)
    unfold advances
    rw [List.foldlM_cons, hfirst]
    exact hrest fuel hfuel

/-- The date and the time of day are the same. -/
structure SameCalendar (c c' : Clock) : Prop where
  year : c'.year = c.year
  month : c'.month = c.month
  day : c'.day = c.day
  hour : c'.hour = c.hour
  minute : c'.minute = c.minute
  second : c'.second = c.second

lemma sameCalendar_of_shows {c c' : Clock} {d : DateTime 1970} (h : Shows c d) (h' : Shows c' d) :
    SameCalendar c c' where
  year := UInt16.toNat_inj.mp (h'.year.trans h.year.symm)
  month := UInt8.toNat_inj.mp (h'.month.trans h.month.symm)
  day := UInt8.toNat_inj.mp (h'.day.trans h.day.symm)
  hour := UInt8.toNat_inj.mp (h'.hour.trans h.hour.symm)
  minute := UInt8.toNat_inj.mp (h'.minute.trans h.minute.symm)
  second := UInt8.toNat_inj.mp (h'.second.trans h.second.symm)

/-- The clock has the time `n`, and a clock that is set to its seconds shows the same. -/
structure Agrees (c : Clock) (n : ℕ) : Prop where
  time : time c = n
  calendar : ∀ (y frameCounter : UInt16) (before : Clock), ∃ c',
    (∀ fuel, frameFuel ≤ fuel →
      clockSetUnixTime fuel c.unixSeconds.low c.unixSeconds.high y frameCounter before = some c') ∧ SameCalendar c' c

lemma Follows.agrees {c : Clock} {n : ℕ} (h : Follows c n) (hfits : Fits n) : Agrees c n where
  time := h.time
  calendar y frameCounter before := by
    obtain ⟨htime, d, hshows, hseconds⟩ := h
    obtain ⟨c', hset, ⟨d', hshows', hseconds'⟩, -⟩ :=
      clockSetUnixTime_halts c.unixSeconds.low c.unixSeconds.high y frameCounter before
    unfold Fits at hfits
    rw [← htime, time_div] at hfits
    have hsame : d' = d := by
      apply DateTime.seconds_inj
      rw [hseconds', hseconds]
      exact Nat.mod_eq_of_lt hfits
    rw [hsame] at hshows'
    refine ⟨c', fun fuel hfuel => ?_, sameCalendar_of_shows hshows' hshows⟩
    exact hset fuel (le_trans (by decide : 256 ≤ 65536) hfuel)

/-- From the time to which it is set the clock goes on frame by frame, whatever calls the frames come in. -/
theorem advances_agree (a x y frameCounter : UInt16) (c : Clock) (counts : List UInt16)
    (hcounts : ∀ n ∈ counts, n ≠ 0)
    (hfits : Fits (2 ^ 32 * (⟨a, x⟩ : Long).toNat + 2 ^ 16 * y.toNat + frames counts * 0x04427885)) :
    ∃ set advanced, (∀ fuel, frameFuel ≤ fuel → clockSetUnixTime fuel a x y frameCounter c = some set ∧
        advances fuel counts set = some advanced) ∧
      Agrees advanced (2 ^ 32 * (⟨a, x⟩ : Long).toNat + 2 ^ 16 * y.toNat + frames counts * 0x04427885) := by
  obtain ⟨set, hset, ⟨d, hshows, hseconds⟩, hunix, hsubsecond, -⟩ := clockSetUnixTime_halts a x y frameCounter c
  have htime : time set = 2 ^ 32 * (⟨a, x⟩ : Long).toNat + 2 ^ 16 * y.toNat := by
    have hlow : (0 : UInt16).toNat = 0 := rfl
    unfold time
    rw [hunix, hsubsecond]
    simp only [Long.toNat, hlow]
    omega
  have hfollows : Follows set (2 ^ 32 * (⟨a, x⟩ : Long).toNat + 2 ^ 16 * y.toNat) := by
    refine ⟨htime, d, hshows, ?_⟩
    have hstart := hfits.mono (Nat.le_add_right _ _)
    unfold Fits at hstart
    rw [← htime, time_div, hunix] at hstart
    rw [hseconds, hunix]
    exact Nat.mod_eq_of_lt hstart
  obtain ⟨advanced, hadvances, hfollows'⟩ := advances_follow counts hfollows hcounts hfits
  refine ⟨set, advanced, fun fuel hfuel => ⟨?_, hadvances fuel hfuel⟩, hfollows'.agrees hfits⟩
  exact hset fuel (le_trans (by decide : 256 ≤ 65536) hfuel)

/-- Over the end of 1970 in JST. -/
theorem advances_agree_newYear :
    (∀ n ∈ [60, 1, 200], n ≠ (0 : UInt16)) ∧
      ∃ set advanced, (∀ fuel, frameFuel ≤ fuel → clockSetUnixTime fuel 46319 480 0x8000 0 default = some set ∧
          advances fuel [60, 1, 200] set = some advanced) ∧
        Agrees advanced (2 ^ 32 * (⟨46319, 480⟩ : Long).toNat + 2 ^ 16 * (0x8000 : UInt16).toNat +
          frames [60, 1, 200] * 0x04427885) :=
  ⟨by simp, advances_agree 46319 480 0x8000 0 default [60, 1, 200] (by simp) (by unfold Fits; decide)⟩

end SnesModem.Asm.ClockFrames
