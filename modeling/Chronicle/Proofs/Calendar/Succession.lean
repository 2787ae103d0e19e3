import Chronicle.Proofs.Calendar.EraDay
import Mathlib.Logic.Function.Iterate

/-!
# One day after another

The wall calendar goes from one day to the next: within a month, over the end of a month, and over the end
of a year.  Day numbers go up by one.  The two agree.

*Months.*  The days before a year that starts in March have a closed form (`dayNumber_eq`), in which the
eras are gone.  Only the step from February to March leaves such a year, so the leap rule is needed there
and nowhere else (`daysBeforeYear_eq`).  A month takes as many day numbers as it has days
(`dayNumber_nextMonth`).

*Days.*  The day after a date has the next number (`dayNumber_next`), and the day before it the number
before (`dayNumber_prev`).  So `civilDate` runs through the calendar day by day, upwards from the start of
1970 and downwards (`civilDate_add_one`, `civilDate_sub_one`).

*Rollover.*  `addDays` counts days on the wall calendar.  `dayNumber` adds up days with no regard to the
end of the month, and what comes back is the date that so many days lead to
(`civilDate_dayNumber_rollover`).
-/

namespace Chronicle.Calendar

/-! ## The calendar -/

namespace CivilDate

/-- The first day of the month that a date is in. -/
def monthStart (d : CivilDate) : CivilDate := ⟨d.year, d.month, 1⟩

/-- The first day of the month after the one that a date is in. -/
def nextMonth (d : CivilDate) : CivilDate :=
  if d.month < 12 then ⟨d.year, d.month + 1, 1⟩ else ⟨d.year + 1, 1, 1⟩

/-- The month of a date exists. -/
def HasMonth (d : CivilDate) : Prop := 1 ≤ d.month ∧ d.month ≤ 12

theorem real_mk {year month day : Int} :
    (⟨year, month, day⟩ : CivilDate).Real ↔
      1 ≤ month ∧ month ≤ 12 ∧ 1 ≤ day ∧ day ≤ daysInMonth year month :=
  Iff.rfl

theorem Real.hasMonth {d : CivilDate} (h : d.Real) : d.HasMonth := ⟨h.1, h.2.1⟩

theorem le_daysInMonth (year month : Int) : 28 ≤ daysInMonth year month := by
  rw [daysInMonth]
  repeat' split
  all_goals omega

theorem real_monthStart {d : CivilDate} (h : d.HasMonth) : d.monthStart.Real := by
  obtain ⟨hlow, hhigh⟩ := h
  have hdays := le_daysInMonth d.year d.month
  rw [monthStart, real_mk]
  omega

theorem real_nextMonth {d : CivilDate} (h : d.HasMonth) : d.nextMonth.Real := by
  obtain ⟨hlow, hhigh⟩ := h
  rw [nextMonth]
  split
  · have hdays := le_daysInMonth d.year (d.month + 1)
    rw [real_mk]
    omega
  · have hdays := le_daysInMonth (d.year + 1) 1
    rw [real_mk]
    omega

theorem next_eq (d : CivilDate) :
    d.next = if d.day < daysInMonth d.year d.month then { d with day := d.day + 1 } else d.nextMonth := by
  rw [next, nextMonth]

theorem real_next {d : CivilDate} (h : d.Real) : d.next.Real := by
  rw [next_eq]
  split
  · next hday =>
    obtain ⟨hlow, hhigh, hfirst, -⟩ := h
    rw [real_mk]
    omega
  · exact real_nextMonth h.hasMonth

theorem real_prev {d : CivilDate} (h : d.Real) : d.prev.Real := by
  obtain ⟨hlow, hhigh, hfirst, hlast⟩ := h
  rw [prev]
  split
  · rw [real_mk]
    omega
  · split
    · have hdays := le_daysInMonth d.year (d.month - 1)
      rw [real_mk]
      omega
    · rw [real_mk, daysInMonth]
      omega

/-- Each of the three steps back is undone by the step forward of the same sort. -/
theorem next_prev {d : CivilDate} (h : d.Real) : d.prev.next = d := by
  obtain ⟨year, month, day⟩ := d
  rw [real_mk] at h
  obtain ⟨hlow, hhigh, hfirst, hlast⟩ := h
  rw [prev]
  split
  · have hday : day - 1 < daysInMonth year month := by omega
    simp [next, hday]
  · next hday =>
    have hday' : day = 1 := by
      dsimp only at hday
      omega
    split
    · have hmonth : month - 1 < 12 := by omega
      simp [next, hmonth, hday']
    · next hmonth =>
      have hmonth' : month = 1 := by
        dsimp only at hmonth
        omega
      simp [next, daysInMonth, hmonth', hday']

end CivilDate

open CivilDate

/-! ## Years that start in March -/

/-- The days from the first of March of year 0 to the first of March of a year. -/
def daysBeforeYear (year : Int) : Int := 365 * year + year / 4 - year / 100 + year / 400

/-- The year that a date is in when years start in March. -/
def marchYear (d : CivilDate) : Int := if d.month ≤ 2 then d.year - 1 else d.year

/-- Eras and years of an era come to the days before the year. -/
theorem dayOfEra_eq (year day : Int) :
    year / 400 * eraDays + dayOfEra (year - year / 400 * 400) day = daysBeforeYear year + day := by
  rw [eraDays, dayOfEra, daysBeforeYear]
  omega

theorem dayNumber_eq (d : CivilDate) :
    dayNumber d =
      daysBeforeYear (marchYear d) + daysBefore ((d.month + 9) % 12) + d.day - 1 - epochShift := by
  have hera := dayOfEra_eq (marchYear d) (daysBefore ((d.month + 9) % 12) + d.day - 1)
  rw [← EraDay.number_ofDate, EraDay.number]
  change marchYear d / 400 * eraDays +
    dayOfEra (marchYear d - marchYear d / 400 * 400)
      (daysBefore ((d.month + 9) % 12) + d.day - 1) - epochShift = _
  rw [hera]
  omega

/-- A year that starts in March has a day more when it ends with the February of a leap year. -/
theorem daysBeforeYear_eq (year : Int) :
    daysBeforeYear year = daysBeforeYear (year - 1) + if isLeap year then 366 else 365 := by
  rw [daysBeforeYear, daysBeforeYear]
  split
  · next hleap =>
    rw [isLeap_iff] at hleap
    omega
  · next hleap =>
    rw [isLeap_iff] at hleap
    omega

/-! ## Day numbers along the calendar -/

/-- Days of the month are counted on from its first, also past its end. -/
theorem dayNumber_monthStart (d : CivilDate) :
    dayNumber d = dayNumber d.monthStart + (d.day - 1) := by
  have hyear : marchYear d.monthStart = marchYear d := rfl
  have hmonth : d.monthStart.month = d.month := rfl
  have hday : d.monthStart.day = 1 := rfl
  rw [dayNumber_eq d, dayNumber_eq d.monthStart, hyear, hmonth, hday]
  omega

/-- A month other than February has the next one after it in the same year from March. -/
theorem marchYear_nextMonth {d : CivilDate} (h : d.HasMonth) (hfeb : d.month ≠ 2) :
    marchYear d.nextMonth = marchYear d ∧
      (d.nextMonth.month + 9) % 12 = (d.month + 9) % 12 + 1 := by
  obtain ⟨hlow, hhigh⟩ := h
  rw [nextMonth]
  split
  · constructor
    · simp only [marchYear]
      split <;> split <;> omega
    · dsimp only
      omega
  · constructor
    · simp only [marchYear]
      split <;> split <;> omega
    · dsimp only
      omega

/-- A month takes as many day numbers as it has days. -/
theorem dayNumber_nextMonth {d : CivilDate} (h : d.HasMonth) :
    dayNumber d.nextMonth = dayNumber d.monthStart + daysInMonth d.year d.month := by
  have hday : d.nextMonth.day = 1 := by
    rw [nextMonth]
    split <;> rfl
  rw [dayNumber_eq d.nextMonth, dayNumber_eq d.monthStart, hday]
  change _ = daysBeforeYear (marchYear d) + daysBefore ((d.month + 9) % 12) + 1 - 1 - epochShift + _
  by_cases hfeb : d.month = 2
  · have hnext : d.nextMonth = ⟨d.year, 3, 1⟩ := by simp [nextMonth, hfeb]
    have hyear : marchYear d = d.year - 1 := by simp [marchYear, hfeb]
    have hleap := daysBeforeYear_eq d.year
    have hbefore : daysBefore ((d.month + 9) % 12) = 337 := by rw [hfeb]; rfl
    have hmarch : daysBefore (((3 : Int) + 9) % 12) = 0 := rfl
    have hmarch' : marchYear ⟨d.year, 3, 1⟩ = d.year := rfl
    rw [hnext, hmarch', hmarch, hyear, hbefore, hleap, daysInMonth, if_pos hfeb]
    split <;> omega
  · obtain ⟨hyear, hmonth⟩ := marchYear_nextMonth h hfeb
    have hten : 0 ≤ (d.month + 9) % 12 ∧ (d.month + 9) % 12 ≤ 10 := by
      obtain ⟨hlow, hhigh⟩ := h
      omega
    have hlength := daysInMonth_calendarMonth hten d.year
    rw [calendarMonth_marchMonth h] at hlength
    rw [hyear, hmonth, hlength]
    omega

theorem dayNumber_next {d : CivilDate} (h : d.Real) : dayNumber d.next = dayNumber d + 1 := by
  have hstart := dayNumber_monthStart d
  rw [next_eq]
  split
  · rw [dayNumber_monthStart { d with day := d.day + 1 }, hstart]
    change dayNumber d.monthStart + (d.day + 1 - 1) = _
    omega
  · next hlast =>
    have hday : d.day = daysInMonth d.year d.month := by
      have hle := h.2.2.2
      omega
    rw [dayNumber_nextMonth h.hasMonth, hstart]
    omega

theorem dayNumber_prev {d : CivilDate} (h : d.Real) : dayNumber d.prev = dayNumber d - 1 := by
  have hnext := dayNumber_next (real_prev h)
  rw [next_prev h] at hnext
  omega

/-! ## Dates from one day number to the next -/

theorem civilDate_add_one (n : Int) : civilDate (n + 1) = (civilDate n).next := by
  have hreal := real_civilDate n
  rw [← civilDate_dayNumber (real_next hreal), dayNumber_next hreal, dayNumber_civilDate]

theorem civilDate_sub_one (n : Int) : civilDate (n - 1) = (civilDate n).prev := by
  have hreal := real_civilDate n
  rw [← civilDate_dayNumber (real_prev hreal), dayNumber_prev hreal, dayNumber_civilDate]

/-- The dates of the day numbers start with the first of January 1970 at 0, and each is followed by the
next day of the calendar. -/
theorem civilDate_enumerates :
    civilDate 0 = ⟨1970, 1, 1⟩ ∧ ∀ n : Int, civilDate (n + 1) = (civilDate n).next :=
  ⟨by decide, civilDate_add_one⟩

/-! ## Rollover -/

/-- The date a number of days after another, or before it when the number is negative. -/
def CivilDate.addDays (d : CivilDate) : Int → CivilDate
  | .ofNat n => CivilDate.next^[n] d
  | .negSucc n => CivilDate.prev^[n + 1] d

theorem civilDate_add_nat (start : Int) (n : Nat) :
    civilDate (start + n) = CivilDate.next^[n] (civilDate start) := by
  induction n with
  | zero => simp
  | succ n ih =>
    rw [Function.iterate_succ_apply', ← ih, ← civilDate_add_one]
    congr 1
    push_cast
    omega

theorem civilDate_sub_nat (start : Int) (n : Nat) :
    civilDate (start - n) = CivilDate.prev^[n] (civilDate start) := by
  induction n with
  | zero => simp
  | succ n ih =>
    rw [Function.iterate_succ_apply', ← ih, ← civilDate_sub_one]
    congr 1
    push_cast
    omega

theorem civilDate_add (start days : Int) :
    civilDate (start + days) = (civilDate start).addDays days := by
  cases days with
  | ofNat n => exact civilDate_add_nat start n
  | negSucc n => exact civilDate_sub_nat start (n + 1)

/-- Day numbers and real dates are the same thing written in two ways.  The number of any day of a month,
also of one that the month does not have, is that of the date so many days after the first of the month,
and it is the same date just when the month has that day. -/
theorem civilDate_dayNumber_rollover :
    (∀ n : Int, (civilDate n).Real ∧ dayNumber (civilDate n) = n) ∧
    ∀ year month day : Int, 1 ≤ month ∧ month ≤ 12 →
      civilDate (dayNumber ⟨year, month, day⟩) =
          (⟨year, month, 1⟩ : CivilDate).addDays (day - 1) ∧
        (civilDate (dayNumber ⟨year, month, day⟩) = ⟨year, month, day⟩ ↔
          1 ≤ day ∧ day ≤ daysInMonth year month) := by
  refine ⟨fun n => ⟨real_civilDate n, dayNumber_civilDate n⟩, fun year month day hmonth => ⟨?_, ?_⟩⟩
  · have hfirst : (⟨year, month, 1⟩ : CivilDate).Real :=
      real_monthStart (d := ⟨year, month, day⟩) hmonth
    rw [dayNumber_monthStart, civilDate_add]
    exact congrArg (CivilDate.addDays · (day - 1)) (civilDate_dayNumber hfirst)
  · rw [civilDate_dayNumber_eq_iff, real_mk]
    exact ⟨fun h => h.2.2, fun h => ⟨hmonth.1, hmonth.2, h⟩⟩

/-- In a leap year before year 0 the thirtieth of February is the first of March, and the day before the
first of March 2000 is a leap day. -/
theorem civilDate_dayNumber_rollover_february :
    ((1 : Int) ≤ 2 ∧ (2 : Int) ≤ 12) ∧
      civilDate (dayNumber ⟨-4, 2, 30⟩) = ⟨-4, 3, 1⟩ ∧
      civilDate (dayNumber ⟨-4, 2, 30⟩) ≠ ⟨-4, 2, 30⟩ ∧
      civilDate (dayNumber ⟨2000, 3, 0⟩) = ⟨2000, 2, 29⟩ := by
  have hfebruary : (1 : Int) ≤ 2 ∧ (2 : Int) ≤ 12 := by decide
  have hmarch : (1 : Int) ≤ 3 ∧ (3 : Int) ≤ 12 := by decide
  obtain ⟨hpast, hreal⟩ := civilDate_dayNumber_rollover.2 (-4) 2 30 hfebruary
  obtain ⟨hbefore, -⟩ := civilDate_dayNumber_rollover.2 2000 3 0 hmarch
  refine ⟨hfebruary, hpast.trans (by decide +kernel), fun heq => ?_, hbefore.trans (by decide)⟩
  exact absurd (hreal.mp heq) (by decide)

end Chronicle.Calendar
