import Chronicle.Calendar.DayNumber
import Mathlib.Tactic.IntervalCases

/-!
# Days of an era

The day arithmetic sees a day as an *era day*: an era of 400 years, a year of the era and a day of that
year, where years run from the first of March.  `EraDay.Real` says which triples name a day.  The last
day of a year, number 365, is its leap day, and the year has one when the calendar year that starts
within it is a leap year.

*Numbers.*  Every integer is the number of one real era day, and `civilDate` finds it
(`exists_number_eq`, `civilDate_number`).  The year is found by a quotient that corrects for the leap
days before it (`yearOfEra_dayOfEra`).

*Dates.*  Real era days and real dates are the same thing written in two ways (`real_date`,
`ofDate_date`, `real_ofDate`, `date_ofDate`).

Together these say that `civilDate` and `dayNumber` are inverse to each other on real dates
(`real_civilDate`, `dayNumber_civilDate`, `civilDate_dayNumber`).
-/

namespace Chronicle.Calendar

/-! ## Leap years -/

theorem isLeap_iff {year : Int} :
    isLeap year = true ↔ year % 4 = 0 ∧ (year % 100 ≠ 0 ∨ year % 400 = 0) := by
  simp [isLeap]

/-- The rule for leap years repeats after every era. -/
theorem isLeap_add_era (year era : Int) : isLeap (year + era * 400) = isLeap year := by
  rw [Bool.eq_iff_iff, isLeap_iff, isLeap_iff]
  omega

/-! ## The year of a day -/

/-- The days of an era before a day of one of its years. -/
def dayOfEra (yearOfEra dayOfYear : Int) : Int :=
  yearOfEra * 365 + yearOfEra / 4 - yearOfEra / 100 + dayOfYear

/-- The year of its era that a day is in. -/
def yearOfEra (dayOfEra : Int) : Int :=
  (dayOfEra - dayOfEra / 1460 + dayOfEra / 36524 - dayOfEra / 146096) / 365

/-- Whether a year that starts in March has a day, counted from 0. -/
def HasDay (yearOfEra dayOfYear : Int) : Prop :=
  0 ≤ dayOfYear ∧ (dayOfYear ≤ 364 ∨ dayOfYear = 365 ∧ isLeap (yearOfEra + 1) = true)

/-- The days of an era as centuries, groups of four years, years and days. -/
theorem dayOfEra_split {century group year : Int} (hgroup : 0 ≤ group ∧ group ≤ 24)
    (hyear : 0 ≤ year ∧ year ≤ 3) (dayOfYear : Int) :
    dayOfEra (100 * century + 4 * group + year) dayOfYear =
      36524 * century + 1461 * group + 365 * year + dayOfYear := by
  have hfour : (100 * century + 4 * group + year) / 4 = 25 * century + group := by omega
  have hcentury : (100 * century + 4 * group + year) / 100 = century := by omega
  rw [dayOfEra, hfour, hcentury]
  omega

/-- The quotient finds the year.  It takes one day off for every group of four years that has begun,
which counts a leap day too early unless it is the last day of its year. -/
theorem yearOfEra_dayOfEra {year day : Int} (hyear : 0 ≤ year ∧ year ≤ 399) (hday : HasDay year day) :
    yearOfEra (dayOfEra year day) = year := by
  obtain ⟨century, group, rest, hc, hg, hr, rfl⟩ :
      ∃ century group rest : Int, (0 ≤ century ∧ century ≤ 3) ∧ (0 ≤ group ∧ group ≤ 24) ∧
        (0 ≤ rest ∧ rest ≤ 3) ∧ year = 100 * century + 4 * group + rest :=
    ⟨year / 100, year % 100 / 4, year % 4, by omega, by omega, by omega, by omega⟩
  obtain ⟨hpos, hlast⟩ := hday
  rw [isLeap_iff] at hlast
  have hlast' : day ≤ 364 ∨ day = 365 ∧ rest = 3 ∧ (group ≠ 24 ∨ century = 3) := by omega
  rw [dayOfEra_split hg hr, yearOfEra]
  have hleaps : (36524 * century + 1461 * group + 365 * rest + day) / 1460 =
      25 * century + group + (24 * century + group + 365 * rest + day) / 1460 := by omega
  have hcenturies : (36524 * century + 1461 * group + 365 * rest + day) / 36524 -
      (36524 * century + 1461 * group + 365 * rest + day) / 146096 = century := by
    have hin : 1461 * group + 365 * rest + day < 36524 ∨
        1461 * group + 365 * rest + day = 36524 ∧ century = 3 := by omega
    rcases hin with hin | ⟨hin, rfl⟩
    · omega
    · omega
  omega

/-- Every day of an era is a day of one of its years. -/
theorem exists_dayOfEra_eq {n : Int} (h : 0 ≤ n ∧ n < eraDays) :
    ∃ year day, (0 ≤ year ∧ year ≤ 399) ∧ HasDay year day ∧ dayOfEra year day = n := by
  rw [eraDays] at h
  -- The last day of an era and the last of a group are one day too many for the quotient.
  obtain ⟨century, inCentury, hc, hi, rfl⟩ :
      ∃ century inCentury : Int, (0 ≤ century ∧ century ≤ 3) ∧
        (0 ≤ inCentury ∧ (inCentury < 36524 ∨ inCentury = 36524 ∧ century = 3)) ∧
        n = 36524 * century + inCentury := by
    by_cases hlast : n = 146096
    · exact ⟨3, 36524, by omega, by omega, by omega⟩
    · exact ⟨n / 36524, n % 36524, by omega, by omega, by omega⟩
  obtain ⟨group, inGroup, hg, hi', rfl⟩ :
      ∃ group inGroup : Int, (0 ≤ group ∧ group ≤ 24) ∧ (0 ≤ inGroup ∧ inGroup ≤ 1460) ∧
        inCentury = 1461 * group + inGroup :=
    ⟨inCentury / 1461, inCentury % 1461, by omega, by omega, by omega⟩
  obtain ⟨year, day, hy, hd, rfl⟩ :
      ∃ year day : Int, (0 ≤ year ∧ year ≤ 3) ∧
        (0 ≤ day ∧ (day ≤ 364 ∨ day = 365 ∧ year = 3)) ∧ inGroup = 365 * year + day := by
    by_cases hlast : inGroup = 1460
    · exact ⟨3, 365, by omega, by omega, by omega⟩
    · exact ⟨inGroup / 365, inGroup % 365, by omega, by omega, by omega⟩
  refine ⟨100 * century + 4 * group + year, day, by omega, ⟨hd.1, ?_⟩, ?_⟩
  · rw [isLeap_iff]
    omega
  · rw [dayOfEra_split hg hy]
    omega

/-! ## Months counted from March -/

/-- The days before a month say which month a day of the year is in. -/
theorem marchMonth_eq_iff {month day : Int} :
    (5 * day + 2) / 153 = month ↔ daysBefore month ≤ day ∧ day < daysBefore (month + 1) := by
  rw [daysBefore, daysBefore]
  omega

/-- The month of the calendar. -/
def calendarMonth (marchMonth : Int) : Int :=
  if marchMonth < 10 then marchMonth + 3 else marchMonth - 9

theorem calendarMonth_spec {month : Int} (h : 0 ≤ month ∧ month ≤ 11) :
    (1 ≤ calendarMonth month ∧ calendarMonth month ≤ 12) ∧
      (calendarMonth month + 9) % 12 = month := by
  rw [calendarMonth]
  split <;> omega

theorem calendarMonth_marchMonth {month : Int} (h : 1 ≤ month ∧ month ≤ 12) :
    calendarMonth ((month + 9) % 12) = month := by
  rw [calendarMonth]
  split <;> omega

/-- A month other than February is as long as the days before it and before the next month say. -/
theorem daysInMonth_calendarMonth {month : Int} (h : 0 ≤ month ∧ month ≤ 10) (year : Int) :
    daysInMonth year (calendarMonth month) = daysBefore (month + 1) - daysBefore month := by
  obtain ⟨hlow, hhigh⟩ := h
  interval_cases month <;> rfl

/-! ## Era days -/

/-- A day as the arithmetic sees it. -/
structure EraDay where
  /-- The era. -/
  era : Int
  /-- The year of the era, counted from March. -/
  year : Int
  /-- The day of the year, from 0. -/
  day : Int

namespace EraDay

/-- An era day is real when its era has the year and the year has the day. -/
def Real (e : EraDay) : Prop := (0 ≤ e.year ∧ e.year ≤ 399) ∧ HasDay e.year e.day

/-- The number of an era day. -/
def number (e : EraDay) : Int := e.era * eraDays + dayOfEra e.year e.day - epochShift

/-- The month of an era day, counted from March. -/
def marchMonth (e : EraDay) : Int := (5 * e.day + 2) / 153

/-- An era day as it is written. -/
def date (e : EraDay) : CivilDate :=
  let month := calendarMonth e.marchMonth
  let year := e.year + e.era * 400
  ⟨if month ≤ 2 then year + 1 else year, month, e.day - daysBefore e.marchMonth + 1⟩

/-- The era day of a date. -/
def ofDate (d : CivilDate) : EraDay :=
  let year := if d.month ≤ 2 then d.year - 1 else d.year
  ⟨year / 400, year - year / 400 * 400, daysBefore ((d.month + 9) % 12) + d.day - 1⟩

theorem number_ofDate (d : CivilDate) : (ofDate d).number = dayNumber d := rfl

/-! ### Numbers -/

theorem dayOfEra_bounds {e : EraDay} (h : e.Real) :
    0 ≤ dayOfEra e.year e.day ∧ dayOfEra e.year e.day < eraDays := by
  obtain ⟨hyear, hpos, hlast⟩ := h
  rw [isLeap_iff] at hlast
  rw [dayOfEra, eraDays]
  omega

theorem exists_number_eq (n : Int) : ∃ e : EraDay, e.Real ∧ e.number = n := by
  obtain ⟨year, day, hyear, hday, hn⟩ :=
    exists_dayOfEra_eq (n := (n + epochShift) % eraDays) (by rw [eraDays]; omega)
  refine ⟨⟨(n + epochShift) / eraDays, year, day⟩, ⟨hyear, hday⟩, ?_⟩
  rw [number, hn]
  simp only [eraDays]
  omega

theorem civilDate_number {e : EraDay} (h : e.Real) : civilDate e.number = e.date := by
  obtain ⟨hlow, hhigh⟩ := dayOfEra_bounds h
  have hera : (e.number + epochShift) / eraDays = e.era := by
    rw [number]
    rw [eraDays] at hhigh ⊢
    omega
  have hday : e.number + epochShift - e.era * eraDays = dayOfEra e.year e.day := by
    rw [number]
    omega
  have hyear := yearOfEra_dayOfEra h.1 h.2
  rw [yearOfEra] at hyear
  have hrest : dayOfEra e.year e.day - (365 * e.year + e.year / 4 - e.year / 100) = e.day := by
    rw [dayOfEra]
    omega
  simp only [civilDate, hera, hday, hyear, hrest]
  rfl

/-! ### Dates -/

theorem daysBefore_marchMonth (e : EraDay) :
    daysBefore e.marchMonth ≤ e.day ∧ e.day < daysBefore (e.marchMonth + 1) :=
  marchMonth_eq_iff.mp rfl

theorem marchMonth_bounds {e : EraDay} (h : e.Real) : 0 ≤ e.marchMonth ∧ e.marchMonth ≤ 11 := by
  obtain ⟨_, hpos, hlast⟩ := h
  rw [marchMonth]
  omega

/-- February is the last month of a year that starts in March. -/
theorem marchMonth_le_ten_or {e : EraDay} (h : e.Real) :
    e.marchMonth ≤ 10 ∨ e.marchMonth = 11 := by
  have := (marchMonth_bounds h).2
  omega

theorem real_date {e : EraDay} (h : e.Real) : e.date.Real := by
  have hmonth := marchMonth_bounds h
  obtain ⟨hlow, hhigh⟩ := e.daysBefore_marchMonth
  refine ⟨(calendarMonth_spec hmonth).1.1, (calendarMonth_spec hmonth).1.2, ?_, ?_⟩
  · simp only [date]
    omega
  · rcases marchMonth_le_ten_or h with hten | hfeb
    · simp only [date, daysInMonth_calendarMonth ⟨hmonth.1, hten⟩]
      omega
    · have hyear : e.year + e.era * 400 + 1 = e.year + 1 + e.era * 400 := by omega
      have hlast := h.2.2
      have hbefore : daysBefore 11 = 337 := rfl
      have hfebruary : calendarMonth 11 = 2 := rfl
      simp only [date, hfeb, hfebruary, hbefore, hyear, daysInMonth, if_pos, Int.le_refl,
        isLeap_add_era]
      split
      · omega
      · next hleap =>
        have : e.day ≤ 364 := hlast.resolve_right fun h => hleap h.2
        omega

theorem ofDate_date {e : EraDay} (h : e.Real) : ofDate e.date = e := by
  have hmonth := (calendarMonth_spec (marchMonth_bounds h)).2
  have hyear := h.1
  have hstart : (if e.date.month ≤ 2 then e.date.year - 1 else e.date.year) =
      e.year + e.era * 400 := by
    simp only [date]
    split <;> omega
  have hera : (e.year + e.era * 400) / 400 = e.era := by omega
  simp only [ofDate, hstart, hera]
  simp only [date, hmonth]
  cases e
  simp only [EraDay.mk.injEq, true_and] at *
  omega

/-- The day of a real date, in February and in the other months. -/
theorem day_le_of_real {d : CivilDate} (h : d.Real) :
    (d.month + 9) % 12 ≤ 10 ∧
        d.day ≤ daysBefore ((d.month + 9) % 12 + 1) - daysBefore ((d.month + 9) % 12) ∨
      d.month = 2 ∧ (d.day ≤ 28 ∨ d.day = 29 ∧ isLeap d.year = true) := by
  obtain ⟨hlow, hhigh, hday, hlast⟩ := h
  by_cases hfeb : d.month = 2
  · refine .inr ⟨hfeb, ?_⟩
    rw [daysInMonth, if_pos hfeb] at hlast
    split at hlast
    · next hleap =>
      have : d.day ≤ 28 ∨ d.day = 29 := by omega
      exact this.imp_right fun h => ⟨h, hleap⟩
    · exact .inl hlast
  · have hten : 0 ≤ (d.month + 9) % 12 ∧ (d.month + 9) % 12 ≤ 10 := by omega
    refine .inl ⟨hten.2, ?_⟩
    rw [← daysInMonth_calendarMonth hten d.year, calendarMonth_marchMonth ⟨hlow, hhigh⟩]
    exact hlast

theorem marchMonth_ofDate {d : CivilDate} (h : d.Real) :
    (ofDate d).marchMonth = (d.month + 9) % 12 := by
  rw [marchMonth, marchMonth_eq_iff]
  have hday := h.2.2.1
  rcases day_le_of_real h with ⟨_, hlast⟩ | ⟨hfeb, hlast⟩
  · simp only [ofDate]
    omega
  · simp only [ofDate, hfeb, daysBefore]
    omega

theorem real_ofDate {d : CivilDate} (h : d.Real) : (ofDate d).Real := by
  have hday := h.2.2.1
  refine ⟨by simp only [ofDate]; omega, ?_⟩
  rcases day_le_of_real h with ⟨hten, hlast⟩ | ⟨hfeb, hlast⟩
  · simp only [HasDay, ofDate]
    rw [daysBefore, daysBefore] at hlast
    rw [daysBefore]
    omega
  · have hbefore : daysBefore 11 = 337 := rfl
    have hyear : d.year - 1 - (d.year - 1) / 400 * 400 + 1 =
        d.year + -((d.year - 1) / 400) * 400 := by omega
    have hmarch : ((2 : Int) + 9) % 12 = 11 := rfl
    simp only [HasDay, ofDate, hfeb, hmarch, hbefore, Int.le_refl, if_true, hyear, isLeap_add_era]
    rcases hlast with hlast | ⟨hlast, hleap⟩
    · omega
    · exact ⟨by omega, .inr ⟨by omega, hleap⟩⟩

theorem date_ofDate {d : CivilDate} (h : d.Real) : (ofDate d).date = d := by
  obtain ⟨year, month, day⟩ := d
  have hmonth := calendarMonth_marchMonth ⟨h.1, h.2.1⟩
  simp only [date, marchMonth_ofDate h, hmonth]
  simp only [ofDate, CivilDate.mk.injEq, true_and]
  constructor
  · split <;> omega
  · omega

end EraDay

/-! ## Day numbers and dates -/

theorem real_civilDate (n : Int) : (civilDate n).Real := by
  obtain ⟨e, he, rfl⟩ := EraDay.exists_number_eq n
  rw [EraDay.civilDate_number he]
  exact EraDay.real_date he

theorem dayNumber_civilDate (n : Int) : dayNumber (civilDate n) = n := by
  obtain ⟨e, he, rfl⟩ := EraDay.exists_number_eq n
  rw [EraDay.civilDate_number he, ← EraDay.number_ofDate, EraDay.ofDate_date he]

theorem civilDate_dayNumber {d : CivilDate} (h : d.Real) : civilDate (dayNumber d) = d := by
  rw [← EraDay.number_ofDate, EraDay.civilDate_number (EraDay.real_ofDate h), EraDay.date_ofDate h]

/-- A date comes back from its number exactly when it is real. -/
theorem civilDate_dayNumber_eq_iff {d : CivilDate} : civilDate (dayNumber d) = d ↔ d.Real :=
  ⟨fun h => h ▸ real_civilDate _, civilDate_dayNumber⟩

end Chronicle.Calendar
