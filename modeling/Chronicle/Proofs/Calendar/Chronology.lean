import Chronicle.Proofs.Calendar.Normalize
import Chronicle.Proofs.Calendar.Succession
import Mathlib.Order.Monotone.Basic

/-!
# The order of time

Moments are compared by their timestamps.  For moments without a fault this is the order in which they are
written: by the year, then the month, the day, the hour, the minute and the second.

*Dates.*  Months are numbered through all years.  A later month does not start before an earlier one
(`dayNumber_ofMonth_le`), and a real date lies within its month.  So day numbers compare like year, month
and day (`dayNumber_lt_iff`).

*Moments.*  A day has more seconds than any time of day comes to.  So timestamps compare like the day
number and then the time (`timestamp_lt_iff`), and every integer is the timestamp of one real moment
(`timestamp_ofTimestamp`).

The main statement is `isBefore_chronological`.
-/

namespace Chronicle.Calendar

open CivilDate

/-! ## Months through the years -/

/-- The first day of a month, months numbered through all years from the January of year 0. -/
def ofMonth (n : Int) : CivilDate := ⟨n / 12, n % 12 + 1, 1⟩

/-- The number of the month that a date is in. -/
def monthNumber (d : CivilDate) : Int := d.year * 12 + (d.month - 1)

theorem hasMonth_ofMonth (n : Int) : (ofMonth n).HasMonth := by
  constructor
  · dsimp only [ofMonth]
    omega
  · dsimp only [ofMonth]
    omega

theorem nextMonth_ofMonth (n : Int) : (ofMonth n).nextMonth = ofMonth (n + 1) := by
  rw [nextMonth]
  split
  · next hmonth =>
    dsimp only [ofMonth] at hmonth
    have hyear : (n + 1) / 12 = n / 12 := by omega
    have hnext : (n + 1) % 12 = n % 12 + 1 := by omega
    rw [ofMonth, ofMonth, hyear, hnext]
  · next hmonth =>
    dsimp only [ofMonth] at hmonth
    have hyear : (n + 1) / 12 = n / 12 + 1 := by omega
    have hnext : (n + 1) % 12 = 0 := by omega
    rw [ofMonth, ofMonth, hyear, hnext]
    rfl

theorem ofMonth_monthNumber {d : CivilDate} (h : d.HasMonth) :
    ofMonth (monthNumber d) = d.monthStart := by
  obtain ⟨hlow, hhigh⟩ := h
  have hyear : monthNumber d / 12 = d.year := by
    rw [monthNumber]
    omega
  have hmonth : monthNumber d % 12 + 1 = d.month := by
    rw [monthNumber]
    omega
  rw [ofMonth, hyear, hmonth, monthStart]

/-- Months come one after the other, so a later one does not start before. -/
theorem dayNumber_ofMonth_le {m n : Int} (h : m ≤ n) :
    dayNumber (ofMonth m) ≤ dayNumber (ofMonth n) := by
  refine monotone_int_of_le_succ (f := fun k => dayNumber (ofMonth k)) (fun k => ?_) h
  have hdays := le_daysInMonth (ofMonth k).year (ofMonth k).month
  have hnext := dayNumber_nextMonth (hasMonth_ofMonth k)
  have hstart : (ofMonth k).monthStart = ofMonth k := rfl
  rw [nextMonth_ofMonth, hstart] at hnext
  omega

/-! ## The order of dates -/

variable {a b : CivilDate}

theorem dayNumber_lt_of_monthNumber_lt (ha : a.Real) (hb : b.Real)
    (h : monthNumber a < monthNumber b) : dayNumber a < dayNumber b := by
  have hstart := ofMonth_monthNumber ha.hasMonth
  have hnext := dayNumber_nextMonth ha.hasMonth
  have hmono := dayNumber_ofMonth_le (Int.add_one_le_iff.mpr h)
  rw [← nextMonth_ofMonth, hstart, ofMonth_monthNumber hb.hasMonth] at hmono
  change dayNumber a.nextMonth ≤ _ at hmono
  have hdayA := dayNumber_monthStart a
  have hdayB := dayNumber_monthStart b
  obtain ⟨-, -, -, hlast⟩ := ha
  obtain ⟨-, -, hfirst, -⟩ := hb
  omega

theorem dayNumber_lt_iff (ha : a.Real) (hb : b.Real) :
    dayNumber a < dayNumber b ↔
      a.year < b.year ∨ a.year = b.year ∧
        (a.month < b.month ∨ a.month = b.month ∧ a.day < b.day) := by
  obtain ⟨hlowA, hhighA⟩ := ha.hasMonth
  obtain ⟨hlowB, hhighB⟩ := hb.hasMonth
  rcases lt_trichotomy (monthNumber a) (monthNumber b) with hlt | heq | hgt
  · refine iff_of_true (dayNumber_lt_of_monthNumber_lt ha hb hlt) ?_
    rw [monthNumber, monthNumber] at hlt
    omega
  · have hstart : a.monthStart = b.monthStart := by
      rw [← ofMonth_monthNumber ha.hasMonth, ← ofMonth_monthNumber hb.hasMonth, heq]
    rw [dayNumber_monthStart a, dayNumber_monthStart b, hstart]
    rw [monthNumber, monthNumber] at heq
    omega
  · refine iff_of_false (lt_asymm (dayNumber_lt_of_monthNumber_lt hb ha hgt)) ?_
    rw [monthNumber, monthNumber] at hgt
    omega

theorem eq_of_dayNumber_eq (ha : a.Real) (hb : b.Real) (h : dayNumber a = dayNumber b) : a = b := by
  rw [← civilDate_dayNumber ha, ← civilDate_dayNumber hb, h]

/-! ## The order of moments -/

namespace Moment

/-- The seconds of a moment since the start of its day. -/
def secondOfDay (m : Moment) : Int := m.hour * 3600 + m.minute * 60 + m.second

/-- The components of a moment, the most important first. -/
def components (m : Moment) : List Int := [m.year, m.month, m.day, m.hour, m.minute, m.second]

/-- How one moment stands to another. -/
def Stands (a b : Moment) : Ordering → Prop
  | .lt => a.isBefore b
  | .eq => a = b
  | .gt => b.isBefore a

theorem timestamp_eq (m : Moment) :
    m.timestamp = dayNumber m.toCivilDate * secondsPerDay + m.secondOfDay := by
  rw [timestamp, secondOfDay]
  omega

theorem secondOfDay_bounds {m : Moment} (h : m.HasTime) :
    0 ≤ m.secondOfDay ∧ m.secondOfDay < secondsPerDay := by
  obtain ⟨hhour, hminute, hsecond⟩ := h
  rw [secondOfDay, secondsPerDay]
  omega

theorem secondOfDay_lt_iff {a b : Moment} (ha : a.HasTime) (hb : b.HasTime) :
    a.secondOfDay < b.secondOfDay ↔
      a.hour < b.hour ∨ a.hour = b.hour ∧
        (a.minute < b.minute ∨ a.minute = b.minute ∧ a.second < b.second) := by
  obtain ⟨hhourA, hminuteA, hsecondA⟩ := ha
  obtain ⟨hhourB, hminuteB, hsecondB⟩ := hb
  rw [secondOfDay, secondOfDay]
  omega

variable {a b : Moment}

theorem timestamp_lt_iff (ha : a.HasTime) (hb : b.HasTime) :
    a.timestamp < b.timestamp ↔
      dayNumber a.toCivilDate < dayNumber b.toCivilDate ∨
        dayNumber a.toCivilDate = dayNumber b.toCivilDate ∧ a.secondOfDay < b.secondOfDay := by
  have hboundsA := secondOfDay_bounds ha
  have hboundsB := secondOfDay_bounds hb
  rw [timestamp_eq, timestamp_eq]
  rw [secondsPerDay] at *
  omega

theorem isBefore_iff : a.isBefore b ↔ a.timestamp < b.timestamp := by
  rw [isBefore, decide_eq_true_iff]

/-- Real moments come one before the other as their components say. -/
theorem isBefore_iff_components_lt (ha : a.Real) (hb : b.Real) :
    a.isBefore b ↔ a.components < b.components := by
  have hsame : dayNumber a.toCivilDate = dayNumber b.toCivilDate ↔
      a.year = b.year ∧ a.month = b.month ∧ a.day = b.day := by
    constructor
    · intro h
      have hdate := eq_of_dayNumber_eq ha.1 hb.1 h
      exact ⟨congrArg CivilDate.year hdate, congrArg CivilDate.month hdate,
        congrArg CivilDate.day hdate⟩
    · rintro ⟨hyear, hmonth, hday⟩
      rw [dayNumber, dayNumber, hyear, hmonth, hday]
  rw [isBefore_iff, timestamp_lt_iff ha.2 hb.2, dayNumber_lt_iff ha.1 hb.1, hsame,
    secondOfDay_lt_iff ha.2 hb.2]
  simp only [components, List.cons_lt_cons_iff, List.not_lt_nil, and_false, or_false]
  omega

/-! ## Moments and timestamps -/

theorem real_ofTimestamp (t : Int) : (ofTimestamp t).Real := by
  refine ⟨real_civilDate _, ?_⟩
  simp only [ofTimestamp, secondsPerDay]
  omega

theorem timestamp_ofTimestamp (t : Int) : (ofTimestamp t).timestamp = t := by
  simp only [timestamp, ofTimestamp, dayNumber_civilDate, secondsPerDay]
  omega

theorem eq_of_timestamp_eq (ha : a.Real) (hb : b.Real) (h : a.timestamp = b.timestamp) : a = b := by
  rw [← (ofTimestamp_timestamp_eq_iff ha.2).mpr ha.1, ← (ofTimestamp_timestamp_eq_iff hb.2).mpr hb.1, h]

theorem stands_iff (ha : a.Real) (hb : b.Real) (o : Ordering) :
    a.Stands b o ↔ compare a.timestamp b.timestamp = o := by
  cases o with
  | lt => exact isBefore_iff.trans compare_lt_iff_lt.symm
  | eq =>
    rw [compare_eq_iff_eq]
    exact ⟨fun h => congrArg timestamp h, eq_of_timestamp_eq ha hb⟩
  | gt => exact isBefore_iff.trans compare_gt_iff_gt.symm

theorem existsUnique_stands (ha : a.Real) (hb : b.Real) : ∃! o, a.Stands b o :=
  ⟨compare a.timestamp b.timestamp, (stands_iff ha hb _).mpr rfl,
    fun _ ho => ((stands_iff ha hb _).mp ho).symm⟩

theorem existsUnique_timestamp_eq (t : Int) : ∃! m : Moment, m.Real ∧ m.timestamp = t := by
  refine ⟨ofTimestamp t, ⟨real_ofTimestamp t, timestamp_ofTimestamp t⟩, ?_⟩
  rintro m ⟨hreal, rfl⟩
  exact ((ofTimestamp_timestamp_eq_iff hreal.2).mpr hreal.1).symm

end Moment

/-- Moments without a fault come one before the other as their components say, so of any two either one is
the earlier or they are the same.  Their timestamps tell them apart, and every integer is the timestamp of
just one of them. -/
theorem isBefore_chronological :
    (∀ a b : Moment, a.fault? = none → b.fault? = none →
      (a.isBefore b ↔ a.components < b.components) ∧ (∃! o, a.Stands b o) ∧
        (a.timestamp = b.timestamp → a = b)) ∧
    ∀ t : Int, ∃! m : Moment, m.fault? = none ∧ m.timestamp = t := by
  simp only [Moment.fault?_eq_none_iff]
  refine ⟨fun a b ha hb => ⟨?_, ?_, ?_⟩, Moment.existsUnique_timestamp_eq⟩
  · exact Moment.isBefore_iff_components_lt ha hb
  · exact Moment.existsUnique_stands ha hb
  · exact Moment.eq_of_timestamp_eq ha hb

/-- The last second of a leap day before year 0 comes before the first of March of the same year. -/
theorem isBefore_chronological_leapDay :
    (⟨⟨-4, 2, 29⟩, 23, 59, 59⟩ : Moment).fault? = none ∧
      (⟨⟨-4, 3, 1⟩, 0, 0, 0⟩ : Moment).fault? = none ∧
      (⟨⟨-4, 2, 29⟩, 23, 59, 59⟩ : Moment).isBefore ⟨⟨-4, 3, 1⟩, 0, 0, 0⟩ ∧
      ∃! o, (⟨⟨-4, 2, 29⟩, 23, 59, 59⟩ : Moment).Stands ⟨⟨-4, 3, 1⟩, 0, 0, 0⟩ o := by
  have hleap : (⟨⟨-4, 2, 29⟩, 23, 59, 59⟩ : Moment).fault? = none := by decide
  have hmarch : (⟨⟨-4, 3, 1⟩, 0, 0, 0⟩ : Moment).fault? = none := by decide
  obtain ⟨hbefore, hstands, -⟩ := isBefore_chronological.1 _ _ hleap hmarch
  exact ⟨hleap, hmarch, hbefore.mpr (by decide), hstands⟩

end Chronicle.Calendar
