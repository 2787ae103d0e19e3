/-!
# The Gregorian calendar

The calendar is *proleptic*: its rules hold for every year, also before they were introduced.  Years
are counted with a year zero, so the year before year 1 is year 0 and the one before it is -1.

A `CivilDate` is any triple of integers.  The triples that name a day are the *real* ones.  `next` is
the day after and `prev` the day before, by the rules of a wall calendar and with no arithmetic on day
numbers.
-/

namespace Chronicle.Calendar

/-- A year, a month and a day of the month, as written. -/
@[ext] structure CivilDate where
  /-- The year, negative before year 0. -/
  year : Int
  /-- The month, counted from 1. -/
  month : Int
  /-- The day of the month, counted from 1. -/
  day : Int
  deriving DecidableEq, Repr

/-- Every fourth year is a leap year, but of the full centuries only every fourth. -/
def isLeap (year : Int) : Bool :=
  year % 4 == 0 && (year % 100 != 0 || year % 400 == 0)

def daysInMonth (year month : Int) : Int :=
  if month = 2 then (if isLeap year then 29 else 28)
  else if month = 4 ∨ month = 6 ∨ month = 9 ∨ month = 11 then 30
  else 31

namespace CivilDate

/-- A date is real when its month exists and has that day. -/
def Real (d : CivilDate) : Prop :=
  1 ≤ d.month ∧ d.month ≤ 12 ∧ 1 ≤ d.day ∧ d.day ≤ daysInMonth d.year d.month

instance (d : CivilDate) : Decidable d.Real := by unfold Real; infer_instance

/-- The day after a real date. -/
def next (d : CivilDate) : CivilDate :=
  if d.day < daysInMonth d.year d.month then ⟨d.year, d.month, d.day + 1⟩
  else if d.month < 12 then ⟨d.year, d.month + 1, 1⟩
  else ⟨d.year + 1, 1, 1⟩

/-- The day before a real date. -/
def prev (d : CivilDate) : CivilDate :=
  if 1 < d.day then ⟨d.year, d.month, d.day - 1⟩
  else if 1 < d.month then ⟨d.year, d.month - 1, daysInMonth d.year (d.month - 1)⟩
  else ⟨d.year - 1, 12, 31⟩

end CivilDate

end Chronicle.Calendar
