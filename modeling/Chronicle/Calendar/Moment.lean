import Chronicle.Calendar.DayNumber
import Chronicle.Text.Decimal

/-!
# Moments

A *moment* is a civil date with a time of day, in universal time and to the second.  Its canonical
text is `±YYYY-MM-DDTHH:MM:SSZ`, the year in at least four digits.  A moment with a number in it that cannot be
written has no canonical text.  Moments are ordered by their distance in seconds from the start of 1970.

Like a civil date, a moment is any tuple of integers.  `Moment.Real` says that it names an instant.
-/

namespace Chronicle.Calendar

open Chronicle.Text

/-- A date and a time of day, in universal time. -/
structure Moment extends CivilDate where
  /-- The hour, from 0. -/
  hour : Int := 0
  /-- The minute, from 0. -/
  minute : Int := 0
  /-- The second, from 0. -/
  second : Int := 0
  deriving DecidableEq, Repr

def secondsPerDay : Int := 86400

namespace Moment

/-- A moment is real when its date is and its time occurs in a day. -/
def Real (m : Moment) : Prop :=
  m.toCivilDate.Real ∧ (0 ≤ m.hour ∧ m.hour ≤ 23) ∧ (0 ≤ m.minute ∧ m.minute ≤ 59) ∧
    (0 ≤ m.second ∧ m.second ≤ 59)

instance (m : Moment) : Decidable m.Real := by unfold Real; infer_instance

/-- The seconds from the start of 1970 to the moment. -/
def timestamp (m : Moment) : Int :=
  dayNumber m.toCivilDate * secondsPerDay + m.hour * 3600 + m.minute * 60 + m.second

/-- The moment at a distance in seconds from the start of 1970. -/
def ofTimestamp (t : Int) : Moment :=
  let rest := t % secondsPerDay
  ⟨civilDate (t / secondsPerDay), rest / 3600, rest % 3600 / 60, rest % 60⟩

/-- Whether one moment is earlier than another. -/
def isBefore (a b : Moment) : Bool := a.timestamp < b.timestamp

/-- Whether the moment is midnight on the first of January. -/
def isYearStart (m : Moment) : Bool :=
  m.month == 1 && m.day == 1 && m.hour == 0 && m.minute == 0 && m.second == 0

/-- Whether two moments fall on the same day. -/
def sameDay (a b : Moment) : Bool := a.toCivilDate == b.toCivilDate

/-- Whether two moments fall in the same month. -/
def sameMonth (a b : Moment) : Bool := a.year == b.year && a.month == b.month

end Moment

/-- A year in at least four digits, behind a minus sign when it is negative. -/
def yearText (year : Int) : List Char :=
  if year < 0 then '-' :: paddedNat 4 year.natAbs else paddedNat 4 year.natAbs

/-- A date in the form `±YYYY-MM-DD`. -/
def CivilDate.isoChars (d : CivilDate) : List Char :=
  yearText d.year ++ '-' :: (paddedInt 2 d.month ++ '-' :: paddedInt 2 d.day)

/-- The canonical text of a moment, as characters. -/
def Moment.isoChars (m : Moment) : List Char :=
  m.toCivilDate.isoChars ++ 'T' :: (paddedInt 2 m.hour ++ ':' :: (paddedInt 2 m.minute ++
    ':' :: (paddedInt 2 m.second ++ ['Z'])))

/-- A date whose numbers can be written. -/
def CivilDate.Writable (d : CivilDate) : Prop :=
  Text.Writable d.year ∧ Text.Writable d.month ∧ Text.Writable d.day

instance (d : CivilDate) : Decidable d.Writable := by unfold CivilDate.Writable; infer_instance

/-- A moment whose numbers can be written. -/
def Moment.Writable (m : Moment) : Prop :=
  m.toCivilDate.Writable ∧ Text.Writable m.hour ∧ Text.Writable m.minute ∧ Text.Writable m.second

instance (m : Moment) : Decidable m.Writable := by unfold Moment.Writable; infer_instance

/-- The canonical text of a moment, if it can be written. -/
def Moment.isoText? (m : Moment) : Option String := if m.Writable then some (String.ofList m.isoChars) else none

theorem isoText?_of_writable {m : Moment} (h : m.Writable) : m.isoText? = some (String.ofList m.isoChars) := if_pos h

theorem isoText?_of_not_writable {m : Moment} (h : ¬m.Writable) : m.isoText? = none := if_neg h

end Chronicle.Calendar
