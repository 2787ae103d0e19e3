import Chronicle.Calendar.Gregorian

/-!
# Day numbers

Days are numbered from the first of January 1970, which has number 0.  The arithmetic counts years
from the first of March, so that a leap day is the last day of its year, and splits the count into
*eras* of 400 years, after which the calendar repeats.  An era has 146097 days.

`dayNumber` accepts any three integers.  A day past the end of its month counts on into the months
that follow.  Every division here is by a positive number and rounds down.
-/

namespace Chronicle.Calendar

def eraDays : Int := 146097

/-- The days from the first of March of year 0 to the first of January 1970. -/
def epochShift : Int := 719468

/-- The days between the first of March and the first of a month, months counted from March. -/
def daysBefore (marchMonth : Int) : Int := (153 * marchMonth + 2) / 5

def dayNumber (d : CivilDate) : Int :=
  let y := if d.month ≤ 2 then d.year - 1 else d.year
  let era := y / 400
  let yearOfEra := y - era * 400
  let dayOfYear := daysBefore ((d.month + 9) % 12) + d.day - 1
  let dayOfEra := yearOfEra * 365 + yearOfEra / 4 - yearOfEra / 100 + dayOfYear
  era * eraDays + dayOfEra - epochShift

def civilDate (number : Int) : CivilDate :=
  let z := number + epochShift
  let era := z / eraDays
  let dayOfEra := z - era * eraDays
  let yearOfEra :=
    (dayOfEra - dayOfEra / 1460 + dayOfEra / 36524 - dayOfEra / 146096) / 365
  let dayOfYear := dayOfEra - (365 * yearOfEra + yearOfEra / 4 - yearOfEra / 100)
  let marchMonth := (5 * dayOfYear + 2) / 153
  let month := if marchMonth < 10 then marchMonth + 3 else marchMonth - 9
  let year := yearOfEra + era * 400
  ⟨if month ≤ 2 then year + 1 else year, month, dayOfYear - daysBefore marchMonth + 1⟩

end Chronicle.Calendar
