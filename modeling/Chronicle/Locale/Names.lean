import Chronicle.Calendar.Moment
import Chronicle.Locale.Code

/-!
# Names for dates

What a display needs from a locale is three lookups: its direction, the short name of a month, and
the text of a full date.  `DateNames` holds the three, and each may fail.

`plainNames` writes every locale in English, and only takes the direction from the code.  Where names come from
otherwise is not said here.  A host hands them over as a `Service`, and a service that counts as nothing stands for
none at all.
-/

namespace Chronicle.Locale

open Chronicle.Calendar Chronicle.Text

/-- The lookups of a locale that a display needs.  The last argument is the locale code. -/
structure DateNames where
  isRightToLeft : String → Option Bool
  /-- The short name of a month, counted from 1. -/
  monthName : Int → String → Option String
  fullDate : Moment → String → Option String

/-- Names that a host hands over. -/
structure Service extends DateNames where
  /-- Whether the service counts as something where a truth value is asked for. -/
  isTruthy : Bool := true

/-- The name of a month in a list that starts with the first month. -/
def monthIn (months : List String) (month : Int) : Option String :=
  months[(month - 1).toNat]?

/-- A full date in the form `Jun 1, 2023`. -/
def monthDayYear (month day year : String) : String := month ++ " " ++ day ++ ", " ++ year

/-! ## Plain names -/

/-- The short names of the months in English. -/
def plainMonths : List String :=
  ["Jan", "Feb", "Mar", "Apr", "May", "Jun", "Jul", "Aug", "Sep", "Oct", "Nov", "Dec"]

/-- English names for every locale. -/
def plainNames : DateNames where
  isRightToLeft code := some (isRightToLeft code)
  monthName month _ := monthIn plainMonths month
  fullDate m _ := do return monthDayYear (← monthIn plainMonths m.month) (← showInt? m.day) (← showInt? m.year)

/-- Plain names as a service. -/
def plainService : Service := { plainNames with }

end Chronicle.Locale
