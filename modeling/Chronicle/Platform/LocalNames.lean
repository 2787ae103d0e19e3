import Chronicle.Platform.Conventions
import Chronicle.Locale.Names

/-!
# Names by the conventions of a locale

`localNames` uses the conventions of a locale and fails where it is not known in full.  `ChangedNames` are plain names
that a host has changed.
-/

namespace Chronicle.Platform

open Chronicle.Calendar Chronicle.Locale Chronicle.Text

/-! ## Patterns -/

/-- Fills the fields of a date pattern.  `literal` tells that a quote is open. -/
def fillPattern (date : CivilDate) (monthName : List Char) :
    (literal : Bool) → List Char → List Char
  | _, [] => []
  | literal, '\x27' :: rest => fillPattern date monthName (!literal) rest
  | true, c :: rest => c :: fillPattern date monthName true rest
  | false, 'd' :: 'd' :: rest => paddedInt 2 date.day ++ fillPattern date monthName false rest
  | false, 'd' :: rest => intText date.day ++ fillPattern date monthName false rest
  | false, 'M' :: 'M' :: 'M' :: rest => monthName ++ fillPattern date monthName false rest
  | false, 'M' :: 'M' :: rest => paddedInt 2 date.month ++ fillPattern date monthName false rest
  | false, 'M' :: rest => intText date.month ++ fillPattern date monthName false rest
  | false, 'y' :: rest => intText date.year ++ fillPattern date monthName false rest
  | false, c :: rest => c :: fillPattern date monthName false rest

/-- A full date by the convention of a locale.  Patterns are for years of one to four digits, other
years take the plain form. -/
def Convention.fullDateText? (convention : Convention) (month : String) (m : Moment) : Option String :=
  if 1 ≤ m.year ∧ m.year ≤ 9999 then
    some (String.ofList (fillPattern m.toCivilDate month.toList false convention.fullDate.toList))
  else do return monthDayYear month (← showInt? m.day) (← showInt? m.year)

/-! ## Names -/

/-- The names of each locale in its own language. -/
def localNames : DateNames where
  isRightToLeft code := some (isRightToLeft code)
  monthName month code := do monthIn (← convention? (canonical code)).months month
  fullDate m code := do
    let convention ← convention? (canonical code)
    convention.fullDateText? (← monthIn convention.months m.month) m

/-- The name of a locale in its own language, or the code as given when it is not known in full. -/
def localeName (code : String) : String :=
  match convention? (canonical code) with
  | some convention => convention.name
  | none => code

/-! ## Changed names -/

inductive Lookup where
  | direction
  | month
  | fullDate
  deriving DecidableEq, Repr

/-- The changes that a host makes to the plain names. -/
structure ChangedNames where
  /-- The direction of every locale, if the host fixes it. -/
  rightToLeft : Option Bool := none
  /-- The months to use in place of the English ones. -/
  months : List String := plainMonths
  failing : List Lookup := []
  deriving DecidableEq, Repr

/-- The service of a host.  Full dates use the months of the host. -/
def ChangedNames.service (host : ChangedNames) : Service :=
  let month (n : Int) : Option String :=
    if .month ∈ host.failing then none else monthIn host.months n
  { isRightToLeft := fun code =>
      if .direction ∈ host.failing then none
      else some (host.rightToLeft.getD (isRightToLeft code))
    monthName := fun n _ => month n
    fullDate := fun m _ =>
      if .fullDate ∈ host.failing then none
      else do return monthDayYear (← month m.month) (← showInt? m.day) (← showInt? m.year) }

end Chronicle.Platform
