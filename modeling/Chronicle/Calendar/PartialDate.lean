import Chronicle.Calendar.DateError
import Chronicle.Text.Blank

/-!
# Partial dates

An author writes as much of a date as matters: `2020`, `2020-06`, `-44-03-15`, `2023-06-01T12:30`.
The form is a signed year of one to nine digits, then month, day, hour, minute and second in two
digits each, where every component needs the one before it.  A second may carry a fraction, which is
dropped, and the text may end in `Z`.  What is not written is the first month, the first day, or
midnight.

`normalize` reads such a text.  It looks for faults in a fixed order: the form, the month, the day
from 1 to 31, the hour, the minute, the second, and last whether the month has that day.  The last
check goes through the day number: the moment is real exactly when it is what its own timestamp
reads back as.
-/

namespace Chronicle.Calendar

open Chronicle.Text

/-! ## The form of a partial date -/

/-- The components of a partial date, as written. -/
structure PartialDate where
  year : Int
  /-- The components after the year, from the month on, as far as they are written. -/
  rest : List Nat
  deriving DecidableEq, Repr

/-- The marks in front of month, day, hour, minute and second. -/
def componentMarks : List Char := ['-', '-', 'T', ':', ':']

/-- Reads components of two digits, each behind its mark, until one is missing. -/
def readComponents : (marks : List Char) → List Char → List Nat × List Char
  | [], cs => ([], cs)
  | mark :: marks, c :: tens :: units :: rest =>
    if c = mark ∧ tens.isDigit ∧ units.isDigit then
      let (values, left) := readComponents marks rest
      (digitsValue [tens, units] :: values, left)
    else ([], c :: tens :: units :: rest)
  | _ :: _, cs => ([], cs)

/-- Drops a fraction, a point and at least one digit. -/
def dropFraction : List Char → List Char
  | '.' :: c :: rest => if c.isDigit then rest.dropWhile Char.isDigit else '.' :: c :: rest
  | cs => cs

/-- Splits off the sign of a year, and tells whether it is a minus. -/
def readSign : List Char → Bool × List Char
  | '-' :: rest => (true, rest)
  | '+' :: rest => (false, rest)
  | cs => (false, cs)

/-- Reads a partial date from a text without blanks around it. -/
def PartialDate.read? (cs : List Char) : Option PartialDate :=
  let (negative, unsigned) := readSign cs
  let digits := unsigned.takeWhile Char.isDigit
  let (values, tail) := readComponents componentMarks (unsigned.dropWhile Char.isDigit)
  let ending := if values.length = componentMarks.length then dropFraction tail else tail
  if 1 ≤ digits.length ∧ digits.length ≤ 9 ∧ (ending = [] ∨ ending = ['Z']) then
    let size := (digitsValue digits : Int)
    some ⟨if negative then -size else size, values⟩
  else none

/-- The moment a partial date stands for: the first one that agrees with it. -/
def PartialDate.moment (p : PartialDate) : Moment :=
  let component (i : Nat) (absent : Int) : Int := (p.rest[i]?.map Int.ofNat).getD absent
  ⟨⟨p.year, component 0 1, component 1 1⟩, component 2 0, component 3 0, component 4 0⟩

/-! ## Checks -/

def Moment.fault? (m : Moment) : Option DateError :=
  if ¬ (1 ≤ m.month ∧ m.month ≤ 12) then some (.month m.month)
  else if ¬ (1 ≤ m.day ∧ m.day ≤ 31) then some (.day m.day)
  else if ¬ (0 ≤ m.hour ∧ m.hour ≤ 23) then some (.hour m.hour)
  else if ¬ (0 ≤ m.minute ∧ m.minute ≤ 59) then some (.minute m.minute)
  else if ¬ (0 ≤ m.second ∧ m.second ≤ 59) then some (.second m.second)
  else if Moment.ofTimestamp m.timestamp ≠ m then some (.unreal m.toCivilDate)
  else none

/-- A moment without a fault, or the fault. -/
def Moment.check (m : Moment) : Except DateError Moment :=
  match m.fault? with
  | some e => .error e
  | none => .ok m

/-- The moment that a partial date stands for.  Blanks around the text do not matter. -/
def normalize (text : String) : Except DateError Moment :=
  match PartialDate.read? (trim text.toList) with
  | none => .error (.shape text)
  | some p => p.moment.check

end Chronicle.Calendar
