import Chronicle.Calendar.Moment
import Chronicle.Text.Quoted

/-!
# Why a date is refused

The causes are listed in the order in which they are looked for: the text has the wrong shape, then
a component out of its range, then a day that its month does not have.

A message holds the numbers that it is about, so it is only made when these are `Writable`.  The numbers that a text
gives always are.
-/

namespace Chronicle.Calendar

open Chronicle.Text

/-- Why a date is refused. -/
inductive DateError where
  | shape (text : String)
  | month (value : Int)
  | day (value : Int)
  | hour (value : Int)
  | minute (value : Int)
  | second (value : Int)
  | unreal (date : CivilDate)
  deriving DecidableEq, Repr

namespace DateError

/-- A short label for the cause. -/
def label : DateError → String
  | shape _ => "InvalidDateFormat"
  | month _ => "InvalidMonth"
  | day _ => "InvalidDay"
  | hour _ => "InvalidHour"
  | minute _ => "InvalidMinute"
  | second _ => "InvalidSecond"
  | unreal _ => "InvalidDate"

/-- The message about a component out of its range. -/
def rangeMessage (component : String) (value : Int) (range : String) : String :=
  "Invalid " ++ component ++ ": " ++ paddedNumeral 2 value ++ ". Must be between " ++ range

/-- The message shown to the author of the date. -/
def message : DateError → String
  | shape text => "Invalid date format: " ++ quote text
  | month n => rangeMessage "month" n "01-12"
  | day n => rangeMessage "day" n "01-31"
  | hour n => rangeMessage "hour" n "00-23"
  | minute n => rangeMessage "minute" n "00-59"
  | second n => rangeMessage "second" n "00-59"
  | unreal d =>
    "Invalid date: " ++ String.ofList d.isoChars ++ ". Make sure you have correct month, day, etc."

/-- The text or component that is refused. -/
def offender : DateError → String
  | shape text => text
  | month n | day n | hour n | minute n | second n => numeral n
  | unreal d => String.ofList d.isoChars

/-- An error with a message and an offender that can be written. -/
def Writable : DateError → Prop
  | shape _ => True
  | month n | day n | hour n | minute n | second n => Text.Writable n
  | unreal d => d.Writable

instance : DecidablePred Writable
  | shape _ => inferInstanceAs (Decidable True)
  | month n | day n | hour n | minute n | second n => inferInstanceAs (Decidable (Text.Writable n))
  | unreal d => inferInstanceAs (Decidable d.Writable)

end DateError

end Chronicle.Calendar
