import Chronicle.Calendar.PartialDate
import Chronicle.Data.Value
import Chronicle.Data.JsonText

/-!
# Values on one line

The text of a value inside a sentence.  Texts stand between quotes, lists and records between their brackets
with commas, and what is absent is written `None`.  There is no text if a number cannot be written.

An outcome of a step is written with the side that it is on, `Ok` for a value and `Err` for an error.
Taking the wrong side of an outcome is a misuse, and so is taking a value where the error is no cause of
its own.
-/

namespace Chronicle.Data

open Chronicle.Calendar Chronicle.Text

mutual

def Value.literalChars? : Value → Option (List Char)
  | .null => some "None".toList
  | .bool true => some "True".toList
  | .bool false => some "False".toList
  | .int n => (showInt? n).map String.toList
  | .decimal mantissa places => some (jsonDecimal mantissa places)
  | .text s => some (quoted s.toList)
  | .list values =>
    (literalElements? values).map fun parts => '[' :: (List.intercalate [',', ' '] parts ++ [']'])
  | .record fields =>
    (literalFields? fields).map fun parts => '\x7b' :: (List.intercalate [',', ' '] parts ++ ['\x7d'])

def literalElements? : List Value → Option (List (List Char))
  | [] => some []
  | value :: rest => do return (← value.literalChars?) :: (← literalElements? rest)

/-- The texts of the fields of a record. -/
def literalFields? : List (String × Value) → Option (List (List Char))
  | [] => some []
  | (name, value) :: rest => do
    return (quoted name.toList ++ ':' :: ' ' :: (← value.literalChars?)) :: (← literalFields? rest)

end

def Value.literal? (value : Value) : Option String := value.literalChars?.map String.ofList

/-- The text of a date, with all its components. -/
def momentLiteral? (m : Moment) : Option String := do
  return "CanonicalDate(year=" ++ (← showInt? m.year) ++ ", month=" ++ (← showInt? m.month) ++ ", day=" ++
    (← showInt? m.day) ++ ", hour=" ++ (← showInt? m.hour) ++ ", minute=" ++ (← showInt? m.minute) ++
    ", second=" ++ (← showInt? m.second) ++ ")"

/-- The text of a refused date, with its message. -/
def dateErrorLiteral? (e : DateError) : Option String :=
  if e.Writable then some (e.label ++ "(" ++ quote e.message ++ ")") else none

def outcomeLiteral? {ε α : Type} (showError? : ε → Option String) (showValue? : α → Option String) :
    Except ε α → Option String
  | .ok a => (showValue? a).map fun text => "Ok(" ++ text ++ ")"
  | .error e => (showError? e).map fun text => "Err(" ++ text ++ ")"

/-- The message about taking the value of an outcome that is an error. -/
def noValueMessage (literal : String) : String := "Attempted to unwrap Err: " ++ literal

/-- The message about taking the error of an outcome that is a value. -/
def noErrorMessage (literal : String) : String := "Attempted to unwrap_err on Ok: " ++ literal

end Chronicle.Data
