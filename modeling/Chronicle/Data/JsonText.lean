import Chronicle.Data.Value
import Chronicle.Text.Decimal
import Chronicle.Text.Quoted

/-!
# JSON text

A value is written over several lines, each level indented by two spaces more than the one around
it.  Every element and every field stands on a line of its own.  An empty list or record stays on its
line.  In strings only the double quote, the backslash and the controls below U+0020 are escaped.
-/

namespace Chronicle.Data

open Chronicle.Text

def jsonEscape (c : Char) : List Char :=
  if c = '\x22' then ['\\', '\x22']
  else if c = '\\' then ['\\', '\\']
  else if c = '\x08' then ['\\', 'b']
  else if c = '\x0c' then ['\\', 'f']
  else if c = '\n' then ['\\', 'n']
  else if c = '\r' then ['\\', 'r']
  else if c = '\t' then ['\\', 't']
  else if c.toNat < 0x20 then '\\' :: 'u' :: hexDigits 4 c.toNat
  else [c]

def jsonString (s : String) : List Char :=
  '\x22' :: (s.toList.flatMap jsonEscape ++ ['\x22'])

/-- A decimal number with `places` digits behind its point. -/
def jsonDecimal (mantissa : Int) (places : Nat) : List Char :=
  let digits := paddedNat (places + 1) mantissa.natAbs
  let front := digits.length - places
  (if mantissa < 0 then ['-'] else []) ++ digits.take front ++ '.' :: digits.drop front

/-- A line end and the indentation of a level. -/
def newLine (level : Nat) : List Char := '\n' :: List.replicate (2 * level) ' '

/-- Puts the written parts of a list or record between its brackets, a line for each. -/
def jsonBlock (opening closing : Char) (level : Nat) (parts : List (List Char)) : List Char :=
  match parts with
  | [] => [opening, closing]
  | _ =>
    opening :: (newLine (level + 1) ++ List.intercalate (',' :: newLine (level + 1)) parts ++
      newLine level ++ [closing])

mutual

/-- The text of a value that stands at a level of indentation. -/
def Value.jsonChars (level : Nat) : Value → List Char
  | .null => "null".toList
  | .bool true => "true".toList
  | .bool false => "false".toList
  | .int n => intText n
  | .decimal mantissa places => jsonDecimal mantissa places
  | .text s => jsonString s
  | .list values => jsonBlock '[' ']' level (jsonElements (level + 1) values)
  | .record fields => jsonBlock '\x7b' '\x7d' level (jsonFields (level + 1) fields)

def jsonElements (level : Nat) : List Value → List (List Char)
  | [] => []
  | value :: rest => value.jsonChars level :: jsonElements level rest

/-- The texts of the fields of a record. -/
def jsonFields (level : Nat) : List (String × Value) → List (List Char)
  | [] => []
  | (name, value) :: rest =>
    (jsonString name ++ ':' :: ' ' :: value.jsonChars level) :: jsonFields level rest

end

def Value.jsonText (value : Value) : String := String.ofList (value.jsonChars 0)

end Chronicle.Data
