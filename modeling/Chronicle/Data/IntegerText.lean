import Chronicle.Text.Blank
import Chronicle.Text.Decimal

/-!
# Integers written as text

An integer comes as digits with blanks around and a sign in front.  Single underscores may stand between
digits, and a point with nothing but zeros may follow.  The digits may start with zeros, with any
underscores among them.

An integer with too many digits is told apart from a text that writes none.
-/

namespace Chronicle.Data

open Chronicle.Text

/-- The most characters that the digits and the minus sign of an integer may take. -/
def longestInteger : Nat := 4300

/-- The text without a point that has only zeros behind it. -/
def dropZeroFraction (cs : List Char) : List Char :=
  match cs.dropWhile (· != '.') with
  | '.' :: zero :: zeros =>
    if (zero :: zeros).all (· == '0') then cs.takeWhile (· != '.') else cs
  | _ => cs

/-- The text without the zeros and underscores in front of its first other digit.  One zero stays when no
other digit follows.  There is no answer when the text does not start with a digit. -/
def dropLeadingZeros? (cs : List Char) : Option (List Char) :=
  let isZero (c : Char) : Bool := c == '0' || c == '_'
  match cs with
  | '0' :: _ =>
    match (cs.takeWhile isZero).getLast?, cs.dropWhile isZero with
    | some '0', [] => some ['0']
    | some '0', '.' :: rest => some ('0' :: '.' :: rest)
    | _, c :: rest => if c.isDigit then some (c :: rest) else none
    | _, [] => none
  | c :: _ => if c.isDigit then some cs else none
  | [] => none

/-- The digits of a text in which single underscores may stand between digits. -/
def ungroupDigits? : List Char → Option (List Char)
  | [] => none
  | [c] => if c.isDigit then some [c] else none
  | c :: '_' :: rest => if c.isDigit then (ungroupDigits? rest).map (c :: ·) else none
  | c :: rest => if c.isDigit then (ungroupDigits? rest).map (c :: ·) else none

/-- The digits of a number without a sign. -/
def unsignedDigits? (cs : List Char) : Option (List Char) :=
  (dropLeadingZeros? cs).bind fun rest => ungroupDigits? (dropZeroFraction rest)

def integerDigits? (cs : List Char) : Option (Bool × List Char) :=
  match trimWhiteSpace cs with
  | '-' :: rest => (unsignedDigits? rest).map fun digits => (true, digits)
  | '+' :: rest => (unsignedDigits? rest).map fun digits => (false, digits)
  | rest => (unsignedDigits? rest).map fun digits => (false, digits)

/-- How many characters at the start of a text make up an integer without leading zeros. -/
def integerFrontLength (cs : List Char) : Nat :=
  match cs with
  | '-' :: '0' :: _ | '0' :: _ => 0
  | '-' :: rest => (rest.takeWhile Char.isDigit).length + 1
  | _ => (cs.takeWhile Char.isDigit).length

/-- What a text says about an integer. -/
inductive IntegerReading where
  | integer (n : Int)
  | tooLarge
  | noInteger
  deriving DecidableEq, Repr

def readInteger (s : String) : IntegerReading :=
  if longestInteger < integerFrontLength s.toList then .tooLarge
  else
    match integerDigits? s.toList with
    | none => .noInteger
    | some (negative, digits) =>
      if longestInteger < digits.length + (if negative then 1 else 0) then .tooLarge
      else .integer (if negative then -(digitsValue digits : Int) else digitsValue digits)

end Chronicle.Data
