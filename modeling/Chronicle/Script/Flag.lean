import Chronicle.Calendar.PartialDate
import Chronicle.Script.Error
import Chronicle.Text.Blank
import Chronicle.Text.Cut

/-!
# Flags

A flag line gives a keyword and arguments.  `FlagName.read` reads the arguments of one flag, and
`FlagSetting.apply` sets it.  A flag that is set twice keeps the later value.

* `orderBy` takes sort keys, each a field that the dialect allows, with an optional hyphen in front.
* `defaultView` takes two dates in order.
* `noToday` takes nothing.
* `height` takes a positive number in decimal digits.
-/

namespace Chronicle.Script

open Chronicle.Calendar Chronicle.Text Chronicle.Timeline

/-- What a flag line sets. -/
inductive FlagSetting where
  | orderBy (keys : List String)
  | defaultView (window : Window)
  | hideCurrentTime
  | height (pixels : Nat)
  deriving DecidableEq, Repr

def FlagSetting.apply (flags : Flags) : FlagSetting → Flags
  | .orderBy keys => { flags with orderBy := some keys }
  | .defaultView window => { flags with defaultView := some window }
  | .hideCurrentTime => { flags with hideCurrentTime := true }
  | .height pixels => { flags with height := some pixels }

/-! ## Arguments -/

/-- The arguments between the separators of a dialect, without blanks around them. -/
def splitArguments (d : Dialect) (arguments : List Char) : Reading (List (List Char)) :=
  if d.argumentSeparator.isEmpty then .error (.fault .emptySeparator)
  else .ok ((splitAll d.argumentSeparator.toList arguments).map trim)

def sortField (key : List Char) : List Char := (dropFront? ['-'] key).getD key

/-- The first sort key that names no field of the dialect. -/
def firstUnknownKey? (d : Dialect) (keys : List (List Char)) : Option (List Char) :=
  keys.find? fun key => !d.orderKeys.contains (String.ofList (sortField key))

/-- Reads sort keys. -/
def readOrderBy (d : Dialect) (arguments : List Char) : Reading FlagSetting := do
  let keys ← splitArguments d arguments
  if (trim arguments).isEmpty || keys.any List.isEmpty then refuse .noSortKey
  else
    match firstUnknownKey? d keys with
    | some key => refuse (.unknownSortKey (String.ofList key) d.orderKeys)
    | none => return .orderBy (keys.map String.ofList)

def readWindowDate (text : List Char) : Reading Moment :=
  match normalize (String.ofList text) with
  | .ok m => .ok m
  | .error cause => refuse (.windowDate cause)

def readDefaultView (d : Dialect) (arguments : List Char) : Reading FlagSetting := do
  match ← splitArguments d arguments with
  | [startText, stopText] =>
    if startText.isEmpty || stopText.isEmpty then refuse .noWindow
    else
      let start ← readWindowDate startText
      let stop ← readWindowDate stopText
      if stop.isBefore start then refuse .reversedWindow
      else return .defaultView ⟨start, stop⟩
  | _ => refuse .noWindow

def readNoToday (arguments : List Char) : Reading FlagSetting :=
  if (trim arguments).isEmpty then .ok .hideCurrentTime
  else refuse (.argumentsGiven (String.ofList (trim arguments)))

def readHeight (arguments : List Char) : Reading FlagSetting :=
  let text := trim arguments
  if text.isEmpty || !text.all Char.isDigit then refuse (.noHeight (String.ofList text))
  else if digitLimit < text.length then .error (.fault (.tooManyDigits text.length))
  else if digitsValue text = 0 then refuse (.noHeight (String.ofList text))
  else .ok (.height (digitsValue text))

def FlagName.read (d : Dialect) (arguments : List Char) : FlagName → Reading FlagSetting
  | .orderBy => readOrderBy d arguments
  | .defaultView => readDefaultView d arguments
  | .noToday => readNoToday arguments
  | .height => readHeight arguments

end Chronicle.Script
