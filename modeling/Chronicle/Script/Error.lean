import Chronicle.Calendar.DateError
import Chronicle.Script.Dialect
import Chronicle.Text.Sorted
import Chronicle.Timeline.Assemble

/-!
# Errors in a script

A line can be wrong in a way that concerns this line only.  Such a `LineError` is noted with the number
of the line, and the other lines are read all the same.

A `Fault` is of another sort: with it there is no answer at all.  A dialect that separates by the empty
text has one, and so has a height of more digits than numbers are read with.  `Trouble` is either.
-/

namespace Chronicle.Script

open Chronicle.Calendar Chronicle.Text

inductive LineError where
  | date (cause : DateError)
  | reversedRange (start stop : Moment)
  | unknownLine (line : String)
  | noDates (forms : String) (kind : EntityKind) (line : String)
  | markerWithEnd
  | periodWithoutEnd
  | pointWithEnd
  | noKeyword
  | noSortKey
  | unknownSortKey (key : String) (allowed : List String)
  /-- The window does not have two dates. -/
  | noWindow
  | windowDate (cause : DateError)
  | reversedWindow
  | argumentsGiven (arguments : String)
  | noHeight (text : String)
  deriving DecidableEq, Repr

namespace LineError

/-- A short label for the sort of error. -/
def label : LineError → String
  | date cause => cause.label
  | reversedRange _ _ => "InvalidRange"
  | unknownLine _ | noDates _ _ _ | markerWithEnd | periodWithoutEnd | pointWithEnd =>
    "UnrecognizedEntityLine"
  | noKeyword | noSortKey | unknownSortKey _ _ | noWindow | windowDate _ | reversedWindow
  | argumentsGiven _ | noHeight _ => "MalformedFlagArgument"

/-- The message shown to the author of the line. -/
def message : LineError → String
  | date cause => cause.message
  | reversedRange start stop =>
    "End date " ++ String.ofList stop.isoChars ++ " precedes start date " ++ String.ofList start.isoChars
  | unknownLine line => "Unrecognized line: " ++ quote line
  | noDates forms kind line =>
    "Expected " ++ forms ++ " after the " ++ kind.name ++ " sigil: " ++ quote line
  | markerWithEnd => "Markers take a single date"
  | periodWithoutEnd => "Periods need a start and end date, e.g. '@ [2020~2022] label'"
  | pointWithEnd => "Points take a single date"
  | noKeyword => "Flag line has no keyword"
  | noSortKey => "ORDERBY needs sort keys, e.g. 'ORDERBY start|-content'"
  | unknownSortKey key allowed =>
    "ORDERBY: unknown sort key " ++ quote key ++
      " (use " ++ String.intercalate ", " (sortedTexts allowed) ++ ")"
  | noWindow => "DEFAULTVIEW needs a start and end date, e.g. 'DEFAULTVIEW 2019|2023'"
  | windowDate cause => "DEFAULTVIEW: " ++ cause.message
  | reversedWindow => "DEFAULTVIEW: end date precedes start date"
  | argumentsGiven arguments => "NOTODAY takes no arguments, got " ++ quote arguments
  | noHeight text => "HEIGHT needs a positive number of pixels, got " ++ quote text

/-- The text or component of a date that is refused, where the error is about a date. -/
def offender? : LineError → Option String
  | date cause => some cause.offender
  | _ => none

end LineError

/-- An error with the number of its line. -/
structure Issue where
  /-- The line of the source, from 1. -/
  line : Nat
  error : LineError
  deriving DecidableEq, Repr

/-- The message about a line, with its number. -/
def Issue.text (issue : Issue) : String :=
  "Line " ++ showNat issue.line ++ ": " ++ issue.error.message

/-- Why there is no answer at all. -/
inductive Fault where
  | emptySeparator
  | tooManyDigits (digits : Nat)
  /-- An item is on a lane that does not exist. -/
  | unknownLane (cause : Timeline.UnknownLane)
  deriving DecidableEq, Repr

/-- Why a line is not read. -/
inductive Trouble where
  | line (error : LineError)
  | fault (fault : Fault)
  deriving DecidableEq, Repr

/-- The answer of a step that reads a line. -/
abbrev Reading := Except Trouble

def refuse {α : Type} (error : LineError) : Reading α := .error (.line error)

end Chronicle.Script
