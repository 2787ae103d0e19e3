import Chronicle.Calendar.PartialDate
import Chronicle.Script.Description
import Chronicle.Script.Error
import Chronicle.Script.Head
import Chronicle.Script.Link

/-!
# Entities

The body of an entity line is what follows its sigil: dates in brackets, then the content with its tags
and lanes, then a description.  A marker has a label in place of content, taken as it is.

The first fault of a body is found in a fixed order: the brackets are missing, the start cannot be read,
the end cannot be read, the end is before the start, and last the kind has an end too many or too few.
-/

namespace Chronicle.Script

open Chronicle.Calendar Chronicle.Text Chronicle.Timeline

/-- An item before it has a number and a place in the source. -/
structure Draft where
  content : String
  start : Moment
  lane : Option String := none
  color : Option String := none
  description : Option String := none
  link : Option String := none
  extent : Extent
  deriving DecidableEq, Repr

/-- What an entity line declares. -/
inductive Entity where
  | item (draft : Draft)
  | marker (start : Moment) (label : String)
  deriving DecidableEq, Repr

/-! ## Dates -/

def Dialect.isDateChar (d : Dialect) (c : Char) : Bool := !d.dateClose.toList.contains c

/-- The dates in brackets that a text starts with, and the text after them. -/
def Dialect.bracketAt? (d : Dialect) (cs : List Char) : Option (List Char × List Char) :=
  match dropFront? d.dateOpen.toList cs with
  | none => none
  | some inner =>
    match dropFront? d.dateClose.toList (inner.dropWhile d.isDateChar) with
    | none => none
    | some rest => some (inner.takeWhile d.isDateChar, rest)

/-- The dates in brackets after any blanks, and the text after them.  Brackets may start with a blank, so
as many blanks as possible are passed over. -/
def Dialect.bracket? (d : Dialect) : List Char → Option (List Char × List Char)
  | [] => d.bracketAt? []
  | c :: rest =>
    if isBlank c then (d.bracket? rest).or (d.bracketAt? (c :: rest)) else d.bracketAt? (c :: rest)

def readDate (text : List Char) : Reading Moment :=
  match normalize (String.ofList text) with
  | .ok m => .ok m
  | .error cause => refuse (.date cause)

/-- Reads the start and, behind a separator, the end. -/
def readDates (d : Dialect) (dates : List Char) : Reading (Moment × Option Moment) :=
  if d.rangeSeparator.isEmpty then .error (.fault .emptySeparator)
  else
    match cutAt? d.rangeSeparator.toList dates with
    | none => do return (← readDate dates, none)
    | some (startText, stopText) => do
      let start ← readDate startText
      let stop ← readDate stopText
      if stop.isBefore start then refuse (.reversedRange start stop)
      else return (start, some stop)

/-! ## Items and markers -/

/-- A text that is not empty. -/
def nonempty? (cs : List Char) : Option String :=
  if cs.isEmpty then none else some (String.ofList cs)

/-- The item that stands behind its dates. -/
def draftItem (start : Moment) (extent : Extent) (head : List Char)
    (description : Option (List Char)) : Draft :=
  let parts := splitHead head
  let text := (description.map trim).getD []
  { content := String.ofList parts.content
    start
    lane := parts.lane.map String.ofList
    color := parts.color.map String.ofList
    description := nonempty? text
    link := (firstLink? text).map String.ofList
    extent }

/-- The entity of a kind, once its dates are known. -/
def buildEntity (kind : EntityKind) (start : Moment) (stop : Option Moment) (head : List Char)
    (description : Option (List Char)) : Reading Entity :=
  match kind, stop with
  | .marker, none => .ok (.marker start (String.ofList (trim head)))
  | .marker, some _ => refuse .markerWithEnd
  | .item .period, none => refuse .periodWithoutEnd
  | .item .period, some stop => .ok (.item (draftItem start (.period stop) head description))
  | .item .point, none => .ok (.item (draftItem start .point head description))
  | .item .point, some _ => refuse .pointWithEnd
  | .item .event, stop | .other _, stop =>
    .ok (.item (draftItem start (.event stop) head description))

/-- Reads the body of an entity line.  The whole line is only needed for the message. -/
def readEntity (d : Dialect) (kind : EntityKind) (body line : List Char) : Reading Entity :=
  match d.bracket? body with
  | none => refuse (.noDates d.dateForms kind (String.ofList line))
  | some (dates, rest) => do
    let (start, stop) ← readDates d dates
    let (head, description) := splitDescription d.descriptionSeparator.toList rest
    buildEntity kind start stop head description

end Chronicle.Script
