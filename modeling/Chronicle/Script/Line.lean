import Chronicle.Data.StableSort
import Chronicle.Script.Entity
import Chronicle.Script.Flag
import Chronicle.Text.Case

/-!
# Lines

A line is read without the blanks around it.  `classify` tells from its start what it is: a blank line or
a comment, a flag, or an entity.  Where several sigils fit, the longest is meant.

`readLine` gives the effect of a line.  Nothing is changed while a line is read, so a line that fails has
no effect at all.
-/

namespace Chronicle.Script

open Chronicle.Calendar Chronicle.Data Chronicle.Text Chronicle.Timeline

/-! ## What a line is -/

/-- What a line is, and the part of it that says more. -/
inductive LineForm where
  | skipped
  | flag (body : List Char)
  | entity (kind : EntityKind) (body : List Char)
  | unknown
  deriving DecidableEq, Repr

/-- The sigils of a dialect, longer ones first. -/
def Dialect.sigilsByLength (d : Dialect) : List (String × EntityKind) :=
  stableSort (fun a b => b.1.toList.length < a.1.toList.length) d.sigils

/-- The kind of the longest sigil that a line starts with, and the line after it. -/
def Dialect.sigil? (d : Dialect) (line : List Char) : Option (EntityKind × List Char) :=
  d.sigilsByLength.findSome? fun (sigil, kind) =>
    (dropFront? sigil.toList line).map fun body => (kind, body)

/-- Tells what a line without blanks around it is. -/
def Dialect.classify (d : Dialect) (line : List Char) : LineForm :=
  if line.isEmpty || d.commentMark.toList.isPrefixOf line then .skipped
  else
    match dropFront? d.flagMark.toList line with
    | some body => .flag body
    | none =>
      match d.sigil? line with
      | some (kind, body) => .entity kind body
      | none => if d.bareOpener.toList.isPrefixOf line then .entity (.item .event) line else .unknown

/-! ## What a line does -/

/-- What a line does. -/
inductive Effect where
  | none
  | flag (setting : FlagSetting)
  | entity (entity : Entity)
  deriving DecidableEq, Repr

/-- The first word of a text without blanks around it, and what follows. -/
def firstWord (cs : List Char) : List Char × List Char :=
  (cs.takeWhile fun c => !isBlank c, trimStart (cs.dropWhile fun c => !isBlank c))

/-- The flag that a keyword names, in any case. -/
def Dialect.flag? (d : Dialect) (keyword : List Char) : Option FlagName :=
  d.keywords.lookup (String.ofList (upper keyword))

/-- Reads a flag line.  Keywords that the dialect does not have do nothing. -/
def readFlag (d : Dialect) (body : List Char) : Reading Effect :=
  let (keyword, arguments) := firstWord (trim body)
  if keyword.isEmpty then refuse .noKeyword
  else
    match d.flag? keyword with
    | none => .ok .none
    | some flag => (flag.read d arguments).map .flag

def readLine (d : Dialect) (text : List Char) : Reading Effect :=
  let line := trim text
  match d.classify line with
  | .skipped => .ok .none
  | .flag body => readFlag d body
  | .entity kind body => (readEntity d kind body line).map .entity
  | .unknown => refuse (.unknownLine (String.ofList line))

end Chronicle.Script
