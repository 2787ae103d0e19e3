import Chronicle.Timeline.Item

/-!
# Dialects

A timeline script is written one entity or flag to a line.  A `Dialect` holds every mark that the
lines are made of, so that a host can change them.  The standard dialect looks like this.

* `# comment`
* `- [1789~1799] French Revolution #red {Europe} | See [[Revolutions]]`, an event
* `@ [1939-09-01~1945-09-02] World War II #gray`, a period
* `* [1969-07-20] Moon landing`, a point
* `= [2000] Millennium`, a marker
* `[2020] Launch`, an event without a sigil
* `> ORDERBY start|-content`, a flag

The sigil at the start of a line tells its kind.  `EntityKind` also has room for kinds with names of a
host's own, which are read as events.
-/

namespace Chronicle.Script

open Chronicle.Timeline

inductive EntityKind where
  | item (kind : ItemKind)
  | marker
  | other (name : String)
  deriving DecidableEq, Repr

def EntityKind.name : EntityKind → String
  | .item kind => kind.name
  | .marker => "marker"
  | .other name => name

/-- The kind that a word names. -/
def EntityKind.ofName (name : String) : EntityKind :=
  match ItemKind.ofName? name with
  | some kind => .item kind
  | none => if name = "marker" then .marker else .other name

/-- The flags that a line can set. -/
inductive FlagName where
  | orderBy
  | defaultView
  | noToday
  | height
  deriving DecidableEq, Repr

/-- The marks of a script. -/
structure Dialect where
  /-- Lines that start with it are skipped. -/
  commentMark : String := "#"
  /-- Lines that start with it set a flag. -/
  flagMark : String := ">"
  /-- The marks of entity lines, with the kinds they stand for. -/
  sigils : List (String × EntityKind) :=
    [("-", .item .event), ("@", .item .period), ("*", .item .point), ("=", .marker)]
  /-- A line that starts with it, and with no sigil, is an event. -/
  bareOpener : String := "["
  /-- Stands before the dates of an entity. -/
  dateOpen : String := "["
  /-- Stands after the dates of an entity.  None of its characters occurs in a date. -/
  dateClose : String := "]"
  /-- Stands between start and end. -/
  rangeSeparator : String := "~"
  /-- Stands before the description. -/
  descriptionSeparator : String := "|"
  /-- Stands between the arguments of a flag. -/
  argumentSeparator : String := "|"
  orderKeys : List String := ["start", "end", "content", "color", "group", "description"]
  /-- The keywords of flag lines, in upper case. -/
  keywords : List (String × FlagName) :=
    [("ORDERBY", .orderBy), ("DEFAULTVIEW", .defaultView), ("NOTODAY", .noToday),
      ("HEIGHT", .height)]
  deriving DecidableEq, Repr

def Dialect.standard : Dialect := {}

/-- The two forms in which a dialect writes dates, for messages. -/
def Dialect.dateForms (d : Dialect) : String :=
  d.dateOpen ++ "DATE" ++ d.dateClose ++ " or " ++
    d.dateOpen ++ "DATE" ++ d.rangeSeparator ++ "DATE" ++ d.dateClose

end Chronicle.Script
