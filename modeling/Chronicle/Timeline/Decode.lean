import Chronicle.Calendar.PartialDate
import Chronicle.Data.Decode
import Chronicle.Timeline.Assemble

/-!
# Timelines from data

The shapes that timelines and their parts have as data.  A date is a partial date as a text, or a
record of its components.  The kind of an item is told by its field `kind`.

A whole that is made of sound parts is checked last: a window has to end after it starts, a date has
to be real, and the items of a timeline have to be on lanes that it has.
-/

namespace Chronicle.Timeline

open Chronicle.Calendar Chronicle.Data

/-! ## Dates -/

/-- A date that has been checked, or the message of its fault. -/
def checkedMoment : Except DateError Moment → Checked Moment
  | .ok m => .sound m
  | .error e => .fail (if e.Writable then .rejected e.message else .overlong)

/-- Reads the components of a date.  Fields with other names do not matter. -/
def readComponentFields (fields : List (String × Value)) : Checked Moment :=
  (fun y mo d h mi s => ⟨⟨y, mo, d⟩, h, mi, s⟩)
    <$> required fields "year" Value.integer
    <*> required fields "month" Value.integer
    <*> required fields "day" Value.integer
    <*> optionalField fields "hour" 0 Value.integer
    <*> optionalField fields "minute" 0 Value.integer
    <*> optionalField fields "second" 0 Value.integer

/-- The components of a date, as the fields of a record. -/
def componentFields (m : Moment) : List (String × Value) := [
  ("year", .int m.year), ("month", .int m.month), ("day", .int m.day), ("hour", .int m.hour),
  ("minute", .int m.minute), ("second", .int m.second)]

/-- Reads the components of a date, and checks the date that they make. -/
def readComponentRecord (fields : List (String × Value)) : Checked Moment :=
  (readComponentFields fields).andThen fun m => checkedMoment m.check

/-- Reads a date.  A text gives the components that it stands for, and these are checked like any others. -/
def readMoment : Value → Checked Moment
  | .text s => (checkedMoment (normalize s)).andThen fun m => readComponentRecord (componentFields m)
  | .record fields => readComponentRecord fields
  | _ => .fail .notRecord

/-! ## Items -/

/-- Reads the value of an absent end. -/
def readNull : Value → Checked Unit
  | .null => .sound ()
  | _ => .fail .notNull

def readExtent (kind : ItemKind) (fields : List (String × Value)) : Checked Extent :=
  match kind with
  | .event => (optionalField fields "end" none (Value.optional readMoment)).map .event
  | .period => (required fields "end" readMoment).map .period
  | .point => (optionalField fields "end" () readNull).map fun _ => .point

def itemFields : List String :=
  ["id", "content", "start", "group", "color", "description", "link", "source_line", "kind", "end"]

def readItemFields (kind : ItemKind) (fields : List (String × Value)) : Checked Item :=
  (fun id content start lane color description link line _ extent =>
      ⟨id, content, start, lane, color, description, link, line, extent⟩)
    <$> required fields "id" (Value.natural 0)
    <*> required fields "content" Value.string
    <*> required fields "start" readMoment
    <*> optionalField fields "group" none (Value.optional Value.integer)
    <*> optionalField fields "color" none (Value.optional Value.string)
    <*> optionalField fields "description" none (Value.optional Value.string)
    <*> optionalField fields "link" none (Value.optional Value.string)
    <*> required fields "source_line" (Value.natural 1)
    <*> optionalField fields "kind" kind.name (Value.word [kind.name])
    <*> readExtent kind fields

/-- Reads an item of a kind that is known beforehand. -/
def readItemOf (kind : ItemKind) : Value → Checked Item :=
  Value.closedRecord itemFields (readItemFields kind)

/-- Reads an item of any kind. -/
def readItem : Value → Checked Item
  | .record fields =>
    match fields.lookup "kind" with
    | none => .fail .noVariant
    | some (.text word) =>
      match ItemKind.ofName? word with
      | some kind => (readItemOf kind (.record fields)).under (.field word)
      | none => .fail .unknownVariant
    | some _ => .fail .unknownVariant
  | _ => .fail .notVariant

/-! ## Markers, lanes, flags and options -/

def readMarker : Value → Checked Marker :=
  Value.closedRecord ["start", "label", "source_line"] fun fields =>
    (fun start label line => ⟨start, label, line⟩)
      <$> required fields "start" readMoment
      <*> required fields "label" Value.string
      <*> required fields "source_line" (Value.natural 1)

def readLane : Value → Checked Lane :=
  Value.closedRecord ["id", "label"] fun fields =>
    (fun id label => ⟨id, label⟩)
      <$> required fields "id" (Value.natural 0)
      <*> required fields "label" Value.string

/-- A window that does not end before it starts. -/
def checkedWindow (window : Window) : Checked Window :=
  if window.stop.isBefore window.start then
    .fail (.rejected "default view end precedes its start")
  else .sound window

def readWindow (v : Value) : Checked Window :=
  (v.closedRecord ["start", "end"] fun fields =>
    (fun start stop => ⟨start, stop⟩)
      <$> required fields "start" readMoment
      <*> required fields "end" readMoment).andThen checkedWindow

def readFlags : Value → Checked Flags :=
  Value.closedRecord ["order_by", "default_view", "hide_current_time_marker", "height"] fun fields =>
    (fun orderBy view hide height => ⟨orderBy, view, hide, height⟩)
      <$> optionalField fields "order_by" none (Value.optional (Value.elements Value.string))
      <*> optionalField fields "default_view" none (Value.optional readWindow)
      <*> optionalField fields "hide_current_time_marker" false Value.truth
      <*> optionalField fields "height" none (Value.optional Value.positive)

def readOptions : Value → Checked Options :=
  Value.closedRecord ["round_ranges", "use_utc"] fun fields =>
    (fun roundRanges useUtc => ⟨roundRanges, useUtc⟩)
      <$> optionalField fields "round_ranges" false Value.truth
      <*> optionalField fields "use_utc" true Value.truth

/-- Reads options, where an empty value stands for the defaults. -/
def readOptionsOrDefault (v : Value) : Checked Options :=
  if v.isEmpty then .sound {} else readOptions v

/-! ## Timelines -/

/-- A timeline whose items are on lanes that it has. -/
def checkedTimeline (t : Timeline) : Checked Timeline :=
  match t.resolve with
  | .ok t => .sound t
  | .error e => .fail e.defect

def readTimeline (v : Value) : Checked Timeline :=
  (v.closedRecord ["items", "markers", "groups", "flags", "locale", "config"] fun fields =>
    (fun items markers lanes flags locale options =>
        ⟨items, markers, lanes, flags, locale, options⟩)
      <$> optionalField fields "items" [] (Value.elements readItem)
      <*> optionalField fields "markers" [] (Value.elements readMarker)
      <*> optionalField fields "groups" [] (Value.elements readLane)
      <*> optionalField fields "flags" {} readFlags
      <*> optionalField fields "locale" "en" Value.string
      <*> optionalField fields "config" {} readOptions).andThen checkedTimeline

end Chronicle.Timeline
