import Chronicle.Data.Value
import Chronicle.Timeline.Item

/-!
# Timelines as data

How a timeline and its parts are written as data values.  Dates are written as their canonical texts,
and what is absent is written as null.  What holds a date that cannot be written has no data value.
-/

namespace Chronicle.Timeline

open Chronicle.Calendar Chronicle.Data

/-- A date, as its canonical text. -/
def momentValue? (m : Moment) : Option Value := m.isoText?.map .text

/-- Something that may be absent, and is null then. -/
def optionalValue? {α : Type} (write : α → Option Value) : Option α → Option Value
  | none => some .null
  | some a => write a

/-- An integer that may be absent. -/
def intValue : Option Int → Value
  | none => .null
  | some n => .int n

def Item.toValue? (item : Item) : Option Value := do
  let start ← momentValue? item.start
  let stop ← optionalValue? momentValue? item.extent.stop?
  return .record [
    ("id", .int item.id),
    ("content", .text item.content),
    ("start", start),
    ("group", intValue item.lane),
    ("color", .ofText? item.color),
    ("description", .ofText? item.description),
    ("link", .ofText? item.link),
    ("source_line", .int item.sourceLine),
    ("kind", .text item.extent.kind.name),
    ("end", stop)]

def Marker.toValue? (marker : Marker) : Option Value := do
  let start ← momentValue? marker.start
  return .record [
    ("start", start),
    ("label", .text marker.label),
    ("source_line", .int marker.sourceLine)]

def Lane.toValue (lane : Lane) : Value :=
  .record [("id", .int lane.id), ("label", .text lane.label)]

def Window.toValue? (window : Window) : Option Value := do
  let start ← momentValue? window.start
  let stop ← momentValue? window.stop
  return .record [("start", start), ("end", stop)]

/-- The sort keys of a script as data. -/
def orderByValue : Option (List String) → Value
  | none => .null
  | some keys => .list (keys.map .text)

/-- Display flags as data. -/
def Flags.toValue? (flags : Flags) : Option Value := do
  let view ← optionalValue? Window.toValue? flags.defaultView
  return .record [
    ("order_by", orderByValue flags.orderBy),
    ("default_view", view),
    ("hide_current_time_marker", .bool flags.hideCurrentTime),
    ("height", intValue (flags.height.map Int.ofNat))]

def Options.toValue (options : Options) : Value :=
  .record [("round_ranges", .bool options.roundRanges), ("use_utc", .bool options.useUtc)]

def toValue? (t : Timeline) : Option Value := do
  let items ← t.items.mapM Item.toValue?
  let markers ← t.markers.mapM Marker.toValue?
  let flags ← t.flags.toValue?
  return .record [
    ("items", .list items),
    ("markers", .list markers),
    ("groups", .list (t.lanes.map Lane.toValue)),
    ("flags", flags),
    ("locale", .text t.locale),
    ("config", t.options.toValue)]

end Chronicle.Timeline
