import Chronicle.Calendar.Moment

/-!
# What a timeline consists of

A `Timeline` is everything that is needed to draw one script: the items in source order, the
markers, the lanes that items are drawn on, display flags, a locale and options.

There are three kinds of item.  An event has a start and may have an end, a period has both, and a
point has a start only.  `Extent` says which of them an item is, together with its end.
-/

namespace Chronicle.Timeline

open Chronicle.Calendar

/-! ## Items -/

inductive ItemKind where
  | event
  | period
  | point
  deriving DecidableEq, Repr

def ItemKind.name : ItemKind → String
  | .event => "event"
  | .period => "period"
  | .point => "point"

/-- The kind that a word names. -/
def ItemKind.ofName? : String → Option ItemKind
  | "event" => some .event
  | "period" => some .period
  | "point" => some .point
  | _ => none

theorem ItemKind.ofName?_name (kind : ItemKind) : ofName? kind.name = some kind := by
  cases kind <;> rfl

/-- The kind of an item, with its end where it has one. -/
inductive Extent where
  /-- A date, or a range when there is an end. -/
  | event (stop : Option Moment)
  | period (stop : Moment)
  | point
  deriving DecidableEq, Repr

/-- The end of an item, if it has one. -/
def Extent.stop? : Extent → Option Moment
  | .event stop => stop
  | .period stop => some stop
  | .point => none

def Extent.kind : Extent → ItemKind
  | .event _ => .event
  | .period _ => .period
  | .point => .point

/-- The word for the way in which an item is drawn. -/
def Extent.shapeName : Extent → String
  | .event none => "box"
  | .event (some _) => "range"
  | .period _ => "background"
  | .point => "point"

/-- Something drawn on a timeline. -/
structure Item where
  /-- The position among the items, in source order and from 0. -/
  id : Nat
  content : String
  start : Moment
  lane : Option Int := none
  color : Option String := none
  description : Option String := none
  /-- A link found in the description, as written. -/
  link : Option String := none
  /-- The line of the source, from 1. -/
  sourceLine : Nat
  extent : Extent
  deriving DecidableEq, Repr

/-- A labelled line across the timeline. -/
structure Marker where
  start : Moment
  label : String
  /-- The line of the source, from 1. -/
  sourceLine : Nat
  deriving DecidableEq, Repr

/-- A lane that items are drawn on. -/
structure Lane where
  /-- The number that items refer to. -/
  id : Nat
  label : String
  deriving DecidableEq, Repr

/-! ## Display -/

/-- A stretch of time. -/
structure Window where
  start : Moment
  stop : Moment
  deriving DecidableEq, Repr

/-- What a script asks for about its display. -/
structure Flags where
  /-- The keys to order items by, most important first. -/
  orderBy : Option (List String) := none
  defaultView : Option Window := none
  hideCurrentTime : Bool := false
  height : Option Nat := none
  deriving DecidableEq, Repr

/-- Options that come with a script and are handed on with the timeline. -/
structure Options where
  roundRanges : Bool := false
  useUtc : Bool := true
  deriving DecidableEq, Repr

end Chronicle.Timeline

namespace Chronicle

/-! ## Timelines -/

/-- Everything that is needed to draw one script. -/
structure Timeline where
  items : List Timeline.Item := []
  markers : List Timeline.Marker := []
  lanes : List Timeline.Lane := []
  flags : Timeline.Flags := {}
  locale : String := "en"
  options : Timeline.Options := {}
  deriving DecidableEq, Repr

end Chronicle
