import Chronicle.Proofs.Text.Trim
import Chronicle.Proofs.Timeline.Assemble
import Chronicle.Text.Word

/-!
# Well-formed timelines

What may be relied on by whoever draws a timeline: dates are real and in order, texts have no blanks around
them, a color is a single word, and the flags hold what they can be set to.

Items are well formed apart from their lanes.  So they stay well formed when they are moved to the default lane,
and a timeline is as well formed as the parts that it is put together from (`WellFormed.assembled`).
-/

namespace Chronicle.Timeline

open Chronicle.Calendar Chronicle.Text

/-! ## Dates -/

/-- A start and perhaps an end, which are real and in order. -/
structure IsSpan (start : Moment) (stop : Option Moment) : Prop where
  real : start.Real
  realStop : ∀ m ∈ stop, m.Real
  order : ∀ m ∈ stop, m.isBefore start = false

/-- Whether an item of a kind can have this end, or this lack of one. -/
def FitsKind : ItemKind → (stop : Option Moment) → Prop
  | .event, _ => True
  | .period, stop => stop ≠ none
  | .point, stop => stop = none

theorem fitsKind_extent (extent : Extent) : FitsKind extent.kind extent.stop? := by
  cases extent with
  | event stop => trivial
  | period stop => exact Option.some_ne_none stop
  | point => rfl

/-! ## Items and markers -/

/-- A text that can name a color: word characters and hyphens, and at least one of them. -/
def IsColor (cs : List Char) : Prop := cs ≠ [] ∧ ∀ c ∈ cs, isWord c = true ∨ c = '-'

structure Item.WellFormed (item : Item) : Prop where
  span : IsSpan item.start item.extent.stop?
  kind : FitsKind item.extent.kind item.extent.stop?
  content : IsTrimmed item.content.toList
  color : ∀ color ∈ item.color, IsColor color.toList
  description : ∀ description ∈ item.description, description ≠ "" ∧ IsTrimmed description.toList
  /-- A link is found in the description, as it is written there. -/
  link : ∀ link ∈ item.link, ∃ description ∈ item.description, link.toList <:+: description.toList

structure Marker.WellFormed (marker : Marker) : Prop where
  real : marker.start.Real
  label : IsTrimmed marker.label.toList

theorem Item.WellFormed.onSomeLane {item : Item} (h : item.WellFormed) : item.onSomeLane.WellFormed := by
  rw [Item.onSomeLane]
  cases item.lane with
  | some lane => exact h
  | none => exact ⟨h.span, h.kind, h.content, h.color, h.description, h.link⟩

/-! ## Flags -/

/-- A sort key by one of these fields, with a hyphen in front for descending order. -/
def IsSortKey (fields : List String) (key : String) : Prop := ∃ field ∈ fields, key = field ∨ key = "-" ++ field

/-- Sort keys to order items by, and at least one of them. -/
def IsSortOrder (fields keys : List String) : Prop := keys ≠ [] ∧ ∀ key ∈ keys, IsSortKey fields key

structure Flags.WellFormed (fields : List String) (flags : Flags) : Prop where
  orderBy : ∀ keys ∈ flags.orderBy, IsSortOrder fields keys
  window : ∀ window ∈ flags.defaultView, IsSpan window.start (some window.stop)
  height : ∀ pixels ∈ flags.height, 1 ≤ pixels

/-- No flag is set at first. -/
theorem Flags.WellFormed.empty (fields : List String) : Flags.WellFormed fields {} where
  orderBy _ h := by cases h
  window _ h := by cases h
  height _ h := by cases h

/-! ## Timelines -/

/-- A timeline that is well formed, where items can be sorted by these fields. -/
structure WellFormed (fields : List String) (t : Timeline) : Prop where
  items : ∀ item ∈ t.items, item.WellFormed
  markers : ∀ marker ∈ t.markers, marker.WellFormed
  flags : t.flags.WellFormed fields

theorem WellFormed.assembled {fields : List String} {items : List Item} {markers : List Marker} {flags : Flags}
    (hitems : ∀ item ∈ items, item.WellFormed) (hmarkers : ∀ marker ∈ markers, marker.WellFormed)
    (hflags : flags.WellFormed fields) (lanes : List Lane) (locale : String) (options : Options) :
    (assembled items markers lanes flags locale options).WellFormed fields where
  items := by
    cases lanes with
    | nil => exact hitems
    | cons lane rest =>
      intro item hitem
      obtain ⟨old, hold, rfl⟩ := List.mem_map.mp hitem
      exact (hitems old hold).onSomeLane
  markers := by
    rw [markers_assembled]
    exact hmarkers
  flags := by
    rw [flags_assembled]
    exact hflags

end Chronicle.Timeline
