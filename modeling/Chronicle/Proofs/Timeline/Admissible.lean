import Chronicle.Proofs.Calendar.CanonicalText
import Chronicle.Timeline.Decode

/-!
# Timelines that pass their checks

The parts of a timeline are checked when it is made: lines are counted from 1, a window does not end before
it starts, a height is positive, and the lanes of items exist.  `Admissible` says this of a timeline as it
is, however it came about.

Dates have a check of their own.  `moments` are all the dates that a timeline holds.
-/

namespace Chronicle.Timeline

open Chronicle.Calendar Chronicle.Data

/-! ## Checks -/

/-- Flags that pass their checks. -/
structure Flags.Admissible (flags : Flags) : Prop where
  window : ∀ window ∈ flags.defaultView, checkedWindow window = .sound window
  height : ∀ pixels ∈ flags.height, 0 < pixels

theorem Flags.Admissible.empty : Flags.Admissible {} where
  window _ h := by cases h
  height _ h := by cases h

/-- A timeline that passes its checks. -/
structure Admissible (t : Timeline) : Prop where
  items : ∀ item ∈ t.items, 1 ≤ item.sourceLine
  markers : ∀ marker ∈ t.markers, 1 ≤ marker.sourceLine
  flags : t.flags.Admissible
  lanes : t.resolve = .ok t

theorem checkedWindow_eq_sound {window : Window}
    (h : ¬window.stop.isBefore window.start = true) : checkedWindow window = .sound window := by
  rw [checkedWindow, if_neg h]

/-! ## Dates -/

/-- The dates of an item. -/
def Item.moments (item : Item) : List Moment := item.start :: item.extent.stop?.toList

theorem Item.moments_onSomeLane (item : Item) : item.onSomeLane.moments = item.moments := by
  rw [Item.onSomeLane]
  cases item.lane <;> rfl

/-- The dates of a window. -/
def Window.moments (window : Window) : List Moment := [window.start, window.stop]

/-- The dates of a timeline. -/
def moments (t : Timeline) : List Moment :=
  t.items.flatMap Item.moments ++ t.markers.map Marker.start ++
    t.flags.defaultView.toList.flatMap Window.moments

theorem mem_moments_iff {t : Timeline} {m : Moment} :
    m ∈ t.moments ↔ (∃ item ∈ t.items, m ∈ item.moments) ∨
      (∃ marker ∈ t.markers, m = marker.start) ∨
        ∃ window ∈ t.flags.defaultView, m ∈ window.moments := by
  simp only [moments, List.mem_append, List.mem_flatMap, List.mem_map, Option.mem_toList, Option.mem_def,
    or_assoc, eq_comm]

end Chronicle.Timeline
