import Chronicle.Proofs.Timeline.Assemble

/-!
# Lanes by their labels

A timeline refers to lanes by number.  The numbers depend on everything that was declared before, but what
an author writes is a label.  `declaredLabels` are the labels of the lanes other than the default one, and
`laneLabel?` is the label of the lane that an item is on.

An item that is moved to the default lane has no label before and none afterwards
(`laneLabel?_onSomeLane`), and the default lane is not among the declared ones (`declaredLanes_assembled`).
So labels do not depend on whether a timeline has lanes at all.
-/

namespace Chronicle.Timeline

/-- The lanes of a timeline, without the default lane. -/
def declaredLanes (t : Timeline) : List Lane := t.lanes.filter fun lane => lane.id ≠ defaultLane.id

/-- The labels of the lanes, without that of the default lane. -/
def declaredLabels (t : Timeline) : List String := t.declaredLanes.map Lane.label

/-- The label of the lane that an item is on.  An item on the default lane has none. -/
def laneLabel? (t : Timeline) (item : Item) : Option String :=
  item.lane.bind fun number =>
    (t.declaredLanes.find? fun lane => (lane.id : Int) = number).map Lane.label

/-- The item, taken off its lane. -/
def Item.offLane (item : Item) : Item := { item with lane := none }

@[simp] theorem Item.offLane_onSomeLane (item : Item) : item.onSomeLane.offLane = item.offLane := by
  rw [Item.onSomeLane]
  cases item.lane <;> rfl

theorem find?_declaredLanes_default (t : Timeline) :
    (t.declaredLanes.find? fun lane => (lane.id : Int) = defaultLane.id) = none := by
  rw [List.find?_eq_none]
  intro lane hlane hnumber
  obtain ⟨-, hother⟩ := List.mem_filter.mp hlane
  exact of_decide_eq_true hother (Int.ofNat.inj (of_decide_eq_true hnumber))

@[simp] theorem laneLabel?_onSomeLane (t : Timeline) (item : Item) :
    t.laneLabel? item.onSomeLane = t.laneLabel? item := by
  rw [laneLabel?, laneLabel?, Item.lane_onSomeLane]
  cases item.lane with
  | none =>
    rw [Option.getD_none, Option.bind_some, find?_declaredLanes_default]
    rfl
  | some number => rfl

variable (items : List Item) (markers : List Marker) {lanes : List Lane} (flags : Flags)
  (locale : String) (options : Options)

theorem declaredLanes_assembled (h : ∀ lane ∈ lanes, lane.id ≠ defaultLane.id) :
    (assembled items markers lanes flags locale options).declaredLanes = lanes := by
  have hkeep : (lanes.filter fun lane => lane.id ≠ defaultLane.id) = lanes :=
    List.filter_eq_self.mpr fun lane hlane => decide_eq_true (h lane hlane)
  cases lanes with
  | nil => rfl
  | cons first rest =>
    change ((first :: rest) ++ [defaultLane]).filter _ = _
    have hdrop : [defaultLane].filter (fun lane => lane.id ≠ defaultLane.id) = [] := by decide
    rw [List.filter_append, hkeep, hdrop, List.append_nil]

end Chronicle.Timeline
