import Chronicle.Timeline.Assemble

/-!
# Timelines that are put together

`assembled` is the timeline that `assemble` comes to, before its lanes are checked (`assemble_eq`).  Items
are only moved to lanes, so their numbers, their places in the source, and all the rest stay as they were.

The check of an item passes when the lane that it refers to is in the list (`Item.unknownLane?_eq_none_iff`),
and otherwise it tells this lane (`Item.lane_of_unknownLane?`).
-/

namespace Chronicle.Timeline

/-! ## Items on some lane -/

@[simp] theorem Item.lane_onSomeLane (item : Item) :
    item.onSomeLane.lane = some (item.lane.getD defaultLane.id) := by
  rw [Item.onSomeLane]
  cases hlane : item.lane with
  | none => rfl
  | some lane => exact hlane

@[simp] theorem Item.id_onSomeLane (item : Item) : item.onSomeLane.id = item.id := by
  rw [Item.onSomeLane]
  cases item.lane <;> rfl

@[simp] theorem Item.sourceLine_onSomeLane (item : Item) :
    item.onSomeLane.sourceLine = item.sourceLine := by
  rw [Item.onSomeLane]
  cases item.lane <;> rfl

/-! ## The timeline before the check -/

variable (items : List Item) (markers : List Marker) (lanes : List Lane) (flags : Flags)
  (locale : String) (options : Options)

/-- A timeline put together from its parts, whether or not all lanes exist. -/
def assembled : Timeline :=
  match lanes with
  | [] => ⟨items, markers, [], flags, locale, options⟩
  | _ =>
    ⟨items.map Item.onSomeLane, markers, lanes ++ [defaultLane], flags, locale, options⟩

theorem assemble_eq (options : Option Options) :
    assemble items markers lanes flags locale options =
      resolve (assembled items markers lanes flags locale (options.getD {})) := by
  cases lanes <;> rfl

variable {lanes} in
theorem items_assembled (h : lanes ≠ []) :
    (assembled items markers lanes flags locale options).items = items.map Item.onSomeLane := by
  cases lanes with
  | nil => exact absurd rfl h
  | cons lane rest => rfl

variable {lanes} in
theorem lanes_assembled (h : lanes ≠ []) :
    (assembled items markers lanes flags locale options).lanes = lanes ++ [defaultLane] := by
  cases lanes with
  | nil => exact absurd rfl h
  | cons lane rest => rfl

/-- What does not depend on the lane of an item is the same in the timeline. -/
theorem map_assembled {β : Type} {f : Item → β} (h : ∀ item, f item.onSomeLane = f item) :
    (assembled items markers lanes flags locale options).items.map f = items.map f := by
  cases lanes with
  | nil => rfl
  | cons lane rest =>
    change (items.map Item.onSomeLane).map f = items.map f
    rw [List.map_map]
    exact List.map_congr_left fun item _ => h item

theorem map_id_assembled :
    (assembled items markers lanes flags locale options).items.map Item.id =
      items.map Item.id :=
  map_assembled items markers lanes flags locale options Item.id_onSomeLane

theorem map_sourceLine_assembled :
    (assembled items markers lanes flags locale options).items.map Item.sourceLine =
      items.map Item.sourceLine :=
  map_assembled items markers lanes flags locale options Item.sourceLine_onSomeLane

theorem markers_assembled :
    (assembled items markers lanes flags locale options).markers = markers := by
  cases lanes <;> rfl

theorem flags_assembled : (assembled items markers lanes flags locale options).flags = flags := by
  cases lanes <;> rfl

theorem locale_assembled : (assembled items markers lanes flags locale options).locale = locale := by
  cases lanes <;> rfl

theorem options_assembled : (assembled items markers lanes flags locale options).options = options := by
  cases lanes <;> rfl

/-! ## The check -/

theorem Item.unknownLane?_eq_none_iff {item : Item} {lanes : List Lane} :
    item.unknownLane? lanes = none ↔
      ∀ lane, item.lane = some lane → ∃ l ∈ lanes, (l.id : Int) = lane := by
  rw [Item.unknownLane?]
  cases item.lane with
  | none => simp
  | some lane => simp

/-- The lane that is unknown is the one that the item is on. -/
theorem Item.lane_of_unknownLane? {item : Item} {lanes : List Lane} {e : UnknownLane}
    (h : item.unknownLane? lanes = some e) : e.item = item.id ∧ item.lane = some e.lane := by
  rw [Item.unknownLane?] at h
  split at h
  · cases h
  · next lane hlane =>
    split at h
    · cases h
    · cases h
      exact ⟨rfl, hlane⟩

theorem resolve_eq_ok {t : Timeline} (h : t.unknownLane? = none) : resolve t = .ok t := by
  rw [resolve, h]

end Chronicle.Timeline
