import Chronicle.Proofs.Text.Decimal
import Chronicle.Proofs.Timeline.Assemble

/-!
# Which items can be placed

Parts make a timeline when every item can be placed: it is on no lane, or on a lane that is given, or on the
default lane where lanes are given at all.

The check of the timeline that is put together looks at items that were moved.  It comes to the same as looking at
each item as it was given (`unknownLane?_assembled_eq`), where an item passes just when it can be placed
(`placementFault?_eq_none_iff`).  So the item that is reported is the first one in the given order that cannot be
placed.  The report names the item and its lane, if both numbers can be written.  `assemble_places` says this, and what
is in a timeline that was put together.
-/

namespace Chronicle.Timeline

open Chronicle.Data Chronicle.Text

variable {items : List Item} {markers : List Marker} {lanes : List Lane} {flags : Flags} {locale : String}
  {options : Options}

/-! ## Items one by one -/

/-- The lane of an item is given, or it is the default lane and others are given. -/
def Item.Placeable (lanes : List Lane) (item : Item) : Prop :=
  ∀ number, item.lane = some number → (∃ lane ∈ lanes, (lane.id : Int) = number) ∨ lanes ≠ [] ∧ number = 0

/-- What the check says of an item, where these are the lanes that are given. -/
def placementFault? (lanes : List Lane) (item : Item) : Option UnknownLane :=
  match lanes with
  | [] => item.unknownLane? []
  | _ => item.onSomeLane.unknownLane? (lanes ++ [defaultLane])

theorem onSomeLane_eq (item : Item) : item.onSomeLane = { item with lane := some (item.lane.getD 0) } := by
  obtain ⟨id, content, start, lane, color, description, link, sourceLine, extent⟩ := item
  cases lane <;> rfl

theorem exists_mem_append_defaultLane_iff {number : Int} :
    (∃ lane ∈ lanes ++ [defaultLane], (lane.id : Int) = number) ↔
      (∃ lane ∈ lanes, (lane.id : Int) = number) ∨ number = 0 := by
  simp only [List.mem_append, List.mem_singleton, or_and_right, exists_or, exists_eq_left]
  exact or_congr_right eq_comm

theorem placementFault?_eq_none_iff {item : Item} : placementFault? lanes item = none ↔ item.Placeable lanes := by
  cases lanes with
  | nil => simp [placementFault?, Item.unknownLane?_eq_none_iff, Item.Placeable]
  | cons first rest =>
    change item.onSomeLane.unknownLane? (first :: rest ++ [defaultLane]) = none ↔ item.Placeable (first :: rest)
    rw [Item.unknownLane?_eq_none_iff, Item.Placeable, Item.lane_onSomeLane]
    simp only [exists_mem_append_defaultLane_iff, Option.some.injEq, forall_eq', ne_eq, reduceCtorEq,
      not_false_eq_true, true_and]
    cases item.lane with
    | none => simp [defaultLane]
    | some number => simp

theorem lane_of_placementFault? {item : Item} {e : UnknownLane} (h : placementFault? lanes item = some e) :
    e.item = item.id ∧ item.lane = some e.lane := by
  cases lanes with
  | nil => exact Item.lane_of_unknownLane? h
  | cons first rest =>
    obtain ⟨hid, hlane⟩ := @Item.lane_of_unknownLane? item.onSomeLane _ _ h
    rw [Item.id_onSomeLane] at hid
    refine ⟨hid, ?_⟩
    -- An item on no lane is moved to the default lane, which is there.
    cases hgiven : item.lane with
    | none =>
      have hplaceable : item.Placeable (first :: rest) := by simp [Item.Placeable, hgiven]
      rw [placementFault?_eq_none_iff.mpr hplaceable] at h
      cases h
    | some number => rwa [Item.lane_onSomeLane, hgiven] at hlane

/-! ## The first item that cannot be placed -/

theorem unknownLane?_assembled_eq :
    (assembled items markers lanes flags locale options).unknownLane? = items.findSome? (placementFault? lanes) := by
  cases lanes with
  | nil => rfl
  | cons first rest => exact List.findSome?_map

theorem unknownLane?_assembled_eq_none_iff :
    (assembled items markers lanes flags locale options).unknownLane? = none ↔
      ∀ item ∈ items, item.Placeable lanes := by
  rw [unknownLane?_assembled_eq, List.findSome?_eq_none_iff]
  exact forall₂_congr fun item _ => placementFault?_eq_none_iff

theorem assemble_eq_ok_iff {options : Option Options} {t : Timeline} :
    assemble items markers lanes flags locale options = .ok t ↔
      (∀ item ∈ items, item.Placeable lanes) ∧ t = assembled items markers lanes flags locale (options.getD {}) := by
  rw [assemble_eq, resolve, ← @unknownLane?_assembled_eq_none_iff items markers lanes flags locale (options.getD {})]
  split
  · next e he => simp [he]
  · next hnone => simp [hnone, eq_comm]

theorem exists_first_of_assemble {options : Option Options} {e : UnknownLane}
    (h : assemble items markers lanes flags locale options = .error e) :
    ∃ before item after number, items = before ++ item :: after ∧ (∀ earlier ∈ before, earlier.Placeable lanes) ∧
      ¬item.Placeable lanes ∧ item.lane = some number ∧ e = ⟨item.id, number⟩ := by
  rw [assemble_eq, resolve] at h
  split at h
  · next hfault =>
    cases h
    rw [unknownLane?_assembled_eq, List.findSome?_eq_some_iff] at hfault
    obtain ⟨before, item, after, hitems, hitem, hbefore⟩ := hfault
    obtain ⟨hid, hlane⟩ := lane_of_placementFault? hitem
    refine ⟨before, item, after, e.lane, hitems, fun earlier hearlier => ?_, ?_, hlane, ?_⟩
    · exact placementFault?_eq_none_iff.mp (hbefore earlier hearlier)
    · rw [← placementFault?_eq_none_iff, hitem]
      exact Option.some_ne_none e
    · rw [← hid]
  · cases h

/-! ## What is reported -/

theorem defect_of_writable {e : UnknownLane} (hitem : Writable e.item) (hlane : Writable e.lane) :
    e.defect = .rejected ("item " ++ toString e.item ++ " references unknown group " ++ toString e.lane) := by
  have hid : numeral e.item = toString e.item := numeral_eq_toString e.item
  simp [UnknownLane.defect, UnknownLane.message?, showInt?_of_writable hitem, showInt?_of_writable hlane, hid,
    numeral_eq_toString]

theorem defect_of_not_writable {e : UnknownLane} (h : ¬(Writable e.item ∧ Writable e.lane)) :
    e.defect = .overlong := by
  rw [UnknownLane.defect, UnknownLane.message?]
  by_cases hitem : Writable e.item
  · have hlane : ¬Writable e.lane := fun hlane => h ⟨hitem, hlane⟩
    simp [showInt?_of_writable hitem, showInt?_of_not_writable hlane]
  · simp [showInt?_of_not_writable hitem]

/-! ## What is put together -/

/-- Every item of a timeline with lanes is on one of them. -/
theorem exists_lane_of_mem_items_assembled (hlanes : lanes ≠ []) (hplaceable : ∀ item ∈ items, item.Placeable lanes)
    {item : Item} (h : item ∈ (assembled items markers lanes flags locale options).items) :
    ∃ lane ∈ (assembled items markers lanes flags locale options).lanes, item.lane = some (lane.id : Int) := by
  rw [items_assembled items markers flags locale options hlanes] at h
  obtain ⟨given, hgiven, rfl⟩ := List.mem_map.mp h
  rw [lanes_assembled items markers flags locale options hlanes, Item.lane_onSomeLane]
  have hnumber : (∃ lane ∈ lanes, (lane.id : Int) = given.lane.getD defaultLane.id) ∨
      given.lane.getD defaultLane.id = 0 := by
    cases hlane : given.lane with
    | none => exact .inr rfl
    | some number => exact (hplaceable given hgiven number hlane).imp_right And.right
  obtain ⟨lane, hlane, hid⟩ := exists_mem_append_defaultLane_iff.mpr hnumber
  exact ⟨lane, hlane, congrArg some hid.symm⟩

/-- Parts make a timeline exactly when every item can be placed, and otherwise the first item that cannot is
reported.  The report names it and its lane when both numbers can be written, and only then.  Without lanes the items
are as they were given.  With lanes the default lane comes behind them, the items that were on no lane are on this one,
and every item is on a lane of the timeline.  All else is handed on. -/
theorem assemble_places (items : List Item) (markers : List Marker) (lanes : List Lane) (flags : Flags)
    (locale : String) (options : Option Options) :
    ((∃ t, assemble items markers lanes flags locale options = .ok t) ↔ ∀ item ∈ items, item.Placeable lanes) ∧
      ((¬∀ item ∈ items, item.Placeable lanes) →
        ∃ before item after number, items = before ++ item :: after ∧
          (∀ earlier ∈ before, earlier.Placeable lanes) ∧ ¬item.Placeable lanes ∧ item.lane = some number ∧
          ∃ e, assemble items markers lanes flags locale options = .error e ∧ e = ⟨item.id, number⟩ ∧
            (Writable item.id ∧ Writable number → e.defect = .rejected
              ("item " ++ toString item.id ++ " references unknown group " ++ toString number)) ∧
            (¬(Writable item.id ∧ Writable number) → e.defect = .overlong)) ∧
      ∀ t, assemble items markers lanes flags locale options = .ok t →
        (lanes = [] → t.items = items ∧ t.lanes = []) ∧
        (lanes ≠ [] → t.lanes = lanes ++ [⟨0, " "⟩] ∧
          t.items = items.map (fun item => { item with lane := some (item.lane.getD 0) }) ∧
          ∀ item ∈ t.items, ∃ lane ∈ t.lanes, item.lane = some (lane.id : Int)) ∧
        t.markers = markers ∧ t.flags = flags ∧ t.locale = locale ∧ t.options = options.getD {} := by
  refine ⟨?_, fun hnot => ?_, fun t ht => ?_⟩
  · simp only [assemble_eq_ok_iff, exists_and_left, exists_eq, and_true]
  · cases hresult : assemble items markers lanes flags locale options with
    | ok t => exact absurd (assemble_eq_ok_iff.mp hresult).1 hnot
    | error e =>
      obtain ⟨before, item, after, number, hitems, hbefore, hitem, hlane, rfl⟩ := exists_first_of_assemble hresult
      exact ⟨before, item, after, number, hitems, hbefore, hitem, hlane, _, rfl, rfl,
        fun hwritable => defect_of_writable hwritable.1 hwritable.2,
        fun hnot => @defect_of_not_writable ⟨item.id, number⟩ hnot⟩
  · obtain ⟨hplaceable, rfl⟩ := assemble_eq_ok_iff.mp ht
    refine ⟨?_, fun hlanes => ⟨?_, ?_, fun item hitem => ?_⟩, markers_assembled .., flags_assembled ..,
      locale_assembled .., options_assembled ..⟩
    · rintro rfl
      exact ⟨rfl, rfl⟩
    · exact lanes_assembled items markers flags locale _ hlanes
    · rw [items_assembled items markers flags locale _ hlanes]
      exact List.map_congr_left fun item _ => onSomeLane_eq item
    · exact exists_lane_of_mem_items_assembled hlanes hplaceable hitem

/-- An event of the year 2000, with a number and a lane. -/
def eventOn (id : Nat) (lane : Option Int) : Item :=
  { id, content := "Event", start := ⟨⟨2000, 1, 1⟩, 0, 0, 0⟩, lane, sourceLine := id + 1, extent := .event none }

/-- With one lane given, the events on it, on none and on the default lane are placed.  Of the two that are on other
lanes the first is reported. -/
theorem assemble_places_oneLane :
    (∃ t, assemble [eventOn 0 (some 1), eventOn 1 none, eventOn 2 (some 0)] [] [⟨1, "Ops"⟩] {} = .ok t ∧
      t.items = [eventOn 0 (some 1), eventOn 1 (some 0), eventOn 2 (some 0)] ∧ t.options = {}) ∧
    ∃ e, assemble [eventOn 0 none, eventOn 1 (some 7), eventOn 2 (some (-1))] [] [⟨1, "Ops"⟩] {} = .error e ∧
      e.defect = .rejected "item 1 references unknown group 7" := by
  constructor
  · obtain ⟨hok, -, hparts⟩ :=
      assemble_places [eventOn 0 (some 1), eventOn 1 none, eventOn 2 (some 0)] [] [⟨1, "Ops"⟩] {} "en" none
    obtain ⟨t, ht⟩ := hok.mpr (by simp [eventOn, Item.Placeable])
    obtain ⟨-, hlanes, -, -, -, hoptions⟩ := hparts t ht
    exact ⟨t, ht, (hlanes (by decide)).2.1, hoptions⟩
  · obtain ⟨-, herror, -⟩ :=
      assemble_places [eventOn 0 none, eventOn 1 (some 7), eventOn 2 (some (-1))] [] [⟨1, "Ops"⟩] {} "en" none
    obtain ⟨before, item, after, number, -, -, -, -, e, he, hnumbers, hnamed, -⟩ :=
      herror (by simp [eventOn, Item.Placeable])
    have hfirst : assemble [eventOn 0 none, eventOn 1 (some 7), eventOn 2 (some (-1))] [] [⟨1, "Ops"⟩] {} =
        .error ⟨1, 7⟩ := rfl
    obtain rfl := Except.error.inj (he.symm.trans hfirst)
    obtain ⟨hid, hlane⟩ := UnknownLane.mk.inj hnumbers
    rw [← hid, ← hlane] at hnamed
    exact ⟨_, he, hnamed (by decide)⟩

/-- An item on a lane whose number cannot be written is reported without a name. -/
theorem assemble_places_farLane :
    ∃ e, assemble [eventOn 0 (some (10 ^ digitLimit))] [] [⟨1, "Ops"⟩] {} = .error e ∧
      e.message? = none ∧ ∀ message, e.defect ≠ .rejected message := by
  have hone : (1 : Int) ≠ 10 ^ digitLimit ∧ (10 : Int) ^ digitLimit ≠ 0 := by
    have hsmall : Writable 1 ∧ Writable 0 := by decide
    exact ⟨fun h => not_writable_pow (h ▸ hsmall.1), fun h => not_writable_pow (h.symm ▸ hsmall.2)⟩
  have hplace : ¬(eventOn 0 (some (10 ^ digitLimit))).Placeable [⟨1, "Ops"⟩] := by
    simpa [eventOn, Item.Placeable] using hone
  cases hresult : assemble [eventOn 0 (some (10 ^ digitLimit))] [] [⟨1, "Ops"⟩] {} with
  | ok t => exact absurd ((assemble_eq_ok_iff.mp hresult).1 _ (List.mem_singleton_self _)) hplace
  | error e =>
    obtain ⟨before, item, after, number, hitems, -, -, hlane, rfl⟩ := exists_first_of_assemble hresult
    have hitem : item ∈ [eventOn 0 (some (10 ^ digitLimit))] := by simp [hitems]
    rw [List.mem_singleton.mp hitem, eventOn, Option.some.injEq] at hlane
    have hnumber : showInt? number = none := showInt?_of_not_writable (hlane ▸ not_writable_pow)
    have hmessage : UnknownLane.message? ⟨item.id, number⟩ = none := by simp [UnknownLane.message?, hnumber]
    refine ⟨_, rfl, hmessage, fun message => ?_⟩
    rw [UnknownLane.defect, hmessage]
    exact Defect.noConfusion

end Chronicle.Timeline
