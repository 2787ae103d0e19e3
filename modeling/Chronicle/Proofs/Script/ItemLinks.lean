import Chronicle.Proofs.Script.EntityForm
import Chronicle.Proofs.Script.FirstLink
import Chronicle.Proofs.Script.LineNumbers
import Chronicle.Proofs.Timeline.Lanes

/-!
# The links of items

An item links to what its description names first.  Both are settled when the line of the item is read
(`link_draftItem`), the description trimmed and the link found in what is left.  Afterwards the item gets its
number and its lane and may be moved to another one, which touches neither of the two.  So every item of a report
has the first link in the description that the report shows for it (`link_of_mem_items_report`).

The main statement is `link_leftmost`, which says this by places in the description, for every dialect.
-/

namespace Chronicle.Script

open Chronicle.Text Chronicle.Timeline

/-! ## Links in descriptions -/

/-- The first link in a description. -/
def linkIn? (description : String) : Option String := (firstLink? description.toList).map String.ofList

theorem linkIn?_eq_none_iff {description : String} :
    linkIn? description = none ↔ ∀ place, ¬LinkStartsAt description.toList place :=
  Option.map_eq_none_iff.trans firstLink?_eq_none_iff

theorem linkIn?_eq_some_iff {description link : String} :
    linkIn? description = some link ↔
      ∃ place, IsLeast {place | LinkStartsAt description.toList place} place ∧
        IsLinkAt description.toList place link.toList := by
  rw [linkIn?, Option.map_eq_some_iff, ← firstLink?_eq_some_iff]
  constructor
  · rintro ⟨written, hwritten, rfl⟩
    rwa [String.toList_ofList]
  · intro hfirst
    exact ⟨link.toList, hfirst, String.ofList_toList⟩

/-! ## Items -/

/-- Where the description is empty it is left out, and an empty text has no link in it. -/
theorem link_draftItem (start : Calendar.Moment) (extent : Extent) (head : List Char)
    (description : Option (List Char)) :
    (draftItem start extent head description).link =
      (draftItem start extent head description).description.bind linkIn? := by
  show (firstLink? ((description.map trim).getD [])).map String.ofList =
    (nonempty? ((description.map trim).getD [])).bind linkIn?
  cases (description.map trim).getD [] with
  | nil => rfl
  | cons c rest => simp [nonempty?, linkIn?]

variable {d : Dialect}

theorem link_of_draftAt? {line : SourceLine} {entry : Nat × Draft} (h : draftAt? d line = some entry) :
    entry.2.link = entry.2.description.bind linkIn? := by
  obtain ⟨n, draft⟩ := entry
  obtain ⟨start, stop, head, description, -, -, hbuilds⟩ := exists_builds_of_readLine (readLine_of_draftAt? h)
  cases hbuilds with
  | item extent _ => exact link_draftItem start extent head description

theorem link_of_mem_items_report {source locale : String} {options : Options} {item : Item}
    (h : item ∈ ((scan d source).report locale options).timeline.items) :
    item.link = item.description.bind linkIn? := by
  have hoff : item.offLane ∈ ((scan d source).report locale options).timeline.items.map Item.offLane :=
    List.mem_map_of_mem h
  rw [Progress.report, Progress.timeline, map_assembled _ _ _ _ _ _ Item.offLane_onSomeLane] at hoff
  obtain ⟨old, hold, heq⟩ := List.mem_map.mp hoff
  obtain ⟨line, -, entry, i, hdraft, rfl⟩ := exists_draftAt?_of_mem_items hold
  -- Its lane apart, the item has everything from its draft.
  have hlink : item.link = item.offLane.link := rfl
  have hdescription : item.description = item.offLane.description := rfl
  rw [hlink, hdescription, ← heq]
  exact link_of_draftAt? hdraft

/-- An item has a link exactly where one starts in its description, and then its link is the whole of the one that
starts furthest to the left. -/
theorem link_leftmost {source locale : String} {options : Options} {r : Report}
    (h : ComesTo d source locale options r) {item : Item} (hitem : item ∈ r.timeline.items) :
    (item.link = none ↔ ∀ description ∈ item.description, ∀ place, ¬LinkStartsAt description.toList place) ∧
      ∀ link, item.link = some link ↔
        ∃ description ∈ item.description, ∃ place,
          IsLeast {place | LinkStartsAt description.toList place} place ∧
            IsLinkAt description.toList place link.toList := by
  obtain ⟨-, rfl⟩ := comesTo_iff_scan.mp h
  rw [link_of_mem_items_report hitem]
  constructor
  · rw [Option.bind_eq_none_iff]
    exact forall₂_congr fun description _ => linkIn?_eq_none_iff
  · intro link
    rw [Option.bind_eq_some_iff]
    exact exists_congr fun description => and_congr_right fun _ => linkIn?_eq_some_iff

/-- Brackets in brackets, behind others that are left open; a web link with brackets in it, up to a wide blank; and
brackets without a name, in front of a web link without an address. -/
theorem link_leftmost_brackets :
    ∃ r : Report,
      ComesTo .standard
        "- [2020] a | [[b [[[Log]]]\n- [2021] c | https://example.com/[[d]]\u3000e\n- [2022] f | [[]] http://"
        "en" {} r ∧
      r.timeline.items.map Item.link = [some "[[Log]]", some "https://example.com/[[d]]", none] ∧
      (∃ place, IsLeast {place | LinkStartsAt "[[b [[[Log]]]".toList place} place ∧
        IsLinkAt "[[b [[[Log]]]".toList place "[[Log]]".toList) ∧
      (∃ place, IsLeast {place | LinkStartsAt "https://example.com/[[d]]\u3000e".toList place} place ∧
        IsLinkAt "https://example.com/[[d]]\u3000e".toList place "https://example.com/[[d]]".toList) ∧
      ∀ place, ¬LinkStartsAt "[[]] http://".toList place := by
  have hscript : ComesTo .standard
      "- [2020] a | [[b [[[Log]]]\n- [2021] c | https://example.com/[[d]]\u3000e\n- [2022] f | [[]] http://"
      "en" {}
      { timeline :=
          { items :=
              [{ id := 0, content := "a", start := { year := 2020, month := 1, day := 1 },
                 description := some "[[b [[[Log]]]", link := some "[[Log]]",
                 sourceLine := 1, extent := .event none },
               { id := 1, content := "c", start := { year := 2021, month := 1, day := 1 },
                 description := some "https://example.com/[[d]]\u3000e",
                 link := some "https://example.com/[[d]]", sourceLine := 2, extent := .event none },
               { id := 2, content := "f", start := { year := 2022, month := 1, day := 1 },
                 description := some "[[]] http://", sourceLine := 3, extent := .event none }] }
        issues := [] } :=
    .inl ⟨rfl, by decide +kernel⟩
  refine ⟨_, hscript, rfl, ?_, ?_, ?_⟩
  · obtain ⟨_, ⟨⟩, hfirst⟩ := ((link_leftmost hscript (.head _)).2 "[[Log]]").mp rfl
    exact hfirst
  · obtain ⟨_, ⟨⟩, hfirst⟩ := ((link_leftmost hscript (.tail _ (.head _))).2 "https://example.com/[[d]]").mp rfl
    exact hfirst
  · exact (link_leftmost hscript (.tail _ (.tail _ (.head _)))).1.mp rfl _ rfl

end Chronicle.Script
