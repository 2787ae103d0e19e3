import Chronicle.Proofs.Script.EntityForm
import Chronicle.Proofs.Script.Labels

/-!
# Lanes as the lines declare them

A timeline has no lanes at all, or it has one for each label that the lines of its items give and the default
lane behind these.  `LanesOf` says what the lanes and the items are like in the second case.  It speaks of the
lines themselves: of their tokens, and of the first label among them that is not blank (`tokensAt`, `labelAt?`).

*Labels.*  A label is declared where it first occurs, so the order of the labels is that of their first
occurrences (`pairwise_foldl_declareLabel`).  None is repeated, and each is trimmed and without braces because
it comes from a token.

*Lanes.*  The number of a lane is the place of its label, counted from 1, so it is never that of the default
lane.  An item is on the lane of the label that its line gives, and otherwise on the default lane
(`exists_entry_of_mem_items`).

The main statement is `lanes_comesTo`.
-/

namespace Chronicle.Script

open Chronicle.Text Chronicle.Timeline

variable {d : Dialect}

/-! ## Labels in order -/

theorem foldl_declareLabel_concat (given : List String) (label : String) :
    (given ++ [label]).foldl declareLabel [] = declareLabel (given.foldl declareLabel []) label := by
  rw [List.foldl_append, List.foldl_cons, List.foldl_nil]

theorem mem_foldl_declareLabel_nil {given : List String} {label : String} :
    label ∈ given.foldl declareLabel [] ↔ label ∈ given := by
  simp [mem_foldl_declareLabel_iff]

/-- Labels are in the order in which they are first given. -/
theorem pairwise_foldl_declareLabel (given : List String) :
    (given.foldl declareLabel []).Pairwise fun a b => given.idxOf a < given.idxOf b := by
  induction given using List.reverseRecOn with
  | nil => exact .nil
  | append_singleton front label ih =>
    have hkeep : (front.foldl declareLabel []).Pairwise fun a b =>
        (front ++ [label]).idxOf a < (front ++ [label]).idxOf b := by
      refine ih.imp_of_mem fun ha hb hlt => ?_
      rw [mem_foldl_declareLabel_nil] at ha hb
      rwa [List.idxOf_append_of_mem ha, List.idxOf_append_of_mem hb]
    rw [foldl_declareLabel_concat]
    by_cases hmem : label ∈ front.foldl declareLabel []
    · rw [declareLabel_of_mem hmem]
      exact hkeep
    · rw [declareLabel_of_not_mem hmem, List.pairwise_append]
      refine ⟨hkeep, List.pairwise_singleton _ _, fun a ha b hb => ?_⟩
      obtain rfl := List.mem_singleton.mp hb
      rw [mem_foldl_declareLabel_nil] at ha hmem
      rw [List.idxOf_append_of_mem ha, List.idxOf_append_of_notMem hmem]
      exact Nat.lt_add_right _ (List.idxOf_lt_length_of_mem ha)

/-! ## Lines of items -/

/-- The tokens on a line of a source text. -/
def tokensAt (d : Dialect) (source : String) (n : Nat) : List HeadToken :=
  match (sourceLines source).find? fun line => line.number = n with
  | some line => lineTokens d line.text.toList
  | none => []

/-- The label that a line of a source text gives. -/
def labelAt? (d : Dialect) (source : String) (n : Nat) : Option String :=
  ((tokensAt d source n).findSome? HeadToken.laneLabel?).map String.ofList

theorem tokensAt_number {source : String} {line : SourceLine} (h : line ∈ sourceLines source) :
    tokensAt d source line.number = lineTokens d line.text.toList := by
  have hfind : ((sourceLines source).find? fun other => other.number = line.number) = some line := by
    cases hfind : (sourceLines source).find? fun other => other.number = line.number with
    | none => simpa using List.find?_eq_none.mp hfind line h
    | some other =>
      have hnumber : other.number = line.number := by simpa using List.find?_some hfind
      rw [eq_of_number_eq (List.mem_of_find?_eq_some hfind) h hnumber]
  rw [tokensAt, hfind]

theorem labelAt?_of_draftAt? {source : String} {line : SourceLine} {entry : Nat × Draft}
    (hline : line ∈ sourceLines source) (h : draftAt? d line = some entry) :
    labelAt? d source entry.1 = entry.2.lane := by
  rw [number_draftAt? line entry h, labelAt?, tokensAt_number hline, lane_of_draftAt? h]
  rfl

theorem isLabel_of_labelAt? {source : String} {n : Nat} {label : String}
    (h : labelAt? d source n = some label) : IsLabel label.toList := by
  obtain ⟨chars, hchars, rfl⟩ := Option.map_eq_some_iff.mp h
  rw [String.toList_ofList]
  refine isLabel_of_findSome? (fun token htoken => ?_) hchars
  rw [tokensAt] at htoken
  split at htoken
  · rw [lineTokens] at htoken
    split at htoken
    · exact formed_of_mem_headTokens htoken
    · cases htoken
  · cases htoken

theorem labelAt?_eq_none_iff {source : String} {n : Nat} :
    labelAt? d source n = none ↔ ∀ text, .lane text ∈ tokensAt d source n → trim text = [] := by
  rw [labelAt?, Option.map_eq_none_iff, findSome?_laneLabel?_eq_none_iff]

/-! ## Lanes of a timeline -/

/-- What holds between a source text and a timeline with lanes for some labels. -/
structure LanesOf (d : Dialect) (source : String) (t : Timeline) (labels : List String) : Prop where
  /-- The lanes are numbered from 1 without gaps, and then there is the default lane. -/
  lanes : t.lanes = (labels.zipIdx.map fun (label, i) => ⟨i + 1, label⟩) ++ [⟨0, " "⟩]
  label : ∀ label ∈ labels, IsLabel label.toList
  distinct : labels.Nodup
  /-- The labels are those that the lines of the items give. -/
  given : ∀ label, label ∈ labels ↔ ∃ item ∈ t.items, labelAt? d source item.sourceLine = some label
  /-- They are in the order in which they first occur. -/
  order : labels.Pairwise fun a b =>
    (t.items.filterMap fun item => labelAt? d source item.sourceLine).idxOf a <
      (t.items.filterMap fun item => labelAt? d source item.sourceLine).idxOf b
  line : ∀ item ∈ t.items, ∃ line ∈ sourceLines source, line.number = item.sourceLine
  onLane : ∀ item ∈ t.items, ∃ lane ∈ t.lanes, item.lane = some (lane.id : Int)
  /-- Two items are on the same declared lane when their lines give the same label. -/
  shared : ∀ a ∈ t.items, ∀ b ∈ t.items,
    (∃ lane ∈ t.lanes,
        lane ≠ defaultLane ∧ a.lane = some (lane.id : Int) ∧ b.lane = some (lane.id : Int)) ↔
      ∃ label, labelAt? d source a.sourceLine = some label ∧ labelAt? d source b.sourceLine = some label
  /-- Every declared lane has an item. -/
  used : ∀ lane ∈ t.lanes, lane ≠ defaultLane → ∃ item ∈ t.items, item.lane = some (lane.id : Int)
  /-- An item is on the default lane when all labels on its line are blank. -/
  default : ∀ item ∈ t.items,
    item.lane = some (defaultLane.id : Int) ↔
      ∀ text, .lane text ∈ tokensAt d source item.sourceLine → trim text = []

theorem lanes_ne_nil {p : Progress} (h : p.labels ≠ []) : p.lanes ≠ [] := by
  rw [← List.length_pos_iff_ne_nil, Progress.length_lanes, List.length_pos_iff_ne_nil]
  exact h

section
variable (d) (source locale : String) (options : Options)

/-- The labels that the lines of the items give are those that the items were declared with. -/
theorem filterMap_labelAt?_report :
    (((scan d source).report locale options).timeline.items.filterMap fun item =>
        labelAt? d source item.sourceLine) =
      (sourceLines source).filterMap (laneAt? d) := by
  have hlines : ((scan d source).report locale options).timeline.items.map Item.sourceLine =
      ((sourceLines source).filterMap (draftAt? d)).map Prod.fst := by
    rw [Progress.report, Progress.timeline, map_sourceLine_assembled, items_scan]
    refine List.ext_getElem? fun i => ?_
    simp [Draft.toItem, Function.comp_def]
  have hcomp : (fun item : Item => labelAt? d source item.sourceLine) =
      labelAt? d source ∘ Item.sourceLine := rfl
  rw [hcomp, ← List.filterMap_map, hlines, List.filterMap_map, List.filterMap_filterMap]
  refine List.filterMap_congr fun line hline => ?_
  rw [laneAt?]
  cases hdraft : draftAt? d line with
  | none => rfl
  | some entry => exact labelAt?_of_draftAt? hline hdraft

theorem labels_scan_eq :
    (scan d source).labels =
      (((scan d source).report locale options).timeline.items.filterMap fun item =>
        labelAt? d source item.sourceLine).foldl declareLabel [] := by
  rw [filterMap_labelAt?_report, scan, Progress.labels_run]

end

theorem exists_line_of_mem_items {source : String} {item : Item} (h : item ∈ (scan d source).items) :
    ∃ line ∈ sourceLines source, line.number = item.sourceLine ∧
      item.lane = (labelAt? d source item.sourceLine).map fun label =>
        (laneNumber (scan d source).labels label : Int) := by
  obtain ⟨line, hline, entry, i, hdraft, rfl⟩ := exists_draftAt?_of_mem_items h
  refine ⟨line, hline, (number_draftAt? line _ hdraft).symm, ?_⟩
  rw [Draft.toItem, labelAt?_of_draftAt? hline hdraft]

/-! ## Lanes of items -/

/-- The lane for a label, or for none. -/
def laneOf (labels : List String) : Option String → Int
  | none => defaultLane.id
  | some label => laneNumber labels label

theorem laneOf_eq_default_iff {labels : List String} {label : Option String} :
    laneOf labels label = defaultLane.id ↔ label = none := by
  cases label with
  | none => simp [laneOf]
  | some label =>
    simp only [laneOf, laneNumber, defaultLane, reduceCtorEq, iff_false]
    omega

/-- The lanes behind the default one are numbered by the places of the labels. -/
theorem laneOf_eq_succ_iff {labels : List String} {label : Option String}
    (hmem : ∀ l ∈ label, l ∈ labels) (hdistinct : labels.Nodup) {k : Nat} (hk : k < labels.length) :
    laneOf labels label = (k + 1 : Nat) ↔ label = some labels[k] := by
  cases label with
  | none =>
    simp only [laneOf, defaultLane, reduceCtorEq, iff_false]
    omega
  | some label =>
    rw [laneOf, laneNumber, Int.ofNat_inj, Nat.add_right_cancel_iff, Option.some.injEq]
    constructor
    · rintro rfl
      rw [List.getElem_idxOf]
    · rintro rfl
      exact hdistinct.idxOf_getElem k hk

section
variable {source : String} (locale : String) (options : Options)

theorem exists_line_of_mem_items_report (h : (scan d source).labels ≠ []) {item : Item}
    (hitem : item ∈ ((scan d source).report locale options).timeline.items) :
    ∃ line ∈ sourceLines source, line.number = item.sourceLine ∧
      item.lane = some (laneOf (scan d source).labels (labelAt? d source item.sourceLine)) := by
  rw [Progress.report, Progress.timeline, items_assembled _ _ _ _ _ (lanes_ne_nil h)] at hitem
  obtain ⟨old, hold, rfl⟩ := List.mem_map.mp hitem
  obtain ⟨line, hline, hnumber, hlane⟩ := exists_line_of_mem_items hold
  refine ⟨line, hline, by rw [hnumber, Item.sourceLine_onSomeLane], ?_⟩
  rw [Item.lane_onSomeLane, hlane, Item.sourceLine_onSomeLane]
  cases labelAt? d source old.sourceLine <;> rfl

theorem mem_labels_scan_iff {label : String} :
    label ∈ (scan d source).labels ↔
      ∃ item ∈ ((scan d source).report locale options).timeline.items,
        labelAt? d source item.sourceLine = some label := by
  rw [labels_scan_eq d source locale options, mem_foldl_declareLabel_nil, List.mem_filterMap]

theorem pairwise_labels_scan :
    (scan d source).labels.Pairwise fun a b =>
      (((scan d source).report locale options).timeline.items.filterMap fun item =>
        labelAt? d source item.sourceLine).idxOf a <
      (((scan d source).report locale options).timeline.items.filterMap fun item =>
        labelAt? d source item.sourceLine).idxOf b := by
  have horder := pairwise_foldl_declareLabel
    (((scan d source).report locale options).timeline.items.filterMap fun item =>
      labelAt? d source item.sourceLine)
  rwa [← labels_scan_eq] at horder

theorem nodup_labels_scan : (scan d source).labels.Nodup := by
  have hlabels : (scan d source).labels = ((sourceLines source).filterMap (laneAt? d)).foldl declareLabel [] :=
    Progress.labels_run d {} (sourceLines source)
  rw [hlabels]
  refine (pairwise_foldl_declareLabel _).imp fun hlt heq => ?_
  rw [heq] at hlt
  exact Nat.lt_irrefl _ hlt

variable (h : (scan d source).labels ≠ [])
include h

theorem lanes_report :
    ((scan d source).report locale options).timeline.lanes = (scan d source).lanes ++ [defaultLane] :=
  lanes_assembled _ _ _ _ _ (lanes_ne_nil h)

/-- The lanes other than the default one are those of the labels. -/
theorem mem_lanes_report_iff {lane : Lane} :
    lane ∈ ((scan d source).report locale options).timeline.lanes ↔
      lane = defaultLane ∨
        ∃ k, ∃ hk : k < (scan d source).labels.length, lane = ⟨k + 1, (scan d source).labels[k]⟩ := by
  rw [lanes_report locale options h, List.mem_append, List.mem_singleton, or_comm, List.mem_iff_getElem]
  refine or_congr_right ⟨?_, ?_⟩
  · rintro ⟨k, hk, rfl⟩
    have hk' : k < (scan d source).labels.length := by rwa [← Progress.length_lanes]
    exact ⟨k, hk', Progress.getElem_lanes _ hk hk'⟩
  · rintro ⟨k, hk, rfl⟩
    have hk' : k < (scan d source).lanes.length := by rwa [Progress.length_lanes]
    exact ⟨k, hk', Progress.getElem_lanes _ hk' hk⟩

/-- An item is on the lane of the label that its line gives. -/
theorem lane_eq_succ_iff {item : Item}
    (hitem : item ∈ ((scan d source).report locale options).timeline.items) {k : Nat}
    (hk : k < (scan d source).labels.length) :
    item.lane = some ((k + 1 : Nat) : Int) ↔
      labelAt? d source item.sourceLine = some (scan d source).labels[k] := by
  obtain ⟨-, -, -, heq⟩ := exists_line_of_mem_items_report locale options h hitem
  have hmem : ∀ label ∈ labelAt? d source item.sourceLine, label ∈ (scan d source).labels := fun label hlabel =>
    (mem_labels_scan_iff locale options).mpr ⟨item, hitem, hlabel⟩
  rw [heq, Option.some.injEq]
  exact laneOf_eq_succ_iff hmem nodup_labels_scan hk

theorem lanesOf_report :
    LanesOf d source ((scan d source).report locale options).timeline (scan d source).labels := by
  have hgiven {label : String} := @mem_labels_scan_iff d source locale options label
  have hmem {lane : Lane} := @mem_lanes_report_iff d source locale options h lane
  have hitem {item : Item} := @exists_line_of_mem_items_report d source locale options h item
  have hlane {item : Item} := @lane_eq_succ_iff d source locale options h item
  constructor
  case lanes => exact lanes_report locale options h
  case label =>
    intro label hlabel
    obtain ⟨item, -, hat⟩ := hgiven.mp hlabel
    exact isLabel_of_labelAt? hat
  case distinct => exact nodup_labels_scan
  case given => exact fun _ => hgiven
  case order => exact pairwise_labels_scan locale options
  case line =>
    intro item hmemItem
    obtain ⟨line, hline, hnumber, -⟩ := hitem hmemItem
    exact ⟨line, hline, hnumber⟩
  case onLane =>
    intro item hmemItem
    cases hat : labelAt? d source item.sourceLine with
    | none =>
      obtain ⟨-, -, -, heq⟩ := hitem hmemItem
      rw [hat] at heq
      exact ⟨defaultLane, hmem.mpr (.inl rfl), heq⟩
    | some label =>
      obtain ⟨k, hk, rfl⟩ := List.mem_iff_getElem.mp (hgiven.mpr ⟨item, hmemItem, hat⟩)
      exact ⟨_, hmem.mpr (.inr ⟨k, hk, rfl⟩), (hlane hmemItem hk).mpr hat⟩
  case shared =>
    intro a ha b hb
    constructor
    · rintro ⟨lane, hmemLane, hother, hlaneA, hlaneB⟩
      obtain ⟨k, hk, rfl⟩ := (hmem.mp hmemLane).resolve_left hother
      exact ⟨_, (hlane ha hk).mp hlaneA, (hlane hb hk).mp hlaneB⟩
    · rintro ⟨label, hatA, hatB⟩
      obtain ⟨k, hk, rfl⟩ := List.mem_iff_getElem.mp (hgiven.mpr ⟨a, ha, hatA⟩)
      refine ⟨_, hmem.mpr (.inr ⟨k, hk, rfl⟩), ?_, (hlane ha hk).mpr hatA, (hlane hb hk).mpr hatB⟩
      simp [defaultLane]
  case used =>
    intro lane hmemLane hother
    obtain ⟨k, hk, rfl⟩ := (hmem.mp hmemLane).resolve_left hother
    obtain ⟨item, hmemItem, hat⟩ := hgiven.mp (List.getElem_mem hk)
    exact ⟨item, hmemItem, (hlane hmemItem hk).mpr hat⟩
  case default =>
    intro item hmemItem
    obtain ⟨-, -, -, heq⟩ := hitem hmemItem
    rw [heq, Option.some.injEq, laneOf_eq_default_iff, labelAt?_eq_none_iff]

end

/-! ## Lanes of a report -/

theorem lane_eq_none_of_labels_eq_nil {source : String} (locale : String) (options : Options)
    (h : (scan d source).labels = []) :
    ((scan d source).report locale options).timeline.lanes = [] ∧
      ∀ item ∈ ((scan d source).report locale options).timeline.items, item.lane = none := by
  have hlanes : (scan d source).lanes = [] := by rw [Progress.lanes, h]; rfl
  rw [Progress.report, Progress.timeline, hlanes]
  refine ⟨rfl, fun item hitem => ?_⟩
  rw [Option.eq_none_iff_forall_ne_some]
  intro lane hlane
  obtain ⟨k, hk, -⟩ := lanesDeclared_scan d source item hitem lane hlane
  rw [h] at hk
  exact absurd hk (Nat.not_lt_zero k)

/-- The timeline of a report has no lanes, and then no item is on one, or it has those of some labels. -/
theorem lanes_comesTo {source locale : String} {options : Options} {r : Report}
    (h : ComesTo d source locale options r) :
    (r.timeline.lanes = [] ∧ ∀ item ∈ r.timeline.items, item.lane = none) ∨
      ∃ labels, labels ≠ [] ∧ LanesOf d source r.timeline labels := by
  obtain ⟨-, rfl⟩ := comesTo_iff_scan.mp h
  by_cases hlabels : (scan d source).labels = []
  · exact .inl (lane_eq_none_of_labels_eq_nil locale options hlabels)
  · exact .inr ⟨_, hlabels, lanesOf_report locale options hlabels⟩

/-- A lane that is used again, an item whose only label is blank, a marker, and a line that is wrong. -/
theorem lanes_comesTo_interleaved :
    ∃ r labels,
      ComesTo .standard
        "- [1] \x7by\x7d\n- [2] \x7b \x7d\n= [3] \x7bv\x7d\n- \x7bw\x7d\n- [4] \x7bx\x7d\n- [5] \x7b y\x7d"
        "en" {} r ∧
      labels ≠ [] ∧
      LanesOf .standard
        "- [1] \x7by\x7d\n- [2] \x7b \x7d\n= [3] \x7bv\x7d\n- \x7bw\x7d\n- [4] \x7bx\x7d\n- [5] \x7b y\x7d"
        r.timeline labels ∧
      r.timeline.lanes = [⟨1, "y"⟩, ⟨2, "x"⟩, ⟨0, " "⟩] ∧
      r.timeline.items.map Item.lane = [some 1, some 0, some 2, some 1] := by
  have hscript : ComesTo .standard
      "- [1] \x7by\x7d\n- [2] \x7b \x7d\n= [3] \x7bv\x7d\n- \x7bw\x7d\n- [4] \x7bx\x7d\n- [5] \x7b y\x7d"
      "en" {}
      { timeline :=
          { items :=
              [{ id := 0, content := "", start := { year := 1, month := 1, day := 1 },
                 lane := some 1, sourceLine := 1, extent := .event none },
               { id := 1, content := "", start := { year := 2, month := 1, day := 1 },
                 lane := some 0, sourceLine := 2, extent := .event none },
               { id := 2, content := "", start := { year := 4, month := 1, day := 1 },
                 lane := some 2, sourceLine := 5, extent := .event none },
               { id := 3, content := "", start := { year := 5, month := 1, day := 1 },
                 lane := some 1, sourceLine := 6, extent := .event none }]
            markers := [⟨{ year := 3, month := 1, day := 1 }, "\x7bv\x7d", 3⟩]
            lanes := [⟨1, "y"⟩, ⟨2, "x"⟩, ⟨0, " "⟩] }
        issues := [⟨4, .noDates "[DATE] or [DATE~DATE]" (.item .event) "- \x7bw\x7d"⟩] } :=
    .inr ⟨by decide, by decide +kernel⟩
  rcases lanes_comesTo hscript with ⟨hnone, -⟩ | ⟨labels, hlabels, hlanes⟩
  · cases hnone
  · exact ⟨_, labels, hscript, hlabels, hlanes, rfl, rfl⟩

end Chronicle.Script
