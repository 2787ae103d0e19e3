import Chronicle.Proofs.Script.Labels

/-!
# One script after the other

A script that is made of two others, with a line feed between them, is read as the one and then the other.
`Joined` says what this means for the three reports.

What a line comes to depends on its text alone, and a line further down comes to the same thing with a
greater number (`filterMap_sourceLines_append`).  So every part of the whole is put together from what the
lines of the two scripts come to.

Flags and labels pass from the first script into the second.  In both cases the effect of the second script
is the same as from an empty start, and is then laid over the first (`apply_updatedBy`,
`declareLabel_addLabels`).
-/

namespace Chronicle

open Chronicle.Text

/-! ## Further down -/

namespace Timeline

/-- The marker, a number of lines further down. -/
def Marker.shift (lines : Nat) (marker : Marker) : Marker :=
  { marker with sourceLine := marker.sourceLine + lines }

/-- The item, behind a number of other items and a number of lines further down. -/
def Item.shift (items lines : Nat) (item : Item) : Item :=
  { item with id := item.id + items, sourceLine := item.sourceLine + lines }

/-- Flags, with those that are set later in place of those that are set before. -/
def Flags.updatedBy (flags later : Flags) : Flags where
  orderBy := later.orderBy.or flags.orderBy
  defaultView := later.defaultView.or flags.defaultView
  hideCurrentTime := later.hideCurrentTime || flags.hideCurrentTime
  height := later.height.or flags.height

end Timeline

namespace Script

open Chronicle.Timeline

/-- The issue, a number of lines further down. -/
def Issue.shift (lines : Nat) (issue : Issue) : Issue := { issue with line := issue.line + lines }

/-- Some labels and then those of others that are not among them. -/
def addLabels (labels more : List String) : List String :=
  labels ++ more.filter fun label => label ∉ labels

/-- What holds between the reports of two scripts and the report of the two as one script, when the first
has a number of lines. -/
structure Joined (lines : Nat) (first second whole : Report) : Prop where
  issues : whole.issues = first.issues ++ second.issues.map (Issue.shift lines)
  markers : whole.timeline.markers =
    first.timeline.markers ++ second.timeline.markers.map (Marker.shift lines)
  /-- Items change in nothing but their numbers, their places in the source, and their lanes. -/
  items : whole.timeline.items.map Item.offLane =
    (first.timeline.items ++
      second.timeline.items.map (Item.shift first.timeline.items.length lines)).map Item.offLane
  labels : whole.timeline.declaredLabels =
    addLabels first.timeline.declaredLabels second.timeline.declaredLabels
  /-- Every item is on the lane with the same label as before, or still on none that was declared. -/
  itemLabels : whole.timeline.items.map whole.timeline.laneLabel? =
    first.timeline.items.map first.timeline.laneLabel? ++
      second.timeline.items.map second.timeline.laneLabel?
  flags : whole.timeline.flags = first.timeline.flags.updatedBy second.timeline.flags

variable {d : Dialect}

/-! ## Lines further down -/

section
variable (d) (n : Nat) (line : SourceLine)

theorem text_shift : (line.shift n).text = line.text := rfl

theorem faultAt?_shift : faultAt? d (line.shift n) = faultAt? d line := by
  rw [faultAt?, faultAt?, text_shift]

theorem settingAt?_shift : settingAt? d (line.shift n) = settingAt? d line := by
  rw [settingAt?, settingAt?, text_shift]

theorem issueAt?_shift : issueAt? d (line.shift n) = (issueAt? d line).map (Issue.shift n) := by
  rw [issueAt?, issueAt?, text_shift]
  cases readLine d line.text.toList with
  | ok effect => rfl
  | error trouble => cases trouble <;> rfl

theorem markerAt?_shift : markerAt? d (line.shift n) = (markerAt? d line).map (Marker.shift n) := by
  rw [markerAt?, markerAt?, text_shift]
  cases readLine d line.text.toList with
  | error trouble => rfl
  | ok effect =>
    cases effect with
    | none => rfl
    | flag setting => rfl
    | entity entity => cases entity <;> rfl

theorem draftAt?_shift : draftAt? d (line.shift n) = (draftAt? d line).map (Prod.map (· + n) id) := by
  rw [draftAt?, draftAt?, text_shift]
  cases readLine d line.text.toList with
  | error trouble => rfl
  | ok effect =>
    cases effect with
    | none => rfl
    | flag setting => rfl
    | entity entity => cases entity <;> rfl

theorem laneAt?_shift : laneAt? d (line.shift n) = laneAt? d line := by
  rw [laneAt?, laneAt?, draftAt?_shift]
  cases draftAt? d line <;> rfl

end

/-- What the lines of the whole come to is what the lines of the first script come to, and then what those
of the second come to, moved down. -/
theorem filterMap_sourceLines_append {α : Type} {f : SourceLine → Option α} {g : Nat → α → α}
    (hf : ∀ n line, f (line.shift n) = (f line).map (g n)) {s₁ : String}
    (h : s₁.toList.getLast? ≠ some '\r') (s₂ : String) :
    (sourceLines (s₁ ++ "\n" ++ s₂)).filterMap f =
      (sourceLines s₁).filterMap f ++
        ((sourceLines s₂).filterMap f).map (g (sourceLines s₁).length) := by
  rw [sourceLines_append h, List.filterMap_append, List.filterMap_map, List.map_filterMap]
  congr 1
  exact List.filterMap_congr fun line _ => hf (sourceLines s₁).length line

/-- The same for what does not depend on the numbers of the lines. -/
theorem filterMap_sourceLines_append_same {α : Type} {f : SourceLine → Option α}
    (hf : ∀ n line, f (line.shift n) = f line) {s₁ : String}
    (h : s₁.toList.getLast? ≠ some '\r') (s₂ : String) :
    (sourceLines (s₁ ++ "\n" ++ s₂)).filterMap f =
      (sourceLines s₁).filterMap f ++ (sourceLines s₂).filterMap f := by
  have hid := filterMap_sourceLines_append (g := fun _ a => a)
    (fun n line => (hf n line).trans Option.map_id'.symm) h s₂
  rwa [List.map_id'] at hid

/-! ## Flags and labels from one script into the other -/

theorem apply_updatedBy (flags later : Flags) (setting : FlagSetting) :
    setting.apply (flags.updatedBy later) = flags.updatedBy (setting.apply later) := by
  cases setting <;> rfl

theorem updatedBy_empty (flags : Flags) : flags.updatedBy {} = flags := rfl

theorem mem_addLabels {labels more : List String} {label : String} :
    label ∈ addLabels labels more ↔ label ∈ labels ∨ label ∈ more := by
  by_cases hold : label ∈ labels
  · simp [addLabels, hold]
  · simp [addLabels, hold]

/-- A label is new to both lists together when it is new to either of them. -/
theorem declareLabel_addLabels (labels more : List String) (label : String) :
    declareLabel (addLabels labels more) label = addLabels labels (declareLabel more label) := by
  by_cases hmore : label ∈ more
  · rw [declareLabel_of_mem hmore, declareLabel_of_mem (mem_addLabels.mpr (.inr hmore))]
  · rw [declareLabel_of_not_mem hmore]
    by_cases hold : label ∈ labels
    · rw [declareLabel_of_mem (mem_addLabels.mpr (.inl hold))]
      simp [addLabels, hold]
    · have hnew : label ∉ addLabels labels more := fun hmem =>
        (mem_addLabels.mp hmem).elim hold hmore
      rw [declareLabel_of_not_mem hnew]
      simp [addLabels, hold]

theorem addLabels_nil (labels : List String) : addLabels labels [] = labels := List.append_nil labels

/-- Settings that come after others are laid over them. -/
theorem foldl_apply_eq (settings : List FlagSetting) (flags : Flags) :
    settings.foldl FlagSetting.apply flags =
      flags.updatedBy (settings.foldl FlagSetting.apply {}) := by
  have hhom : settings.foldl FlagSetting.apply (flags.updatedBy {}) =
      flags.updatedBy (settings.foldl FlagSetting.apply {}) :=
    List.foldl_hom flags.updatedBy (apply_updatedBy flags)
  rwa [updatedBy_empty] at hhom

/-- Labels that come after others are added to them. -/
theorem foldl_declareLabel_eq (more labels : List String) :
    more.foldl declareLabel labels = addLabels labels (more.foldl declareLabel []) := by
  have hhom : more.foldl declareLabel (addLabels labels []) =
      addLabels labels (more.foldl declareLabel []) :=
    List.foldl_hom (addLabels labels) (declareLabel_addLabels labels)
  rwa [addLabels_nil] at hhom

/-! ## The parts of a run -/

section
variable (d) {s₁ : String} (h : s₁.toList.getLast? ≠ some '\r') (s₂ : String)
include h

theorem issues_scan_append :
    (scan d (s₁ ++ "\n" ++ s₂)).issues =
      (scan d s₁).issues ++ (scan d s₂).issues.map (Issue.shift (sourceLines s₁).length) := by
  simp only [scan, Progress.issues_run, List.nil_append]
  exact filterMap_sourceLines_append (issueAt?_shift d) h s₂

theorem markers_scan_append :
    (scan d (s₁ ++ "\n" ++ s₂)).markers =
      (scan d s₁).markers ++ (scan d s₂).markers.map (Marker.shift (sourceLines s₁).length) := by
  simp only [scan, Progress.markers_run, List.nil_append]
  exact filterMap_sourceLines_append (markerAt?_shift d) h s₂

theorem flags_scan_append :
    (scan d (s₁ ++ "\n" ++ s₂)).flags = (scan d s₁).flags.updatedBy (scan d s₂).flags := by
  simp only [scan, Progress.flags_run]
  rw [filterMap_sourceLines_append_same (settingAt?_shift d) h s₂, List.foldl_append]
  exact foldl_apply_eq _ _

theorem labels_scan_append :
    (scan d (s₁ ++ "\n" ++ s₂)).labels = addLabels (scan d s₁).labels (scan d s₂).labels := by
  simp only [scan, Progress.labels_run]
  rw [filterMap_sourceLines_append_same (laneAt?_shift d) h s₂, List.foldl_append]
  exact foldl_declareLabel_eq _ _

end

/-! ## The items of a report -/

section
variable (d) (source locale : String) (options : Options)

/-- Without its lane, an item is known from its draft, its number and its line. -/
theorem offLane_toItem (draft : Draft) (labels : List String) (id line : Nat) :
    (draft.toItem labels id line).offLane = (draft.toItem [] id line).offLane :=
  rfl

theorem map_offLane_report :
    ((scan d source).report locale options).timeline.items.map Item.offLane =
      ((sourceLines source).filterMap (draftAt? d)).mapIdx fun i entry =>
        (entry.2.toItem [] i entry.1).offLane := by
  rw [Progress.report, Progress.timeline, map_assembled _ _ _ _ _ _ Item.offLane_onSomeLane,
    items_scan]
  refine List.ext_getElem? fun i => ?_
  simp only [List.getElem?_map, List.getElem?_mapIdx, Option.map_map]
  exact Option.map_congr fun entry _ => offLane_toItem entry.2 _ i entry.1

theorem length_items_report :
    ((scan d source).report locale options).timeline.items.length =
      ((sourceLines source).filterMap (draftAt? d)).length := by
  have hlength := congrArg List.length (map_offLane_report d source locale options)
  rwa [List.length_map, List.length_mapIdx] at hlength

theorem map_offLane_report_append {s₁ : String} (h : s₁.toList.getLast? ≠ some '\r') (s₂ : String) :
    ((scan d (s₁ ++ "\n" ++ s₂)).report locale options).timeline.items.map Item.offLane =
      (((scan d s₁).report locale options).timeline.items ++
        ((scan d s₂).report locale options).timeline.items.map
          (Item.shift ((scan d s₁).report locale options).timeline.items.length
            (sourceLines s₁).length)).map Item.offLane := by
  have hshift (items lines : Nat) :
      Item.offLane ∘ Item.shift items lines = Item.shift items lines ∘ Item.offLane := rfl
  rw [map_offLane_report, filterMap_sourceLines_append (g := fun n => Prod.map (· + n) id)
      (draftAt?_shift d) h, List.mapIdx_append, List.map_append, map_offLane_report, List.map_map, hshift,
    ← List.map_map, map_offLane_report, length_items_report]
  refine congrArg (_ ++ ·) ?_
  refine List.ext_getElem? fun i => ?_
  simp only [List.getElem?_mapIdx, List.getElem?_map, Option.map_map]
  rfl

theorem map_laneLabel?_report_append {s₁ : String} (h : s₁.toList.getLast? ≠ some '\r')
    (s₂ : String) :
    ((scan d (s₁ ++ "\n" ++ s₂)).report locale options).timeline.items.map
        ((scan d (s₁ ++ "\n" ++ s₂)).report locale options).timeline.laneLabel? =
      ((scan d s₁).report locale options).timeline.items.map
          ((scan d s₁).report locale options).timeline.laneLabel? ++
        ((scan d s₂).report locale options).timeline.items.map
          ((scan d s₂).report locale options).timeline.laneLabel? := by
  rw [map_laneLabel?_report, map_laneLabel?_report, map_laneLabel?_report,
    filterMap_sourceLines_append (g := fun n => Prod.map (· + n) id) (draftAt?_shift d) h,
    List.map_append, List.map_map]
  rfl

end

/-! ## The whole -/

/-- Two scripts that come to reports also come to one when they are put one after the other, and the three
belong together.  The first may not end in a carriage return, which would make one line end with the line
feed behind it. -/
theorem comesTo_append {s₁ s₂ locale : String} {options : Options} {r₁ r₂ : Report}
    (h : s₁.toList.getLast? ≠ some '\r') (h₁ : ComesTo d s₁ locale options r₁)
    (h₂ : ComesTo d s₂ locale options r₂) :
    ∃ r, ComesTo d (s₁ ++ "\n" ++ s₂) locale options r ∧
      Joined (sourceLines s₁).length r₁ r₂ r := by
  obtain ⟨hfault₁, rfl⟩ := comesTo_iff_scan.mp h₁
  obtain ⟨hfault₂, rfl⟩ := comesTo_iff_scan.mp h₂
  refine ⟨_, comesTo_iff_scan.mpr ⟨?_, rfl⟩, ?_⟩
  · intro line hline
    rw [sourceLines_append h] at hline
    rcases List.mem_append.mp hline with hline | hline
    · exact hfault₁ line hline
    · obtain ⟨old, hold, rfl⟩ := List.mem_map.mp hline
      rw [faultAt?_shift]
      exact hfault₂ old hold
  · constructor
    case issues =>
      simp only [Progress.report]
      exact issues_scan_append d h s₂
    case markers =>
      simp only [Progress.report, Progress.timeline, markers_assembled]
      exact markers_scan_append d h s₂
    case items => exact map_offLane_report_append d locale options h s₂
    case labels =>
      simp only [declaredLabels_report]
      exact labels_scan_append d h s₂
    case itemLabels => exact map_laneLabel?_report_append d locale options h s₂
    case flags =>
      simp only [Progress.report, Progress.timeline, flags_assembled]
      exact flags_scan_append d h s₂

/-- The second script uses the lane of the first again, after one of its own, so that the two change places,
and the line that is wrong in it is further down in the whole. -/
theorem comesTo_append_sharedLane :
    ∃ r₁ r₂ r : Report,
      "- [2020] a {x}\n- [2020-13] b".toList.getLast? ≠ some '\r' ∧
      ComesTo .standard "- [2020] a {x}\n- [2020-13] b" "en" {} r₁ ∧
      ComesTo .standard "- [2021] c {y}\n- [2023] e {x}\n- f" "en" {} r₂ ∧
      ComesTo .standard
        ("- [2020] a {x}\n- [2020-13] b" ++ "\n" ++ "- [2021] c {y}\n- [2023] e {x}\n- f") "en" {} r ∧
      r.issues.map Issue.line = [2, 5] ∧
      r₂.timeline.declaredLabels = ["y", "x"] ∧ r.timeline.declaredLabels = ["x", "y"] ∧
      r.timeline.items.map r.timeline.laneLabel? = [some "x", some "y", some "x"] := by
  have hend : "- [2020] a {x}\n- [2020-13] b".toList.getLast? ≠ some '\r' := by simp
  have hlines : (sourceLines "- [2020] a {x}\n- [2020-13] b").length = 2 := by decide +kernel
  have hfirst : ComesTo .standard "- [2020] a {x}\n- [2020-13] b" "en" {}
      { timeline :=
          { items :=
              [{ id := 0, content := "a", start := { year := 2020, month := 1, day := 1 },
                 lane := some 1, sourceLine := 1, extent := .event none }]
            lanes := [⟨1, "x"⟩, ⟨0, " "⟩] }
        issues := [⟨2, .date (.month 13)⟩] } :=
    .inr ⟨by decide, by decide +kernel⟩
  have hsecond : ComesTo .standard "- [2021] c {y}\n- [2023] e {x}\n- f" "en" {}
      { timeline :=
          { items :=
              [{ id := 0, content := "c", start := { year := 2021, month := 1, day := 1 },
                 lane := some 1, sourceLine := 1, extent := .event none },
               { id := 1, content := "e", start := { year := 2023, month := 1, day := 1 },
                 lane := some 2, sourceLine := 2, extent := .event none }]
            lanes := [⟨1, "y"⟩, ⟨2, "x"⟩, ⟨0, " "⟩] }
        issues := [⟨3, .noDates "[DATE] or [DATE~DATE]" (.item .event) "- f"⟩] } :=
    .inr ⟨by decide, by decide +kernel⟩
  obtain ⟨r, hwhole, hjoined⟩ := comesTo_append hend hfirst hsecond
  rw [hlines] at hjoined
  refine ⟨_, _, r, hend, hfirst, hsecond, hwhole, ?_, by decide, ?_, ?_⟩
  · rw [hjoined.issues]
    decide
  · rw [hjoined.labels]
    decide
  · rw [hjoined.itemLabels]
    decide

end Script

end Chronicle
