import Chronicle.Proofs.Script.Outcome
import Chronicle.Proofs.Text.Lines

/-!
# Numbers of lines in a report

The items, the markers and the issues of a report are each made from some of the lines, in order, and
carry the numbers of these lines (`map_filterMap_number`).  So what the numbers in a report are like does
not depend on what is made from the lines, and is said once, for `acceptedNumbers`.

The numbers increase, and lie between 1 and the number of lines.  A line has its number among them just
when it is one of the accepted lines, since no other line has the same number, and then it has it there
once.
-/

namespace Chronicle.Script

open Chronicle.Text Chronicle.Timeline

variable {d : Dialect}

/-! ## Numbers of lines -/

theorem map_filterMap_number {α : Type} {f : SourceLine → Option α} {number : α → Nat}
    (h : ∀ line a, f line = some a → number a = line.number) (ls : List SourceLine) :
    (ls.filterMap f).map number =
      (ls.filter fun line => (f line).isSome).map SourceLine.number := by
  induction ls with
  | nil => rfl
  | cons line rest ih =>
    rw [List.filterMap_cons, List.filter_cons]
    cases hf : f line with
    | none => simpa using ih
    | some a => simpa [h line a hf] using ih

theorem number_draftAt? (line : SourceLine) (entry : Nat × Draft)
    (h : draftAt? d line = some entry) : entry.1 = line.number := by
  rw [draftAt?] at h
  split at h <;> cases h
  rfl

theorem number_markerAt? (line : SourceLine) (marker : Marker)
    (h : markerAt? d line = some marker) : marker.sourceLine = line.number := by
  rw [markerAt?] at h
  split at h <;> cases h
  rfl

theorem number_issueAt? (line : SourceLine) (issue : Issue) (h : issueAt? d line = some issue) :
    issue.line = line.number := by
  rw [issueAt?] at h
  split at h <;> cases h
  rfl

/-- The lines of a source text that some test accepts, by their numbers. -/
def acceptedNumbers (source : String) (accepts : SourceLine → Bool) : List Nat :=
  ((sourceLines source).filter accepts).map SourceLine.number

variable {source : String} (accepts : SourceLine → Bool)

theorem pairwise_acceptedNumbers : (acceptedNumbers source accepts).Pairwise (· < ·) :=
  List.pairwise_map.mpr ((pairwise_sourceLines source).filter accepts)

theorem mem_acceptedNumbers_iff {line : SourceLine} (h : line ∈ sourceLines source) :
    line.number ∈ acceptedNumbers source accepts ↔ accepts line := by
  rw [acceptedNumbers, List.mem_map]
  constructor
  · rintro ⟨other, hother, hnumber⟩
    obtain ⟨hmem, haccepts⟩ := List.mem_filter.mp hother
    rwa [← eq_of_number_eq hmem h hnumber]
  · intro haccepts
    exact ⟨line, List.mem_filter.mpr ⟨h, haccepts⟩, rfl⟩

theorem count_acceptedNumbers_eq_one_iff {line : SourceLine} (h : line ∈ sourceLines source) :
    (acceptedNumbers source accepts).count line.number = 1 ↔ accepts line := by
  rw [← mem_acceptedNumbers_iff accepts h]
  have hnodup : (acceptedNumbers source accepts).Nodup :=
    (pairwise_acceptedNumbers accepts).imp Nat.ne_of_lt
  rw [hnodup.count]
  split <;> simp [*]

theorem bounds_of_mem_acceptedNumbers {n : Nat} (h : n ∈ acceptedNumbers source accepts) :
    1 ≤ n ∧ n ≤ (sourceLines source).length := by
  obtain ⟨line, hline, rfl⟩ := List.mem_map.mp h
  have hnumber : line.number ∈ (sourceLines source).map SourceLine.number :=
    List.mem_map_of_mem (List.mem_of_mem_filter hline)
  rw [map_number_sourceLines, List.mem_range'_1] at hnumber
  rw [length_sourceLines]
  omega

/-! ## Numbers in a report -/

variable (d) (source) (locale : String) (options : Options)

theorem items_scan :
    (scan d source).items =
      ((sourceLines source).filterMap (draftAt? d)).mapIdx fun i entry =>
        entry.2.toItem (scan d source).labels i entry.1 := by
  rw [scan, Progress.items_run]
  simp

variable {d source} in
/-- Every item comes from a line that declares it. -/
theorem exists_draftAt?_of_mem_items {item : Item} (h : item ∈ (scan d source).items) :
    ∃ line ∈ sourceLines source, ∃ entry i, draftAt? d line = some entry ∧
      item = entry.2.toItem (scan d source).labels i entry.1 := by
  rw [items_scan] at h
  obtain ⟨i, hi, rfl⟩ := List.mem_mapIdx.mp h
  obtain ⟨line, hline, hdraft⟩ := List.mem_filterMap.mp (List.getElem_mem hi)
  exact ⟨line, hline, _, i, hdraft, rfl⟩

theorem map_sourceLine_items_report :
    ((scan d source).report locale options).timeline.items.map Item.sourceLine =
      acceptedNumbers source fun line => (draftAt? d line).isSome := by
  rw [acceptedNumbers, ← map_filterMap_number number_draftAt?, Progress.report,
    Progress.timeline, map_sourceLine_assembled, items_scan]
  refine List.ext_getElem? fun i => ?_
  simp [Draft.toItem, Function.comp_def]

theorem map_id_items_report :
    ((scan d source).report locale options).timeline.items.map Item.id =
      List.range ((scan d source).report locale options).timeline.items.length := by
  have hids : ((scan d source).report locale options).timeline.items.map Item.id =
      List.range (scan d source).items.length := by
    rw [Progress.report, Progress.timeline, map_id_assembled, items_scan]
    refine List.ext_getElem (by simp) fun i hi hrange => ?_
    simp [Draft.toItem]
  have hlength := congrArg List.length hids
  rw [List.length_map, List.length_range] at hlength
  rw [hids, hlength]

theorem map_sourceLine_markers_report :
    ((scan d source).report locale options).timeline.markers.map Marker.sourceLine =
      acceptedNumbers source fun line => (markerAt? d line).isSome := by
  rw [acceptedNumbers, ← map_filterMap_number number_markerAt?, Progress.report,
    Progress.timeline, markers_assembled, scan, Progress.markers_run]
  rfl

theorem map_line_issues_scan :
    (scan d source).issues.map Issue.line =
      acceptedNumbers source fun line => (issueAt? d line).isSome := by
  rw [acceptedNumbers, ← map_filterMap_number number_issueAt?, scan, Progress.issues_run]
  rfl

end Chronicle.Script
