import Chronicle.Script.Compile
import Mathlib.Data.List.Basic

/-!
# Runs over lines

Reading a line does not depend on the lines before it, so a run is determined by what each line comes to
on its own: a fault, an issue, a draft of an item, a marker, a flag, or nothing.  `Progress.after` is the
progress after one further line, with faults left aside, and `Progress.run` the progress after many.

`readLines_eq` says that reading lines is such a run, unless a line has a fault.  The other statements
give each part of the progress after a run in closed form.  Issues, markers and flags follow the lines
one by one, and labels are declared where they first occur (`labels_run`).  Items are numbered in source
order, and their lanes by the labels at the end of the run (`items_run`), since a label that is declared
never loses its place (`laneNumber_append`).
-/

namespace Chronicle.Script

open Chronicle.Text Chronicle.Timeline

/-! ## What a line comes to -/

/-- The fault of a line. -/
def faultAt? (d : Dialect) (line : SourceLine) : Option Fault :=
  match readLine d line.text.toList with
  | .error (.fault fault) => some fault
  | _ => none

/-- The issue with a line. -/
def issueAt? (d : Dialect) (line : SourceLine) : Option Issue :=
  match readLine d line.text.toList with
  | .error (.line error) => some ⟨line.number, error⟩
  | _ => none

/-- The item that a line declares, with the number of the line. -/
def draftAt? (d : Dialect) (line : SourceLine) : Option (Nat × Draft) :=
  match readLine d line.text.toList with
  | .ok (.entity (.item draft)) => some (line.number, draft)
  | _ => none

/-- The marker that a line declares. -/
def markerAt? (d : Dialect) (line : SourceLine) : Option Marker :=
  match readLine d line.text.toList with
  | .ok (.entity (.marker start label)) => some ⟨start, label, line.number⟩
  | _ => none

/-- The label of the lane that a line puts its item on. -/
def laneAt? (d : Dialect) (line : SourceLine) : Option String :=
  (draftAt? d line).bind fun entry => entry.2.lane

/-- The flag that a line sets. -/
def settingAt? (d : Dialect) (line : SourceLine) : Option FlagSetting :=
  match readLine d line.text.toList with
  | .ok (.flag setting) => some setting
  | _ => none

namespace Progress

/-- The progress after a further line, which changes nothing if it has a fault. -/
def after (d : Dialect) (p : Progress) (line : SourceLine) : Progress :=
  match readLine d line.text.toList with
  | .ok effect => p.apply line.number effect
  | .error (.line error) => p.note line.number error
  | .error (.fault _) => p

/-- The progress after further lines. -/
def run (d : Dialect) (p : Progress) (ls : List SourceLine) : Progress := ls.foldl (after d) p

theorem step_eq (d : Dialect) (p : Progress) (line : SourceLine) :
    p.step d line =
      match faultAt? d line with
      | some fault => .error fault
      | none => .ok (p.after d line) := by
  rw [step, faultAt?, after]
  cases readLine d line.text.toList with
  | ok effect => rfl
  | error trouble => cases trouble <;> rfl

end Progress

theorem readLines_eq (d : Dialect) (p : Progress) (ls : List SourceLine) :
    readLines d p ls =
      match ls.findSome? (faultAt? d) with
      | some fault => .error fault
      | none => .ok (p.run d ls) := by
  induction ls generalizing p with
  | nil => rfl
  | cons line rest ih =>
    rw [readLines, Progress.step_eq, List.findSome?_cons]
    cases faultAt? d line with
    | some fault => rfl
    | none => exact ih (p.after d line)

/-! ## Issues, markers and flags -/

namespace Progress

variable (d : Dialect) (p : Progress) (line : SourceLine) (ls : List SourceLine)

@[simp] theorem run_nil : p.run d [] = p := rfl

theorem run_cons : p.run d (line :: ls) = (p.after d line).run d ls := rfl

@[simp] theorem items_declare (label : Option String) : (p.declare label).items = p.items := by
  cases label <;> rfl

@[simp] theorem markers_declare (label : Option String) : (p.declare label).markers = p.markers := by
  cases label <;> rfl

@[simp] theorem flags_declare (label : Option String) : (p.declare label).flags = p.flags := by
  cases label <;> rfl

@[simp] theorem issues_declare (label : Option String) : (p.declare label).issues = p.issues := by
  cases label <;> rfl

/-- A line has one effect at most, so one case split serves every part of the progress. -/
theorem after_cases :
    (p.after d line).issues = p.issues ++ (issueAt? d line).toList ∧
    (p.after d line).markers = p.markers ++ (markerAt? d line).toList ∧
    (p.after d line).flags = (settingAt? d line).toList.foldl FlagSetting.apply p.flags := by
  rw [after, issueAt?, markerAt?, settingAt?]
  cases readLine d line.text.toList with
  | error trouble => cases trouble <;> simp [note]
  | ok effect =>
    cases effect with
    | none => simp [apply]
    | flag setting => simp [apply]
    | entity entity => cases entity <;> simp [apply, addItem]

theorem issues_run : (p.run d ls).issues = p.issues ++ ls.filterMap (issueAt? d) := by
  induction ls generalizing p with
  | nil => simp
  | cons line rest ih =>
    rw [run_cons, ih, (after_cases d p line).1, List.append_assoc, List.filterMap_cons]
    cases issueAt? d line <;> rfl

theorem markers_run : (p.run d ls).markers = p.markers ++ ls.filterMap (markerAt? d) := by
  induction ls generalizing p with
  | nil => simp
  | cons line rest ih =>
    rw [run_cons, ih, (after_cases d p line).2.1, List.append_assoc, List.filterMap_cons]
    cases markerAt? d line <;> rfl

theorem flags_run :
    (p.run d ls).flags = (ls.filterMap (settingAt? d)).foldl FlagSetting.apply p.flags := by
  induction ls generalizing p with
  | nil => simp
  | cons line rest ih =>
    rw [run_cons, ih, (after_cases d p line).2.2, List.filterMap_cons]
    cases settingAt? d line <;> rfl

end Progress

/-! ## Labels -/

theorem declareLabel_of_mem {labels : List String} {label : String} (h : label ∈ labels) :
    declareLabel labels label = labels := by
  rw [declareLabel, if_pos (List.contains_iff_mem.mpr h)]

theorem declareLabel_of_not_mem {labels : List String} {label : String} (h : label ∉ labels) :
    declareLabel labels label = labels ++ [label] := by
  rw [declareLabel, if_neg (mt List.contains_iff_mem.mp h)]

theorem prefix_declareLabel (labels : List String) (label : String) :
    labels <+: declareLabel labels label := by
  by_cases h : label ∈ labels
  · exact ⟨[], by rw [declareLabel_of_mem h, List.append_nil]⟩
  · exact ⟨[label], (declareLabel_of_not_mem h).symm⟩

theorem mem_declareLabel_iff {labels : List String} {label other : String} :
    other ∈ declareLabel labels label ↔ other ∈ labels ∨ other = label := by
  by_cases h : label ∈ labels
  · rw [declareLabel_of_mem h]
    refine ⟨Or.inl, Or.rec id ?_⟩
    rintro rfl
    exact h
  · simp [declareLabel_of_not_mem h]

theorem mem_foldl_declareLabel_iff {more labels : List String} {label : String} :
    label ∈ more.foldl declareLabel labels ↔ label ∈ labels ∨ label ∈ more := by
  induction more generalizing labels with
  | nil => simp
  | cons other rest ih => rw [List.foldl_cons, ih, mem_declareLabel_iff, List.mem_cons, or_assoc]

/-- A label keeps its place when further ones are declared. -/
theorem laneNumber_append {labels : List String} {label : String} (h : label ∈ labels)
    (more : List String) : laneNumber (labels ++ more) label = laneNumber labels label := by
  rw [laneNumber, laneNumber, List.idxOf_append_of_mem h]

namespace Draft

/-- The item of a draft depends on the labels only through the place of its own. -/
theorem toItem_append {draft : Draft} {labels : List String}
    (h : ∀ label ∈ draft.lane, label ∈ labels) (more : List String) (id line : Nat) :
    draft.toItem (labels ++ more) id line = draft.toItem labels id line := by
  rw [toItem, toItem]
  cases hlane : draft.lane with
  | none => rfl
  | some label => simp only [Option.map_some, laneNumber_append (h label hlane) more]

end Draft

namespace Progress

variable (d : Dialect) (p : Progress) (line : SourceLine) (ls : List SourceLine)

theorem prefix_labels_declare (label : Option String) : p.labels <+: (p.declare label).labels := by
  cases label with
  | none => exact List.prefix_rfl
  | some label => exact prefix_declareLabel p.labels label

theorem mem_labels_declare {lane : Option String} {label : String} (h : label ∈ lane) :
    label ∈ (p.declare lane).labels := by
  cases lane with
  | none => cases h
  | some other =>
    cases h
    exact mem_declareLabel_iff.mpr (.inr rfl)

theorem labels_after :
    (p.after d line).labels = (laneAt? d line).toList.foldl declareLabel p.labels := by
  rw [after, laneAt?, draftAt?]
  cases readLine d line.text.toList with
  | error trouble => cases trouble <;> rfl
  | ok effect =>
    cases effect with
    | none => rfl
    | flag setting => rfl
    | entity entity =>
      cases entity with
      | marker start label => rfl
      | item draft =>
        change (p.declare draft.lane).labels = draft.lane.toList.foldl declareLabel p.labels
        cases draft.lane <;> rfl

theorem prefix_labels_after : p.labels <+: (p.after d line).labels := by
  rw [labels_after]
  cases laneAt? d line with
  | none => exact List.prefix_rfl
  | some label => exact prefix_declareLabel p.labels label

theorem prefix_labels_run : p.labels <+: (p.run d ls).labels := by
  induction ls generalizing p with
  | nil => exact List.prefix_rfl
  | cons line rest ih => exact (prefix_labels_after d p line).trans (ih (p.after d line))

/-- The labels of a run are those before it and then every other lane of an item where it first occurs. -/
theorem labels_run :
    (p.run d ls).labels = (ls.filterMap (laneAt? d)).foldl declareLabel p.labels := by
  induction ls generalizing p with
  | nil => rfl
  | cons line rest ih =>
    rw [run_cons, ih, labels_after, List.filterMap_cons]
    cases laneAt? d line <;> rfl

/-! ## Items -/

theorem after_of_draftAt? {n : Nat} {draft : Draft} (h : draftAt? d line = some (n, draft)) :
    p.after d line = p.addItem n draft := by
  rw [draftAt?] at h
  rw [after]
  split at h
  · next heq =>
    cases h
    rw [heq]
    rfl
  · cases h

theorem items_after_of_draftAt?_eq_none (h : draftAt? d line = none) :
    (p.after d line).items = p.items := by
  rw [draftAt?] at h
  rw [after]
  cases hread : readLine d line.text.toList with
  | error trouble => cases trouble <;> rfl
  | ok effect =>
    cases effect with
    | none => rfl
    | flag setting => rfl
    | entity entity =>
      cases entity with
      | marker start label => rfl
      | item draft => simp [hread] at h

/-- The items of a run, numbered in order, on the lanes that the labels have at its end. -/
theorem items_run :
    (p.run d ls).items = p.items ++ (ls.filterMap (draftAt? d)).mapIdx fun i entry =>
      entry.2.toItem (p.run d ls).labels (p.items.length + i) entry.1 := by
  induction ls generalizing p with
  | nil => simp
  | cons line rest ih =>
    rw [run_cons, ih, List.filterMap_cons]
    cases hdraft : draftAt? d line with
    | none => simp only [items_after_of_draftAt?_eq_none d p line hdraft]
    | some entry =>
      obtain ⟨n, draft⟩ := entry
      rw [after_of_draftAt? d p line hdraft]
      obtain ⟨more, hmore⟩ := prefix_labels_run d (p.addItem n draft) rest
      have hlabels : (p.addItem n draft).labels = (p.declare draft.lane).labels := rfl
      -- The new item was numbered among the labels so far, of which there are more in the end.
      have hitems : (p.addItem n draft).items =
          p.items ++ [draft.toItem ((p.addItem n draft).run d rest).labels p.items.length n] := by
        rw [← hmore, hlabels,
          Draft.toItem_append fun label hlabel => mem_labels_declare p hlabel]
        simp [addItem]
      have hnumber (i : Nat) : (p.addItem n draft).items.length + i = p.items.length + (i + 1) := by
        rw [hitems, List.length_append, List.length_singleton]
        omega
      simp only [hnumber]
      rw [hitems, List.mapIdx_cons, List.append_assoc]
      rfl

end Progress

end Chronicle.Script
