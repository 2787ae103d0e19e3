import Chronicle.Proofs.Script.Run
import Chronicle.Proofs.Timeline.Placement

/-!
# What comes of a whole script

A script has a fault, or it comes to the timeline and the issues of a run over its lines.  Nothing can go
wrong when the parts are put together: a lane that an item refers to was declared on the way
(`lanesDeclared_run`), so it is in the list of lanes.

`compile_eq_ok_iff` and `compile_eq_error_iff` say this of `compile`, and three further statements say
which of the answers of `parse` belongs to which outcome.  `ComesTo` is the outcome without a fault.
-/

namespace Chronicle.Script

open Chronicle.Text Chronicle.Timeline

variable {d : Dialect} {source locale : String} {options : Options} {r : Report}

/-! ## Lanes of items -/

namespace Progress

/-- Every lane that an item refers to has been declared. -/
def LanesDeclared (p : Progress) : Prop :=
  ∀ item ∈ p.items, ∀ lane, item.lane = some lane → ∃ k < p.labels.length, lane = (k + 1 : Nat)

theorem lanesDeclared_addItem {p : Progress} (h : p.LanesDeclared) (line : Nat) (draft : Draft) :
    (p.addItem line draft).LanesDeclared := by
  intro item hitem lane hlane
  rcases List.mem_append.mp hitem with hold | hnew
  · rw [items_declare] at hold
    obtain ⟨k, hk, rfl⟩ := h item hold lane hlane
    exact ⟨k, Nat.lt_of_lt_of_le hk (prefix_labels_declare p draft.lane).length_le, rfl⟩
  · obtain rfl := List.mem_singleton.mp hnew
    obtain ⟨label, hlabel, rfl⟩ := Option.map_eq_some_iff.mp hlane
    exact ⟨_, List.idxOf_lt_length_iff.mpr (mem_labels_declare p hlabel), rfl⟩

theorem lanesDeclared_after {p : Progress} (h : p.LanesDeclared) (line : SourceLine) :
    (p.after d line).LanesDeclared := by
  rw [after]
  cases readLine d line.text.toList with
  | error trouble => cases trouble <;> exact h
  | ok effect =>
    cases effect with
    | none => exact h
    | flag setting => exact h
    | entity entity =>
      cases entity with
      | marker start label => exact h
      | item draft => exact lanesDeclared_addItem h line.number draft

theorem lanesDeclared_run {p : Progress} (h : p.LanesDeclared) (ls : List SourceLine) :
    (p.run d ls).LanesDeclared := by
  induction ls generalizing p with
  | nil => exact h
  | cons line rest ih => exact ih (lanesDeclared_after h line)

theorem exists_mem_lanes {p : Progress} {k : Nat} (h : k < p.labels.length) :
    ∃ lane ∈ p.lanes, lane.id = k + 1 := by
  refine ⟨⟨k + 1, p.labels[k]⟩, ?_, rfl⟩
  rw [lanes, List.mem_map]
  exact ⟨(p.labels[k], k), List.mk_mem_zipIdx_iff_getElem?.mpr (List.getElem?_eq_getElem h), rfl⟩

/-! ## Putting the parts together -/

/-- The timeline of what the lines have declared. -/
def timeline (p : Progress) (locale : String) (options : Options) : Timeline :=
  assembled p.items p.markers p.lanes p.flags (chosenLocale locale) options

/-- What has come of the lines. -/
def report (p : Progress) (locale : String) (options : Options) : Report :=
  ⟨p.timeline locale options, p.issues⟩

theorem unknownLane?_timeline {p : Progress} (h : p.LanesDeclared) :
    (p.timeline locale options).unknownLane? = none := by
  refine unknownLane?_assembled_eq_none_iff.mpr fun item hitem lane hlane => ?_
  obtain ⟨k, hk, rfl⟩ := h item hitem lane hlane
  obtain ⟨l, hl, hid⟩ := exists_mem_lanes hk
  exact .inl ⟨l, hl, congrArg Nat.cast hid⟩

theorem finish_eq {p : Progress} (h : p.LanesDeclared) :
    p.finish locale options = .ok (p.report locale options) := by
  have hresolve := resolve_eq_ok (@unknownLane?_timeline locale options p h)
  rw [timeline] at hresolve
  rw [finish, assemble_eq, Option.getD_some, hresolve]
  rfl

end Progress

/-! ## The answers of `compile` and `parse` -/

/-- The progress at the end of a source text. -/
def scan (d : Dialect) (source : String) : Progress := ({} : Progress).run d (sourceLines source)

theorem lanesDeclared_scan (d : Dialect) (source : String) : (scan d source).LanesDeclared :=
  Progress.lanesDeclared_run (fun _ hitem => absurd hitem List.not_mem_nil) _

theorem compile_eq :
    compile d source locale options =
      match (sourceLines source).findSome? (faultAt? d) with
      | some fault => .error fault
      | none => .ok ((scan d source).report locale options) := by
  rw [compile, readLines_eq]
  cases (sourceLines source).findSome? (faultAt? d) with
  | some fault => rfl
  | none => exact Progress.finish_eq (lanesDeclared_scan d source)

theorem compile_eq_ok_iff :
    compile d source locale options = .ok r ↔
      (∀ line ∈ sourceLines source, faultAt? d line = none) ∧
        r = (scan d source).report locale options := by
  rw [compile_eq, ← List.findSome?_eq_none_iff]
  cases (sourceLines source).findSome? (faultAt? d) with
  | some fault => simp
  | none => simp [eq_comm]

theorem compile_eq_error_iff {fault : Fault} :
    compile d source locale options = .error fault ↔
      (sourceLines source).findSome? (faultAt? d) = some fault := by
  rw [compile_eq]
  cases (sourceLines source).findSome? (faultAt? d) with
  | some other => simp
  | none => simp

theorem parse_eq_ok_iff {t : Timeline} :
    parse d source locale options = .ok t ↔ compile d source locale options = .ok ⟨t, []⟩ := by
  rw [parse]
  cases compile d source locale options with
  | error fault => simp
  | ok report =>
    obtain ⟨timeline, issues⟩ := report
    cases issues <;> simp

theorem parse_eq_wrongLines_iff :
    parse d source locale options = .error (.wrongLines r) ↔
      compile d source locale options = .ok r ∧ r.issues ≠ [] := by
  rw [parse]
  cases compile d source locale options with
  | error fault => simp
  | ok report =>
    obtain ⟨timeline, issues⟩ := report
    cases issues with
    | nil =>
      simp only [List.isEmpty_nil, if_true, reduceCtorEq, Except.ok.injEq, false_iff, not_and]
      rintro rfl
      simp
    | cons issue rest =>
      simp only [List.isEmpty_cons, Bool.false_eq_true, if_false, Except.error.injEq,
        Refusal.wrongLines.injEq, Except.ok.injEq]
      exact ⟨fun h => ⟨h, by simp [← h]⟩, And.left⟩

theorem parse_eq_fault_iff {fault : Fault} :
    parse d source locale options = .error (.fault fault) ↔
      compile d source locale options = .error fault := by
  rw [parse]
  cases compile d source locale options with
  | error other => simp
  | ok report =>
    obtain ⟨timeline, issues⟩ := report
    cases issues <;> simp

/-- A report without issues is accepted, and any other refused. -/
theorem parse_of_compile (h : compile d source locale options = .ok r) :
    r.issues = [] ∧ parse d source locale options = .ok r.timeline ∨
      r.issues ≠ [] ∧ parse d source locale options = .error (.wrongLines r) := by
  by_cases hissues : r.issues = []
  · refine .inl ⟨hissues, parse_eq_ok_iff.mpr ?_⟩
    rw [h, ← hissues]
  · exact .inr ⟨hissues, parse_eq_wrongLines_iff.mpr ⟨h, hissues⟩⟩

/-- A script comes to a report when it is accepted with its timeline and without issues, or refused with
both. -/
def ComesTo (d : Dialect) (source locale : String) (options : Options) (r : Report) : Prop :=
  r.issues = [] ∧ parse d source locale options = .ok r.timeline ∨
    r.issues ≠ [] ∧ parse d source locale options = .error (.wrongLines r)

theorem comesTo_iff_compile :
    ComesTo d source locale options r ↔ compile d source locale options = .ok r := by
  constructor
  · rintro (⟨hissues, hparse⟩ | ⟨-, hparse⟩)
    · rw [parse_eq_ok_iff, ← hissues] at hparse
      exact hparse
    · exact (parse_eq_wrongLines_iff.mp hparse).1
  · exact parse_of_compile

theorem comesTo_iff_scan :
    ComesTo d source locale options r ↔
      (∀ line ∈ sourceLines source, faultAt? d line = none) ∧
        r = (scan d source).report locale options :=
  comesTo_iff_compile.trans compile_eq_ok_iff

end Chronicle.Script
