import Chronicle.Proofs.Script.LineNumbers

/-!
# Failed lines leave no trace

A line with an issue adds the issue to the progress and nothing else.  An empty line adds nothing at all.
So when every line with an issue is emptied, a run goes through the same progress as before, only without
the issues (`run_emptied`).  Labels, numbers of items and flags are all part of the progress, and none of
them is affected.

The issues of a report name exactly the lines that had one, because no two lines have the same number.
With this the run over emptied lines becomes a statement about the source text: `parse_emptyLines`.
-/

namespace Chronicle.Script

open Chronicle.Text Chronicle.Timeline

variable {d : Dialect}

/-! ## Emptied lines -/

/-- The line, without its text if there is an issue with it. -/
def emptied (d : Dialect) (line : SourceLine) : SourceLine :=
  if (issueAt? d line).isSome then ⟨line.number, ""⟩ else line

theorem readLine_nil (d : Dialect) : readLine d [] = .ok .none := by
  simp [readLine, trim, trimStart, trimEnd, Dialect.classify]

theorem faultAt?_emptied {line : SourceLine} (h : faultAt? d line = none) :
    faultAt? d (emptied d line) = none := by
  rw [emptied]
  split
  · simp [faultAt?, readLine_nil]
  · exact h

namespace Progress

/-- The progress, with the issues left out. -/
def forget (p : Progress) : Progress := { p with issues := [] }

theorem report_forget (p : Progress) (locale : String) (options : Options) :
    p.forget.report locale options = ⟨p.timeline locale options, []⟩ := rfl

theorem forget_addItem (p : Progress) (n : Nat) (draft : Draft) :
    (p.addItem n draft).forget = p.forget.addItem n draft := by
  rw [addItem, addItem]
  cases draft.lane <;> rfl

theorem forget_apply (p : Progress) (n : Nat) (effect : Effect) :
    (p.apply n effect).forget = p.forget.apply n effect := by
  cases effect with
  | none => rfl
  | flag setting => rfl
  | entity entity =>
    cases entity with
    | marker start label => rfl
    | item draft => exact forget_addItem p n draft

/-- A line with an issue is as good as an empty one, up to the issue. -/
theorem after_emptied (p : Progress) (line : SourceLine) :
    p.forget.after d (emptied d line) = (p.after d line).forget := by
  rw [emptied, issueAt?, after, after]
  cases hread : readLine d line.text.toList with
  | ok effect => simp [hread, forget_apply]
  | error trouble =>
    cases trouble with
    | line error => simp [readLine_nil, apply, note, forget]
    | fault fault => simp [hread]

theorem run_emptied (p : Progress) (ls : List SourceLine) :
    p.forget.run d (ls.map (emptied d)) = (p.run d ls).forget := by
  induction ls generalizing p with
  | nil => rfl
  | cons line rest ih =>
    rw [List.map_cons, run_cons, run_cons, after_emptied]
    exact ih (p.after d line)

end Progress

/-! ## Emptied lines of a source text -/

/-- A source text with the lines of these numbers emptied, and with line feeds for its line ends. -/
def emptyLines (numbers : List Nat) (source : String) : String :=
  rewriteLines (fun line => if line.number ∈ numbers then [] else line.text.toList) source

theorem sourceLines_emptyLines (d : Dialect) (source : String) :
    sourceLines (emptyLines ((scan d source).issues.map Issue.line) source) =
      (sourceLines source).map (emptied d) := by
  rw [emptyLines, sourceLines_rewriteLines]
  · apply List.map_congr_left
    intro line hline
    simp only [map_line_issues_scan, mem_acceptedNumbers_iff _ hline, emptied]
    split
    · rfl
    · rw [String.ofList_toList]
  · intro line hline
    split
    · exact ⟨by simp, by simp⟩
    · exact isPlainLine_of_mem_sourceLines hline

theorem scan_emptyLines (d : Dialect) (source : String) :
    scan d (emptyLines ((scan d source).issues.map Issue.line) source) =
      (scan d source).forget := by
  rw [scan, sourceLines_emptyLines]
  exact Progress.run_emptied {} (sourceLines source)

/-- A script that is refused for some of its lines is accepted once these are emptied, and then comes to
the timeline that came with the refusal. -/
theorem parse_emptyLines {source locale : String} {options : Options} {r : Report}
    (h : parse d source locale options = .error (.wrongLines r)) :
    parse d (emptyLines (r.issues.map Issue.line) source) locale options = .ok r.timeline := by
  obtain ⟨hcompile, -⟩ := parse_eq_wrongLines_iff.mp h
  obtain ⟨hfault, rfl⟩ := compile_eq_ok_iff.mp hcompile
  dsimp only [Progress.report]
  rw [parse_eq_ok_iff, compile_eq_ok_iff, sourceLines_emptyLines, scan_emptyLines,
    Progress.report_forget]
  constructor
  · intro line hline
    obtain ⟨old, hold, rfl⟩ := List.mem_map.mp hline
    exact faultAt?_emptied (hfault old hold)
  · rfl

/-- The lane of the refused line is not declared, and the item after it is numbered 1. -/
theorem parse_emptyLines_wrongMonth :
    ∃ r : Report,
      parse .standard "- [2020] a {x}\n- [2020-13] b {y}\n- [2021] c {z}" =
        .error (.wrongLines r) ∧
      r.issues = [⟨2, .date (.month 13)⟩] ∧
      parse .standard "- [2020] a {x}\n\n- [2021] c {z}" = .ok r.timeline := by
  have hparse :
      parse .standard "- [2020] a {x}\n- [2020-13] b {y}\n- [2021] c {z}" =
        .error (.wrongLines
          { timeline :=
              { items :=
                  [{ id := 0, content := "a", start := { year := 2020, month := 1, day := 1 },
                     lane := some 1, sourceLine := 1, extent := .event none },
                   { id := 1, content := "c", start := { year := 2021, month := 1, day := 1 },
                     lane := some 2, sourceLine := 3, extent := .event none }]
                lanes := [⟨1, "x"⟩, ⟨2, "z"⟩, ⟨0, " "⟩] }
            issues := [⟨2, .date (.month 13)⟩] }) := by
    decide +kernel
  have hempty :
      emptyLines [2] "- [2020] a {x}\n- [2020-13] b {y}\n- [2021] c {z}" =
        "- [2020] a {x}\n\n- [2021] c {z}" := by
    decide +kernel
  have haccept := parse_emptyLines hparse
  rw [List.map_singleton, hempty] at haccept
  exact ⟨_, hparse, rfl, haccept⟩

end Chronicle.Script
