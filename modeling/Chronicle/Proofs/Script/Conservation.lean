import Chronicle.Proofs.Script.LineForm
import Chronicle.Proofs.Script.LineNumbers

/-!
# No line is lost

Every line of a source text has one *fate*: it is skipped, it is a flag line without an issue, or it gives
one item, one marker or one issue.  `LineFate.Meets` says what a fate means in terms of the report alone,
so that a fate can be told from what is there after the run.

What a report says about lines is said by their numbers.  The items, the markers and the issues are each
made from some of the lines, in order, and carry their numbers (`map_filterMap_number`).  Numbers of
different lines differ, so such a number occurs once if its line is among them and does not occur
otherwise (`count_acceptedNumbers_eq_one_iff`).  This turns fates into statements about single lines
(`meets_report_iff`), and these follow from what reading a line can come to (`exists_fits_iff`).
-/

namespace Chronicle.Script

open Chronicle.Text Chronicle.Timeline

variable {d : Dialect}

/-! ## Fates -/

/-- What becomes of a line. -/
inductive LineFate where
  | skipped
  | flag
  | item
  | marker
  | issue
  deriving DecidableEq, Repr

/-- Whether a line of a source text meets a fate, by the report that comes of the text. -/
def LineFate.Meets (d : Dialect) (r : Report) (line : SourceLine) : LineFate → Prop
  | .skipped => IsSkipped d line.text
  | .flag =>
    ¬IsSkipped d line.text ∧ IsFlagLine d line.text ∧ line.number ∉ r.issues.map Issue.line
  | .item => (r.timeline.items.map Item.sourceLine).count line.number = 1
  | .marker => (r.timeline.markers.map Marker.sourceLine).count line.number = 1
  | .issue => (r.issues.map Issue.line).count line.number = 1

/-! ## Fates from readings -/

/-- What a fate means, said of the line alone. -/
def LineFate.Fits (d : Dialect) (line : SourceLine) : LineFate → Prop
  | .skipped => IsSkipped d line.text
  | .flag => ¬IsSkipped d line.text ∧ IsFlagLine d line.text ∧ ¬(issueAt? d line).isSome
  | .item => (draftAt? d line).isSome
  | .marker => (markerAt? d line).isSome
  | .issue => (issueAt? d line).isSome

section
variable {source locale : String} {options : Options} {line : SourceLine}

theorem meets_report_iff (h : line ∈ sourceLines source) (fate : LineFate) :
    fate.Meets d ((scan d source).report locale options) line ↔ fate.Fits d line := by
  cases fate with
  | skipped => exact Iff.rfl
  | flag =>
    rw [LineFate.Meets, LineFate.Fits, Progress.report, map_line_issues_scan,
      mem_acceptedNumbers_iff _ h]
  | item =>
    rw [LineFate.Meets, map_sourceLine_items_report]
    exact count_acceptedNumbers_eq_one_iff _ h
  | marker =>
    rw [LineFate.Meets, map_sourceLine_markers_report]
    exact count_acceptedNumbers_eq_one_iff _ h
  | issue =>
    rw [LineFate.Meets, Progress.report, map_line_issues_scan]
    exact count_acceptedNumbers_eq_one_iff _ h

theorem fits_iff_skipped (hskip : IsSkipped d line.text) (fate : LineFate) :
    fate.Fits d line ↔ fate = .skipped := by
  have hread := readLine_of_isSkipped hskip
  cases fate <;> simp [LineFate.Fits, issueAt?, draftAt?, markerAt?, hskip, hread]

theorem fits_iff_issue {error : LineError} (hskip : ¬IsSkipped d line.text)
    (hread : readLine d line.text.toList = .error (.line error)) (fate : LineFate) :
    fate.Fits d line ↔ fate = .issue := by
  cases fate <;> simp [LineFate.Fits, issueAt?, draftAt?, markerAt?, hskip, hread]

theorem fits_iff_flag {effect : Effect} (hskip : ¬IsSkipped d line.text)
    (hflag : IsFlagLine d line.text) (hread : readLine d line.text.toList = .ok effect)
    (fate : LineFate) : fate.Fits d line ↔ fate = .flag := by
  rcases effect_of_isFlagLine hskip hflag hread with rfl | ⟨_, _, setting, -, rfl⟩
  · cases fate <;> simp [LineFate.Fits, issueAt?, draftAt?, markerAt?, hskip, hflag, hread]
  · cases fate <;> simp [LineFate.Fits, issueAt?, draftAt?, markerAt?, hskip, hflag, hread]

theorem fits_iff_item {draft : Draft} (hskip : ¬IsSkipped d line.text)
    (hflag : ¬IsFlagLine d line.text)
    (hread : readLine d line.text.toList = .ok (.entity (.item draft))) (fate : LineFate) :
    fate.Fits d line ↔ fate = .item := by
  cases fate <;> simp [LineFate.Fits, issueAt?, draftAt?, markerAt?, hskip, hflag, hread]

theorem fits_iff_marker {start : Calendar.Moment} {label : String}
    (hskip : ¬IsSkipped d line.text) (hflag : ¬IsFlagLine d line.text)
    (hread : readLine d line.text.toList = .ok (.entity (.marker start label)))
    (fate : LineFate) : fate.Fits d line ↔ fate = .marker := by
  cases fate <;> simp [LineFate.Fits, issueAt?, draftAt?, markerAt?, hskip, hflag, hread]

theorem exists_fits_iff (hfault : faultAt? d line = none) :
    ∃ own : LineFate, ∀ fate : LineFate, fate.Fits d line ↔ fate = own := by
  by_cases hskip : IsSkipped d line.text
  · exact ⟨.skipped, fits_iff_skipped hskip⟩
  · cases hread : readLine d line.text.toList with
    | error trouble =>
      cases trouble with
      | fault fault => simp [faultAt?, hread] at hfault
      | line error => exact ⟨.issue, fits_iff_issue hskip hread⟩
    | ok effect =>
      by_cases hflag : IsFlagLine d line.text
      · exact ⟨.flag, fits_iff_flag hskip hflag hread⟩
      · obtain ⟨entity, rfl⟩ := effect_of_not_isFlagLine hskip hflag hread
        cases entity with
        | item draft => exact ⟨.item, fits_iff_item hskip hflag hread⟩
        | marker start label => exact ⟨.marker, fits_iff_marker hskip hflag hread⟩

theorem existsUnique_meets_report (h : line ∈ sourceLines source) (hfault : faultAt? d line = none) :
    ∃! fate : LineFate, fate.Meets d ((scan d source).report locale options) line := by
  obtain ⟨own, hown⟩ := exists_fits_iff hfault
  refine ⟨own, ?_, fun fate hfate => ?_⟩
  · exact (meets_report_iff h own).mpr ((hown own).mpr rfl)
  · exact (hown fate).mp ((meets_report_iff h fate).mp hfate)

end

/-! ## Every line is accounted for -/

/-- What holds between a source text and the report that comes of it. -/
structure Accounted (d : Dialect) (source : String) (r : Report) : Prop where
  /-- The lines are numbered from 1 without gaps. -/
  numbers : (LineCursor.ofSource source).drain.map SourceLine.number =
    List.range' 1 (LineCursor.ofSource source).drain.length
  /-- Every line has one fate. -/
  fate : ∀ line ∈ (LineCursor.ofSource source).drain, ∃! fate : LineFate, fate.Meets d r line
  /-- Everything in the report comes from a line. -/
  bounds : ∀ n ∈ r.timeline.items.map Item.sourceLine ++
      r.timeline.markers.map Marker.sourceLine ++ r.issues.map Issue.line,
    1 ≤ n ∧ n ≤ (LineCursor.ofSource source).drain.length
  items : (r.timeline.items.map Item.sourceLine).Pairwise (· < ·)
  markers : (r.timeline.markers.map Marker.sourceLine).Pairwise (· < ·)
  issues : (r.issues.map Issue.line).Pairwise (· < ·)
  /-- The items are numbered from 0 without gaps. -/
  ids : r.timeline.items.map Item.id = List.range r.timeline.items.length

theorem accounted_scan (source locale : String) (options : Options)
    (hfault : ∀ line ∈ sourceLines source, faultAt? d line = none) :
    Accounted d source ((scan d source).report locale options) where
  numbers := by rw [LineCursor.drain_ofSource, map_number_sourceLines, length_sourceLines]
  fate line hline := by
    rw [LineCursor.drain_ofSource] at hline
    exact existsUnique_meets_report hline (hfault line hline)
  bounds n hn := by
    rw [LineCursor.drain_ofSource]
    rw [map_sourceLine_items_report, map_sourceLine_markers_report, Progress.report,
      map_line_issues_scan] at hn
    simp only [List.mem_append] at hn
    rcases hn with (hn | hn) | hn <;> exact bounds_of_mem_acceptedNumbers _ hn
  items := by
    rw [map_sourceLine_items_report]
    exact pairwise_acceptedNumbers _
  markers := by
    rw [map_sourceLine_markers_report]
    exact pairwise_acceptedNumbers _
  issues := by
    rw [Progress.report, map_line_issues_scan]
    exact pairwise_acceptedNumbers _
  ids := map_id_items_report d source locale options

/-- An answer accounts for every line of its source text.  It accepts the script just when there is no
issue. -/
theorem accounted_of_parse {source locale : String} {options : Options}
    (h : ∀ fault, parse d source locale options ≠ .error (.fault fault)) :
    ∃ r : Report, Accounted d source r ∧
      (r.issues = [] ∧ parse d source locale options = .ok r.timeline ∨
        r.issues ≠ [] ∧ parse d source locale options = .error (.wrongLines r)) := by
  cases hcompile : compile d source locale options with
  | error fault => exact absurd (parse_eq_fault_iff.mpr hcompile) (h fault)
  | ok r =>
    refine ⟨r, ?_, parse_of_compile hcompile⟩
    obtain ⟨hfault, rfl⟩ := compile_eq_ok_iff.mp hcompile
    exact accounted_scan source locale options hfault

theorem accounted_of_parse_fiveLines :
    ∃ r : Report,
      parse .standard "# note\n> NOTODAY\n- [2020] a\n= [2021] b\n- c" =
        .error (.wrongLines r) ∧
      Accounted .standard "# note\n> NOTODAY\n- [2020] a\n= [2021] b\n- c" r ∧
      r.issues.map Issue.line = [5] := by
  have hparse : parse .standard "# note\n> NOTODAY\n- [2020] a\n= [2021] b\n- c" =
      .error (.wrongLines
        { timeline :=
            { items :=
                [{ id := 0, content := "a", start := { year := 2020, month := 1, day := 1 },
                   sourceLine := 3, extent := .event none }]
              markers := [⟨{ year := 2021, month := 1, day := 1 }, "b", 4⟩]
              flags := { hideCurrentTime := true } }
          issues := [⟨5, .noDates "[DATE] or [DATE~DATE]" (.item .event) "- c"⟩] }) := by
    decide +kernel
  have hanswer : ∀ fault, parse .standard "# note\n> NOTODAY\n- [2020] a\n= [2021] b\n- c" ≠
      .error (.fault fault) := by
    intro fault h
    rw [hparse] at h
    cases h
  obtain ⟨r, haccounted, ⟨-, hok⟩ | ⟨-, hwrong⟩⟩ := accounted_of_parse hanswer
  · rw [hparse] at hok
    cases hok
  · refine ⟨r, hwrong, haccounted, ?_⟩
    rw [hparse] at hwrong
    cases hwrong
    rfl

end Chronicle.Script
