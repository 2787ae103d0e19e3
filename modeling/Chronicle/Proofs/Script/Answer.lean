import Chronicle.Proofs.Script.Admissible
import Chronicle.Proofs.Script.OverlongHeight

/-!
# Answers in the standard dialect

Every script of the standard dialect has an answer, unless one of its lines sets an overlong height.  Then
the first such line is a fault, and nothing is said of the others.  In any other case the script is
accepted, or refused for some of its lines with the timeline of the rest, and no check fails on the way.
This is `parse_standard`.

A height of zeros shows that the exception is real: a few zeros are refused as a height that is not
positive, and too many have no answer (`parse_overlongZeros`).
-/

namespace Chronicle.Script

open Chronicle.Text Chronicle.Timeline

variable {source locale : String} {options : Options}

/-! ## Faults of lines -/

/-- A line that sets an overlong height. -/
def SetsOverlongHeight (line : SourceLine) : Prop :=
  ∃ h : OverlongHeight, trim line.text.toList = h.chars

theorem faultAt?_eq_some_iff {d : Dialect} {line : SourceLine} {fault : Fault} :
    faultAt? d line = some fault ↔ readLine d line.text.toList = .error (.fault fault) := by
  rw [faultAt?]
  cases readLine d line.text.toList with
  | ok effect => simp
  | error trouble => cases trouble <;> simp

theorem faultAt?_standard_eq_some_iff {line : SourceLine} {fault : Fault} :
    faultAt? .standard line = some fault ↔
      ∃ height : OverlongHeight, trim line.text.toList = height.chars ∧
        fault = .tooManyDigits height.digits.length :=
  faultAt?_eq_some_iff.trans readLine_standard_eq_fault_iff

theorem faultAt?_standard_eq_none_iff {line : SourceLine} :
    faultAt? .standard line = none ↔ ¬SetsOverlongHeight line := by
  rw [Option.eq_none_iff_forall_ne_some]
  constructor
  · rintro h ⟨height, htext⟩
    exact h _ (faultAt?_standard_eq_some_iff.mpr ⟨height, htext, rfl⟩)
  · intro h fault hfault
    obtain ⟨height, htext, -⟩ := faultAt?_standard_eq_some_iff.mp hfault
    exact h ⟨height, htext⟩

/-! ## Answers -/

/-- A script of the standard dialect has a fault when a line sets an overlong height, and then that of the
first such line.  In any other case it is accepted or refused for some of its lines. -/
theorem parse_standard (source locale : String) (options : Options) :
    (∃ (before after : List SourceLine) (line : SourceLine) (height : OverlongHeight),
      sourceLines source = before ++ line :: after ∧
      (∀ earlier ∈ before, ¬SetsOverlongHeight earlier) ∧
      trim line.text.toList = height.chars ∧
      parse .standard source locale options =
        .error (.fault (.tooManyDigits height.digits.length))) ∨
    (∀ line ∈ sourceLines source, ¬SetsOverlongHeight line) ∧
      (∀ line ∈ sourceLines source, ∀ setting ∈ settingAt? .standard line, setting.Admissible) ∧
      ∃ r : Report, r.timeline.Admissible ∧
        (r.issues = [] ∧ parse .standard source locale options = .ok r.timeline ∨
          r.issues ≠ [] ∧ parse .standard source locale options = .error (.wrongLines r)) := by
  cases hfault : (sourceLines source).findSome? (faultAt? .standard) with
  | some fault =>
    refine .inl ?_
    obtain ⟨before, line, after, hlines, hline, hbefore⟩ := List.findSome?_eq_some_iff.mp hfault
    obtain ⟨height, htext, rfl⟩ := faultAt?_standard_eq_some_iff.mp hline
    refine ⟨before, after, line, height, hlines, fun earlier hearlier => ?_, htext, ?_⟩
    · exact faultAt?_standard_eq_none_iff.mp (hbefore earlier hearlier)
    · exact parse_eq_fault_iff.mpr (compile_eq_error_iff.mpr hfault)
  | none =>
    refine .inr ?_
    rw [List.findSome?_eq_none_iff] at hfault
    have hcompile : compile .standard source locale options =
        .ok ((scan .standard source).report locale options) :=
      compile_eq_ok_iff.mpr ⟨hfault, rfl⟩
    exact ⟨fun line hline => faultAt?_standard_eq_none_iff.mp (hfault line hline),
      fun line _ setting hsetting => admissible_of_settingAt? hsetting,
      (scan .standard source).report locale options,
      admissible_timeline_scan source locale options, parse_of_compile hcompile⟩

/-! ## Too many zeros -/

theorem parse_overlongHeight (height : OverlongHeight) (hplain : IsPlainLine height.chars) :
    parse .standard (String.ofList height.chars) locale options =
      .error (.fault (.tooManyDigits height.digits.length)) := by
  rw [parse_eq_fault_iff, compile_eq_error_iff, sourceLines_of_isPlainLine hplain,
    List.findSome?_singleton, faultAt?_standard_eq_some_iff]
  exact ⟨height, by rw [String.toList_ofList, trim_eq_self height.isTrimmed_chars], rfl⟩

/-- A height that is given as too many zeros. -/
def overlongZeros (n : Nat) (h : digitLimit < n) : OverlongHeight where
  gap := [' ']
  keyword := "HEIGHT".toList
  space := [' ']
  digits := List.replicate n '0'
  gap_blank c hc := by rw [List.mem_singleton.mp hc]; decide
  keyword_solid c hc := by
    have hsolid : "HEIGHT".toList.all (fun c => !isBlank c) = true := by decide
    simpa using List.all_eq_true.mp hsolid c hc
  keyword_upper := by decide
  space_blank c hc := by rw [List.mem_singleton.mp hc]; decide
  space_ne_nil := by decide
  tooMany :=
    { digits := fun c hc => by rw [List.eq_of_mem_replicate hc]; decide
      length := by rwa [List.length_replicate] }

/-- Too many zeros have no answer, where fewer would be refused as a height that is not positive. -/
theorem parse_overlongZeros {n : Nat} (h : digitLimit < n) :
    parse .standard (String.ofList ("> HEIGHT ".toList ++ List.replicate n '0')) =
      .error (.fault (.tooManyDigits n)) := by
  have hplain : IsPlainLine (overlongZeros n h).chars := by
    constructor <;> simp [OverlongHeight.chars, overlongZeros]
  have hfault := @parse_overlongHeight "en" {} (overlongZeros n h) hplain
  rwa [overlongZeros, List.length_replicate] at hfault

theorem parse_zeros4301 :
    parse .standard (String.ofList ("> HEIGHT ".toList ++ List.replicate 4301 '0')) =
      .error (.fault (.tooManyDigits 4301)) :=
  parse_overlongZeros (by decide)

end Chronicle.Script
