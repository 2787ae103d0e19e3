import Chronicle.Proofs.Script.Reading
import Chronicle.Script.Line
import Mathlib.Data.List.Basic

/-!
# Forms of lines

A line is skipped when it is blank or a comment, and otherwise the mark of flags tells a flag line from the
rest.  Both are said here of the text of a line.  They settle what sort of effect the line can have: a
skipped line does nothing, a flag line sets a flag or does nothing, and any other line declares something,
where the last two may also fail.
-/

namespace Chronicle.Script

open Chronicle.Text

variable {d : Dialect}

/-- Whether a line is blank or a comment. -/
def IsSkipped (d : Dialect) (text : String) : Prop :=
  trim text.toList = [] ∨ d.commentMark.toList <+: trim text.toList

/-- Whether a line starts with the mark of flags. -/
def IsFlagLine (d : Dialect) (text : String) : Prop := d.flagMark.toList <+: trim text.toList

/-! ## Classification -/

theorem classify_of_isSkipped {text : String} (h : IsSkipped d text) :
    d.classify (trim text.toList) = .skipped := by
  rw [Dialect.classify, if_pos]
  rcases h with h | h
  · simp [h]
  · simp [List.isPrefixOf_iff_prefix, h]

theorem classify_of_not_isSkipped {text : String} (h : ¬IsSkipped d text) :
    d.classify (trim text.toList) =
      match dropFront? d.flagMark.toList (trim text.toList) with
      | some body => .flag body
      | none =>
        match d.sigil? (trim text.toList) with
        | some (kind, body) => .entity kind body
        | none =>
          if d.bareOpener.toList.isPrefixOf (trim text.toList) then
            .entity (.item .event) (trim text.toList)
          else .unknown := by
  rw [IsSkipped, not_or] at h
  have hcond : ¬((trim text.toList).isEmpty ||
      d.commentMark.toList.isPrefixOf (trim text.toList)) = true := by
    simp [h.1, List.isPrefixOf_iff_prefix, h.2]
  exact if_neg hcond

theorem classify_of_not_isFlagLine {text : String} (hskip : ¬IsSkipped d text) (hflag : ¬IsFlagLine d text) :
    d.classify (trim text.toList) =
      match d.sigil? (trim text.toList) with
      | some (kind, body) => .entity kind body
      | none =>
        if d.bareOpener.toList.isPrefixOf (trim text.toList) then
          .entity (.item .event) (trim text.toList)
        else .unknown := by
  rw [classify_of_not_isSkipped hskip, dropFront?_eq_none_iff.mpr hflag]

/-! ## Readings by the form of a line -/

theorem readLine_of_isSkipped {text : String} (h : IsSkipped d text) :
    readLine d text.toList = .ok .none := by
  rw [readLine, classify_of_isSkipped h]

theorem readLine_of_eq {text : String} {body : List Char} (hskip : ¬IsSkipped d text)
    (h : trim text.toList = d.flagMark.toList ++ body) :
    readLine d text.toList = readFlag d body := by
  rw [readLine, classify_of_not_isSkipped hskip, dropFront?_eq_some_iff.mpr h]

theorem readLine_of_not_isFlagLine {text : String} (hskip : ¬IsSkipped d text)
    (hflag : ¬IsFlagLine d text) :
    (∃ kind body, readLine d text.toList =
      (readEntity d kind body (trim text.toList)).map .entity) ∨
    ∃ error, readLine d text.toList = refuse error := by
  rw [readLine, classify_of_not_isFlagLine hskip hflag]
  cases d.sigil? (trim text.toList) with
  | some found => exact .inl ⟨found.1, found.2, rfl⟩
  | none =>
    by_cases hbare : d.bareOpener.toList.isPrefixOf (trim text.toList) = true
    · simp only [if_pos hbare]
      exact .inl ⟨_, _, rfl⟩
    · simp only [if_neg hbare]
      exact .inr ⟨_, rfl⟩

theorem readFlag_cases (d : Dialect) (body : List Char) :
    readFlag d body = refuse .noKeyword ∨ readFlag d body = .ok .none ∨
      ∃ flag, d.flag? (firstWord (trim body)).1 = some flag ∧
        readFlag d body = (flag.read d (firstWord (trim body)).2).map .flag := by
  simp only [readFlag]
  split
  · exact .inl rfl
  · cases d.flag? (firstWord (trim body)).1 with
    | none => exact .inr (.inl rfl)
    | some flag => exact .inr (.inr ⟨flag, rfl, rfl⟩)

/-! ## Effects by the form of a line -/

theorem effect_of_isFlagLine {text : String} {effect : Effect} (hskip : ¬IsSkipped d text)
    (hflag : IsFlagLine d text) (h : readLine d text.toList = .ok effect) :
    effect = .none ∨
      ∃ (flag : FlagName) (arguments : List Char) (setting : FlagSetting),
        flag.read d arguments = .ok setting ∧ effect = .flag setting := by
  obtain ⟨body, hbody⟩ := hflag
  rw [readLine_of_eq hskip hbody.symm] at h
  rcases readFlag_cases d body with hread | hread | ⟨flag, -, hread⟩
  · rw [hread] at h
    cases h
  · rw [hread] at h
    cases h
    exact .inl rfl
  · rw [hread] at h
    obtain ⟨setting, hsetting, rfl⟩ := map_eq_ok_iff.mp h
    exact .inr ⟨flag, _, setting, hsetting, rfl⟩

theorem effect_of_not_isFlagLine {text : String} {effect : Effect} (hskip : ¬IsSkipped d text)
    (hflag : ¬IsFlagLine d text) (h : readLine d text.toList = .ok effect) :
    ∃ entity, effect = .entity entity := by
  rcases readLine_of_not_isFlagLine hskip hflag with ⟨kind, body, hread⟩ | ⟨error, hread⟩
  · rw [hread] at h
    obtain ⟨entity, -, rfl⟩ := map_eq_ok_iff.mp h
    exact ⟨entity, rfl⟩
  · rw [hread] at h
    cases h

/-! ## Flags that are set -/

/-- The flag that a setting is of. -/
def FlagSetting.flag : FlagSetting → FlagName
  | .orderBy _ => .orderBy
  | .defaultView _ => .defaultView
  | .hideCurrentTime => .noToday
  | .height _ => .height

/-- A flag sets nothing but itself. -/
theorem flag_of_read {flag : FlagName} {arguments : List Char} {setting : FlagSetting}
    (h : flag.read d arguments = .ok setting) : setting.flag = flag := by
  cases flag with
  | orderBy =>
    obtain ⟨keys, -, h⟩ := bind_eq_ok_iff.mp h
    split at h
    · cases h
    · split at h <;> cases h
      rfl
  | defaultView =>
    obtain ⟨parts, -, h⟩ := bind_eq_ok_iff.mp h
    split at h
    · split at h
      · cases h
      · obtain ⟨start, -, h⟩ := bind_eq_ok_iff.mp h
        obtain ⟨stop, -, h⟩ := bind_eq_ok_iff.mp h
        split at h <;> cases h
        rfl
    · cases h
  | noToday =>
    rw [FlagName.read, readNoToday] at h
    split at h <;> cases h
    rfl
  | height =>
    simp only [FlagName.read, readHeight] at h
    split at h
    · cases h
    · split at h
      · cases h
      · split at h <;> cases h
        rfl

/-- A flag that a line sets was read from some arguments. -/
theorem exists_read {text : String} {setting : FlagSetting}
    (h : readLine d text.toList = .ok (.flag setting)) :
    ∃ arguments : List Char, setting.flag.read d arguments = .ok setting := by
  by_cases hskip : IsSkipped d text
  · rw [readLine_of_isSkipped hskip] at h
    cases h
  · by_cases hflag : IsFlagLine d text
    · rcases effect_of_isFlagLine hskip hflag h with heq | ⟨flag, arguments, _, hread, heq⟩
      · cases heq
      · cases heq
        obtain rfl := flag_of_read hread
        exact ⟨arguments, hread⟩
    · obtain ⟨entity, heq⟩ := effect_of_not_isFlagLine hskip hflag h
      cases heq

end Chronicle.Script
