import Chronicle.Proofs.Script.DescriptionCut
import Chronicle.Proofs.Script.SpacedTokens
import Chronicle.Script.Line

/-!
# The parts of an entity line

An entity line of the standard dialect starts with a sigil or with its brackets, the brackets hold its dates, and
a tilde stands between a start and an end.  Each of these is said here of the text alone (`StartsAs`, `Bracketed`,
`CutDates`), and each is what the reader looks for (`classify_of_startsAs`, `bracket?_eq_some_iff`,
`cutAt?_of_cutDates`).

Nothing but blanks may stand in front of the brackets, so there is one place where they can be, and the reader,
which goes through the blanks, finds no other.
-/

namespace Chronicle.Script

open Chronicle.Text Chronicle.Timeline

/-! ## Sigils -/

/-- The kind that an entity line starts with, and what is read behind its sigil.  Without a sigil the line has to
start with its brackets, and these are still to be read. -/
inductive StartsAs : (text : List Char) → EntityKind → (body : List Char) → Prop where
  | event (body : List Char) : StartsAs ('-' :: body) (.item .event) body
  | period (body : List Char) : StartsAs ('@' :: body) (.item .period) body
  | point (body : List Char) : StartsAs ('*' :: body) (.item .point) body
  | marker (body : List Char) : StartsAs ('=' :: body) .marker body
  | bare (rest : List Char) : StartsAs ('[' :: rest) (.item .event) ('[' :: rest)

theorem classify_of_startsAs {text body : List Char} {kind : EntityKind} (h : StartsAs text kind body) :
    Dialect.standard.classify text = .entity kind body := by
  cases h <;> rfl

/-- A line that starts with no mark of the dialect is unknown. -/
theorem classify_of_not_startsAs {text : List Char} (hne : text ≠ [])
    (hmark : ∀ c ∈ text.head?, c ≠ '#' ∧ c ≠ '>') (h : ¬∃ kind body, StartsAs text kind body) :
    Dialect.standard.classify text = .unknown := by
  cases text with
  | nil => exact absurd rfl hne
  | cons c rest =>
    obtain ⟨hhash, hflag⟩ := hmark c rfl
    have hother (mark : Char) (hstarts : ∃ kind body, StartsAs (mark :: rest) kind body) : c ≠ mark := by
      rintro rfl
      exact h hstarts
    have hminus : c ≠ '-' := hother '-' ⟨_, _, .event rest⟩
    have hat : c ≠ '@' := hother '@' ⟨_, _, .period rest⟩
    have hstar : c ≠ '*' := hother '*' ⟨_, _, .point rest⟩
    have hequals : c ≠ '=' := hother '=' ⟨_, _, .marker rest⟩
    have hbracket : c ≠ '[' := hother '[' ⟨_, _, .bare rest⟩
    have hdrop {mark : Char} (hmark : c ≠ mark) : dropFront? [mark] (c :: rest) = none := by
      simp [dropFront?, hmark.symm]
    have hsigils : Dialect.standard.sigilsByLength = Dialect.standard.sigils := by decide
    have hsigil : Dialect.standard.sigil? (c :: rest) = none := by
      rw [Dialect.sigil?, hsigils]
      simp [Dialect.standard, hdrop hminus, hdrop hat, hdrop hstar, hdrop hequals]
    have hflags : Dialect.standard.flagMark.toList = ['>'] := rfl
    rw [Dialect.classify, hflags, hdrop hflag, hsigil]
    simp [Dialect.standard, hhash.symm, hbracket.symm]

/-! ## Brackets -/

/-- A body is made of dates in brackets, perhaps behind blanks, and a rest. -/
structure Bracketed (body dates rest : List Char) : Prop where
  no_bracket : ']' ∉ dates
  eq_append : ∃ blanks, (∀ c ∈ blanks, isBlank c) ∧ body = blanks ++ '[' :: (dates ++ ']' :: rest)

variable {body dates rest : List Char}

theorem isDateChar_standard_iff {c : Char} : Dialect.standard.isDateChar c = true ↔ c ≠ ']' := by
  simp [Dialect.isDateChar, Dialect.standard]

theorem bracketAt?_eq_some_iff :
    Dialect.standard.bracketAt? body = some (dates, rest) ↔
      ']' ∉ dates ∧ body = '[' :: (dates ++ ']' :: rest) := by
  have hopen : Dialect.standard.dateOpen.toList = ['['] := rfl
  have hclose : Dialect.standard.dateClose.toList = [']'] := rfl
  constructor
  · intro h
    rw [Dialect.bracketAt?] at h
    split at h
    · cases h
    · next inner hinner =>
      split at h
      · cases h
      · next after hafter =>
        cases h
        rw [hopen, dropFront?_eq_some_iff] at hinner
        rw [hclose, dropFront?_eq_some_iff] at hafter
        refine ⟨fun hmem => isDateChar_standard_iff.mp (List.mem_takeWhile_imp hmem) rfl, ?_⟩
        have hsplit := List.takeWhile_append_dropWhile (p := Dialect.standard.isDateChar) (l := inner)
        rw [hafter] at hsplit
        rw [hinner]
        exact congrArg ('[' :: ·) hsplit.symm
  · rintro ⟨hdates, rfl⟩
    have hchars : ∀ c ∈ dates, Dialect.standard.isDateChar c = true := fun c hc =>
      isDateChar_standard_iff.mpr fun heq => hdates (heq ▸ hc)
    obtain ⟨htake, hdrop⟩ := span_append_cons ']' hchars (by decide) rest
    have hinner : dropFront? ['['] ('[' :: (dates ++ ']' :: rest)) = some (dates ++ ']' :: rest) :=
      dropFront?_eq_some_iff.mpr rfl
    have hafter : dropFront? [']'] (']' :: rest) = some rest := dropFront?_eq_some_iff.mpr rfl
    simp only [Dialect.bracketAt?, hopen, hclose, hinner, htake, hdrop, hafter]

section
variable {c : Char} {tail : List Char}

theorem bracketed_cons_of_blank (hblank : isBlank c = true) :
    Bracketed (c :: tail) dates rest ↔ Bracketed tail dates rest := by
  constructor
  · rintro ⟨hdates, blanks, hblanks, heq⟩
    cases blanks with
    | nil =>
      cases heq
      exact absurd hblank (by decide)
    | cons first blanks =>
      cases heq
      exact ⟨hdates, blanks, (List.forall_mem_cons.mp hblanks).2, rfl⟩
  · rintro ⟨hdates, blanks, hblanks, rfl⟩
    exact ⟨hdates, c :: blanks, List.forall_mem_cons.mpr ⟨hblank, hblanks⟩, rfl⟩

theorem bracketed_cons_of_solid (hsolid : ¬isBlank c = true) :
    Bracketed (c :: tail) dates rest ↔ ']' ∉ dates ∧ c :: tail = '[' :: (dates ++ ']' :: rest) := by
  constructor
  · rintro ⟨hdates, blanks, hblanks, heq⟩
    cases blanks with
    | nil => exact ⟨hdates, heq⟩
    | cons first blanks =>
      cases heq
      exact absurd (List.forall_mem_cons.mp hblanks).1 hsolid
  · rintro ⟨hdates, heq⟩
    exact ⟨hdates, [], by simp, heq⟩

end

/-- The reader goes through the blanks and finds the only brackets that can be there. -/
theorem bracket?_eq_some_iff :
    Dialect.standard.bracket? body = some (dates, rest) ↔ Bracketed body dates rest := by
  induction body with
  | nil =>
    rw [Dialect.bracket?, bracketAt?_eq_some_iff]
    constructor
    · rintro ⟨-, hnil⟩
      cases hnil
    · rintro ⟨-, blanks, -, hnil⟩
      simp at hnil
  | cons c tail ih =>
    rw [Dialect.bracket?]
    split
    · next hblank =>
      have hnone : Dialect.standard.bracketAt? (c :: tail) = none := by
        rw [Option.eq_none_iff_forall_ne_some]
        rintro ⟨dates, rest⟩ hfound
        cases (bracketAt?_eq_some_iff.mp hfound).2
        exact absurd hblank (by decide)
      rw [hnone, Option.or_none, ih, bracketed_cons_of_blank hblank]
    · next hsolid => rw [bracketAt?_eq_some_iff, bracketed_cons_of_solid hsolid]

/-! ## Dates -/

/-- Dates are cut at their first tilde. -/
inductive CutDates : (dates startText : List Char) → (stopText : Option (List Char)) → Prop where
  | single {dates : List Char} (h : '~' ∉ dates) : CutDates dates dates none
  | range {startText stopText : List Char} (h : '~' ∉ startText) :
    CutDates (startText ++ '~' :: stopText) startText (some stopText)

theorem exists_cutDates (dates : List Char) : ∃ startText stopText, CutDates dates startText stopText := by
  by_cases h : '~' ∈ dates
  · obtain ⟨startText, stopText, rfl, hfirst⟩ := List.eq_append_cons_of_mem h
    exact ⟨startText, some stopText, .range hfirst⟩
  · exact ⟨dates, none, .single h⟩

theorem cutAt?_of_cutDates {startText : List Char} {stopText : Option (List Char)}
    (h : CutDates dates startText stopText) :
    cutAt? Dialect.standard.rangeSeparator.toList dates = stopText.map fun text => (startText, text) := by
  cases h with
  | single h => exact cutAt?_of_not_mem h
  | range h => exact cutAt?_append h _

end Chronicle.Script
