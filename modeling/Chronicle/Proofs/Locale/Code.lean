import Chronicle.Proofs.Locale.Display
import Chronicle.Proofs.Text.LowerCase
import Chronicle.Proofs.Text.Sorted

/-!
# Codes in any spelling

A code is always looked up in its canonical spelling, and to spell that canonically once more changes nothing
(`canonical_canonical`).  The reason is that the three steps of the spelling leave alone what the others have done.
Lower case brings in no blank and no underscore, and a hyphen in place of an underscore is no blank either.

So the language, the direction and the displayed text are the same for all spellings of a code (`display_congr`), and
the list of the known codes has nothing to add to itself (`knownCodes_knownCodes`).  The main statement is
`spelling_irrelevant`.
-/

namespace Chronicle.Locale

open Chronicle.Calendar Chronicle.Text

/-! ## Canonical spelling -/

/-- A text with hyphens for its underscores. -/
def hyphenated (cs : List Char) : List Char := cs.map fun c => if c = '_' then '-' else c

theorem toList_canonical (code : String) : (canonical code).toList = lower (hyphenated (trim code.toList)) := by
  rw [canonical, String.toList_ofList]
  rfl

theorem underscore_not_mem_hyphenated (cs : List Char) : '_' ∉ hyphenated cs := by
  intro h
  obtain ⟨c, -, heq⟩ := List.mem_map.mp h
  split at heq
  · cases heq
  · next hc => exact hc heq

theorem hyphenated_eq_self {cs : List Char} (h : '_' ∉ cs) : hyphenated cs = cs := by
  refine (List.map_congr_left fun c hc => ?_).trans (List.map_id cs)
  exact if_neg fun (heq : c = '_') => h (heq ▸ hc)

theorem isTrimmed_hyphenated {cs : List Char} (h : IsTrimmed cs) : IsTrimmed (hyphenated cs) := by
  have hsolid (c : Char) (hc : isBlank c = false) : isBlank (if c = '_' then '-' else c) = false := by
    split
    · rfl
    · exact hc
  constructor
  · intro d hd
    rw [hyphenated, List.head?_map] at hd
    obtain ⟨c, hc, rfl⟩ := Option.map_eq_some_iff.mp hd
    exact hsolid c (h.start c hc)
  · intro d hd
    rw [hyphenated, List.getLast?_map] at hd
    obtain ⟨c, hc, rfl⟩ := Option.map_eq_some_iff.mp hd
    exact hsolid c (h.stop c hc)

theorem canonical_eq_self {code : String} (htrimmed : IsTrimmed code.toList) (hunderscore : '_' ∉ code.toList)
    (hsettled : ∀ c ∈ code.toList, Settled c) : canonical code = code := by
  apply String.toList_injective
  rw [toList_canonical, trim_eq_self htrimmed, hyphenated_eq_self hunderscore]
  exact lowerFrom_eq_self hsettled []

/-- The canonical spelling is canonical. -/
theorem canonical_canonical (code : String) : canonical (canonical code) = canonical code := by
  apply canonical_eq_self
  · rw [toList_canonical]
    exact (isTrimmed_hyphenated (isTrimmed_trim _)).lower
  · rw [toList_canonical]
    exact underscore_not_mem_lower (underscore_not_mem_hyphenated _)
  · rw [toList_canonical]
    exact fun _ hc => (mem_lowerFrom hc).1

/-! ## Lookups -/

/-- Names that make no difference between two codes. -/
structure DateNames.AnswersAlike (names : DateNames) (code other : String) : Prop where
  direction : names.isRightToLeft code = names.isRightToLeft other
  month : ∀ month, names.monthName month code = names.monthName month other
  date : ∀ m, names.fullDate m code = names.fullDate m other

section Spellings

variable {names : DateNames} {code other : String}

theorem fullDateText_congr (h : names.AnswersAlike code other) (m : Moment) (rightToLeft : Bool) :
    fullDateText names m code rightToLeft = fullDateText names m other rightToLeft := by
  rw [fullDateText, h.month, h.date, fullDateText]

variable (h : canonical code = canonical other)

include h

theorem baseLanguage_congr : baseLanguage code = baseLanguage other := by
  rw [baseLanguage, h, baseLanguage]

theorem isRightToLeft_congr : isRightToLeft code = isRightToLeft other := by
  rw [isRightToLeft, h, baseLanguage_congr h, isRightToLeft]

theorem answersAlike_plainNames : plainNames.AnswersAlike code other where
  direction := congrArg some (isRightToLeft_congr h)
  month _ := rfl
  date _ := rfl

/-- A rendering takes the language of a code, and the rest from the lookups. -/
theorem render_congr (halike : names.AnswersAlike code other) (start : Moment) (stop : Option Moment) :
    render names start stop code = render names start stop other := by
  have htoward : renderToward names start stop code = renderToward names start stop other := by
    funext rightToLeft
    cases stop with
    | none => simp only [renderToward, renderDate, baseLanguage_congr h, fullDateText_congr halike]
    | some stop =>
      simp only [renderToward, renderRange, daysOfMonthText, halike.month, baseLanguage_congr h,
        fullDateText_congr halike]
  rw [render_eq, render_eq, halike.direction, htoward]

/-- Whatever is displayed for one code is displayed for the other, if the names that are asked make no difference. -/
theorem display_congr {usual : DateNames} {service : Option Service}
    (halike : (activeNames usual service).AnswersAlike code other) (start : Moment) (stop : Option Moment) :
    display usual service start stop code = display usual service start stop other := by
  rw [display, display, render_congr h halike, render_congr h (answersAlike_plainNames h)]

end Spellings

/-! ## Known codes -/

variable {code : String} {extra : List String}

theorem canonical_of_known (h : code ∈ rightToLeftCodes ++ leftToRightCodes) : canonical code = code := by
  have hcodes : ∀ code ∈ rightToLeftCodes ++ leftToRightCodes, code.toList ⊆ "abcdefghijklmnopqrstuvwxyz-".toList := by
    decide +kernel
  have hletters : ("abcdefghijklmnopqrstuvwxyz-".toList.all fun c => decide (Steady c)) = true := by decide +kernel
  have hsteady (c : Char) (hc : c ∈ code.toList) : Steady c :=
    of_decide_eq_true (List.all_eq_true.mp hletters c (hcodes code h hc))
  have hsolid (c : Char) (hc : c ∈ code.toList) : isBlank c = false := (hsteady c hc).solid
  refine canonical_eq_self ⟨startsSolid_of_forall hsolid, endsSolid_of_forall hsolid⟩ ?_ fun c hc => ?_
  · exact fun hmem => (hsteady '_' hmem).ne_underscore rfl
  · exact (hsteady c hc).toSettled

theorem mem_knownCodes_iff :
    code ∈ knownCodes extra ↔
      code ∈ rightToLeftCodes ∨ code ∈ leftToRightCodes ∨ ∃ given ∈ extra, canonical given = code := by
  rw [knownCodes, mem_sortedTexts_iff, List.mem_append, List.mem_append, List.mem_map, or_assoc]

theorem canonical_of_mem_knownCodes (h : code ∈ knownCodes extra) : canonical code = code := by
  rcases mem_knownCodes_iff.mp h with hright | hleft | ⟨given, -, rfl⟩
  · exact canonical_of_known (List.mem_append_left _ hright)
  · exact canonical_of_known (List.mem_append_right _ hleft)
  · exact canonical_canonical given

theorem knownCodes_knownCodes (extra : List String) : knownCodes (knownCodes extra) = knownCodes extra := by
  have hmap : (knownCodes extra).map canonical = knownCodes extra :=
    (List.map_congr_left fun _ => canonical_of_mem_knownCodes).trans (List.map_id _)
  rw [knownCodes, hmap]
  refine sortedTexts_eq_of_mem_iff fun code => ⟨fun h => ?_, fun h => ?_⟩
  · rcases List.mem_append.mp h with hknown | hmem
    · exact List.mem_append_left _ hknown
    · exact mem_sortedTexts_iff.mp hmem
  · exact List.mem_append_right _ (mem_sortedTexts_iff.mpr h)

/-! ## One code in all its spellings -/

/-- Nothing depends on how a code is spelled.  Its canonical spelling is canonical and gives the same language and the
same direction.  A code with the same canonical spelling displays real dates in the same way in plain names: with the
same text if their years can be written, and otherwise with none.  The known codes increase strictly by code points,
they are the listed ones and the given ones in canonical spelling, and they have nothing to add to themselves. -/
theorem spelling_irrelevant (code : String) :
    canonical (canonical code) = canonical code ∧
      baseLanguage (canonical code) = baseLanguage code ∧
      isRightToLeft (canonical code) = isRightToLeft code ∧
      (∀ other, canonical other = canonical code →
        ∀ (usual : DateNames) (start : Moment) (stop : Option Moment), start.Real → (∀ m ∈ stop, m.Real) →
          display usual (some plainService) start stop other = display usual (some plainService) start stop code ∧
            ((∃ text, display usual (some plainService) start stop code = some text) ↔
              Writable start.year ∧ ∀ m ∈ stop, Writable m.year)) ∧
      ∀ extra : List String,
        (knownCodes extra).Pairwise (· < ·) ∧
          (∀ known, known ∈ knownCodes extra ↔
            known ∈ rightToLeftCodes ∨ known ∈ leftToRightCodes ∨ ∃ given ∈ extra, canonical given = known) ∧
          knownCodes (knownCodes extra) = knownCodes extra := by
  have hcanonical := canonical_canonical code
  refine ⟨hcanonical, baseLanguage_congr hcanonical, isRightToLeft_congr hcanonical, ?_, fun extra => ?_⟩
  · intro other hother usual start stop hstart hstop
    have halike : (activeNames usual (some plainService)).AnswersAlike other code := answersAlike_plainNames hother
    refine ⟨display_congr hother halike start stop, ?_⟩
    rw [display_plainService, ← Option.isSome_iff_exists, isSome_render_plainNames_iff hstart hstop]
  · exact ⟨pairwise_sortedTexts _, fun _ => mem_knownCodes_iff, knownCodes_knownCodes extra⟩

/-- Blanks around, capitals and an underscore make no difference. -/
theorem spelling_irrelevant_japanese :
    canonical "ja-jP" = canonical "\u3000JA_Jp\t" ∧
      display plainNames (some plainService) ⟨⟨2023, 6, 1⟩, 0, 0, 0⟩ (some ⟨⟨2023, 6, 20⟩, 0, 0, 0⟩) "\u3000JA_Jp\t" =
        some "2023年Jun1~20日" ∧
      display plainNames (some plainService) ⟨⟨2023, 6, 1⟩, 0, 0, 0⟩ (some ⟨⟨2023, 6, 20⟩, 0, 0, 0⟩) "ja-jP" =
        some "2023年Jun1~20日" := by
  have hcanonical : canonical "ja-jP" = canonical "\u3000JA_Jp\t" := by decide +kernel
  have hstart : (⟨⟨2023, 6, 1⟩, 0, 0, 0⟩ : Moment).Real := by decide
  have hstop : ∀ m ∈ some (⟨⟨2023, 6, 20⟩, 0, 0, 0⟩ : Moment), m.Real := by
    rintro m ⟨⟩
    decide
  have hdisplay : display plainNames (some plainService) ⟨⟨2023, 6, 1⟩, 0, 0, 0⟩ (some ⟨⟨2023, 6, 20⟩, 0, 0, 0⟩)
      "\u3000JA_Jp\t" = some "2023年Jun1~20日" := by
    decide +kernel
  obtain ⟨-, -, -, hsame, -⟩ := spelling_irrelevant "\u3000JA_Jp\t"
  obtain ⟨hother, -⟩ := hsame "ja-jP" hcanonical plainNames _ _ hstart hstop
  exact ⟨hcanonical, hdisplay, hother.trans hdisplay⟩

end Chronicle.Locale
