import Chronicle.Proofs.Script.Faults
import Chronicle.Proofs.Text.Trim

/-!
# Overlong heights

In the standard dialect there is one way to a fault: a line that sets the height with more digits than a
number is read with.  `OverlongHeight` describes such a line, and `readLine_standard_eq_fault_iff` says
that a line has a fault just when it is one.

The keyword is read up to the first blank and the digits from the next character that is none, so both
directions rest on how a text is divided at its first word (`firstWord_append`, `exists_space`).
-/

namespace Chronicle.Script

open Chronicle.Text

/-! ## First words -/

theorem firstWord_append {word space rest : List Char} (hword : ∀ c ∈ word, isBlank c = false)
    (hspace : ∀ c ∈ space, isBlank c) (hne : space ≠ []) (hrest : StartsSolid rest) :
    firstWord (word ++ (space ++ rest)) = (word, rest) := by
  have hin : ∀ c ∈ word, (!isBlank c) = true := by simpa using hword
  obtain ⟨c, more, rfl⟩ := List.exists_cons_of_ne_nil hne
  have hout : (!isBlank c) = false := by simpa using hspace c (.head _)
  obtain ⟨htake, hdrop⟩ := span_append_cons c hin hout (more ++ rest)
  rw [firstWord, List.cons_append, htake, hdrop, ← List.cons_append, trimStart_append hspace hrest]

theorem isBlank_of_mem_firstWord {cs : List Char} : ∀ c ∈ (firstWord cs).1, isBlank c = false := by
  intro c hc
  simpa using List.mem_takeWhile_imp hc

/-- Between the first word and what follows there are blanks, if anything follows. -/
theorem exists_space (cs : List Char) :
    ∃ space, cs = (firstWord cs).1 ++ (space ++ (firstWord cs).2) ∧
      (∀ c ∈ space, isBlank c) ∧ ((firstWord cs).2 ≠ [] → space ≠ []) := by
  dsimp only [firstWord]
  obtain ⟨space, hspace, heq⟩ := exists_blanks_append_trimStart (cs.dropWhile fun c => !isBlank c)
  refine ⟨space, ?_, hspace, ?_⟩
  · rw [← heq, List.takeWhile_append_dropWhile]
  · rintro hne rfl
    -- Without blanks between, what follows would start with a character of the word.
    rw [List.nil_append] at heq
    obtain ⟨c, more, hcons⟩ := List.exists_cons_of_ne_nil hne
    rw [← heq] at hcons
    have hblank := List.head?_dropWhile_not (fun c => !isBlank c) cs
    have hsolid := startsSolid_trimStart (cs.dropWhile fun c => !isBlank c)
    rw [← heq, hcons, startsSolid_cons] at hsolid
    rw [hcons] at hblank
    simp [hsolid] at hblank

/-- A text that ends solid is divided by its first word without anything lost. -/
theorem exists_gap_space {cs : List Char} (hstop : EndsSolid cs) :
    ∃ gap space, cs = gap ++ ((firstWord (trim cs)).1 ++ (space ++ (firstWord (trim cs)).2)) ∧
      (∀ c ∈ gap, isBlank c) ∧ (∀ c ∈ space, isBlank c) ∧
      ((firstWord (trim cs)).2 ≠ [] → space ≠ []) ∧ IsTrimmed (firstWord (trim cs)).2 := by
  obtain ⟨gap, hgap, hcs⟩ := exists_blanks_append_trimStart cs
  rw [hcs] at hstop
  have htrim : trim cs = trimStart cs := trimEnd_eq_self hstop.of_append
  obtain ⟨space, hwords, hspace, hne⟩ := exists_space (trim cs)
  refine ⟨gap, space, ?_, hgap, hspace, hne, startsSolid_trimStart _, ?_⟩
  · rw [← hwords, htrim]
    exact hcs
  · rw [← htrim, hwords] at hstop
    exact hstop.of_append.of_append.of_append

/-! ## Lines that set an overlong height -/

/-- A line that sets the height by more digits than a number is read with. -/
structure OverlongHeight where
  gap : List Char
  keyword : List Char
  space : List Char
  digits : List Char
  gap_blank : ∀ c ∈ gap, isBlank c
  keyword_solid : ∀ c ∈ keyword, isBlank c = false
  keyword_upper : upper keyword = "HEIGHT".toList
  space_blank : ∀ c ∈ space, isBlank c
  space_ne_nil : space ≠ []
  tooMany : TooManyDigits digits

namespace OverlongHeight

/-- The characters of the line, without the blanks around it. -/
def chars (h : OverlongHeight) : List Char :=
  '>' :: (h.gap ++ (h.keyword ++ (h.space ++ h.digits)))

end OverlongHeight

theorem flag?_standard_eq_height_iff {keyword : List Char} :
    Dialect.standard.flag? keyword = some .height ↔ upper keyword = "HEIGHT".toList := by
  rw [← String.ofList_inj, String.ofList_toList, Dialect.flag?]
  constructor
  · intro h
    obtain ⟨before, after, hkeywords, -⟩ := List.lookup_eq_some_iff.mp h
    have hmem : (String.ofList (upper keyword), FlagName.height) ∈ Dialect.standard.keywords := by
      simp [hkeywords]
    simpa [Dialect.standard] using hmem
  · intro h
    rw [h]
    rfl

namespace OverlongHeight

variable (h : OverlongHeight)

theorem keyword_ne_nil : h.keyword ≠ [] := by
  intro hnil
  have hupper := h.keyword_upper
  rw [hnil] at hupper
  exact absurd hupper (by decide)

theorem isTrimmed_digits : IsTrimmed h.digits where
  start := startsSolid_of_forall fun c hc => isBlank_of_isDigit (h.tooMany.digits c hc)
  stop := endsSolid_of_forall fun c hc => isBlank_of_isDigit (h.tooMany.digits c hc)

theorem isTrimmed_words : IsTrimmed (h.keyword ++ (h.space ++ h.digits)) where
  start := (startsSolid_of_forall h.keyword_solid).append h.keyword_ne_nil _
  stop := by
    rw [← List.append_assoc]
    exact h.isTrimmed_digits.stop.append h.tooMany.ne_nil _

theorem isTrimmed_chars : IsTrimmed h.chars where
  start := startsSolid_cons.mpr (by decide)
  stop := (h.isTrimmed_words.stop.append (by simp [h.keyword_ne_nil]) _).append
    (by simp [h.keyword_ne_nil]) ['>']

theorem readFlag_eq_fault :
    readFlag .standard (h.gap ++ (h.keyword ++ (h.space ++ h.digits))) =
      .error (.fault (.tooManyDigits h.digits.length)) := by
  have htrim := trim_eq_self h.isTrimmed_digits
  have hheight : readHeight h.digits = .error (.fault (.tooManyDigits h.digits.length)) :=
    readHeight_eq_fault_iff.mpr (by rw [htrim]; exact ⟨h.tooMany, rfl⟩)
  have hflag := flag?_standard_eq_height_iff.mpr h.keyword_upper
  simp only [readFlag, trim_append h.gap_blank h.isTrimmed_words,
    firstWord_append h.keyword_solid h.space_blank h.space_ne_nil h.isTrimmed_digits.start]
  rw [if_neg (by simpa using h.keyword_ne_nil), hflag]
  show (readHeight h.digits).map Effect.flag = _
  rw [hheight]
  rfl

/-- A line that sets an overlong height has a fault. -/
theorem readLine_eq_fault {text : String} (htext : trim text.toList = h.chars) :
    readLine .standard text.toList = .error (.fault (.tooManyDigits h.digits.length)) := by
  have hskip : ¬IsSkipped .standard text := by
    rw [IsSkipped, htext, chars]
    simp [Dialect.standard]
  rw [readLine_of_eq hskip htext]
  exact h.readFlag_eq_fault

end OverlongHeight

theorem exists_overlongHeight {text : String} {fault : Fault}
    (h : readLine .standard text.toList = .error (.fault fault)) :
    ∃ line : OverlongHeight,
      trim text.toList = line.chars ∧ fault = .tooManyDigits line.digits.length := by
  have hskip : ¬IsSkipped .standard text := by
    intro hskip
    rw [readLine_of_isSkipped hskip] at h
    cases h
  have hflagLine : IsFlagLine .standard text := by
    by_contra hnot
    rcases readLine_of_not_isFlagLine hskip hnot with ⟨kind, body, hread⟩ | ⟨error, hread⟩
    · rw [hread] at h
      exact (faultFree_readEntity (by decide) kind body _).map _ fault h
    · rw [hread] at h
      cases h
  obtain ⟨body, htext⟩ := hflagLine
  rw [readLine_of_eq hskip htext.symm] at h
  obtain ⟨hflag, hmany, hfault⟩ := fault_of_readFlag (by decide) h
  have hstop : EndsSolid body := by
    have hline := (isTrimmed_trim text.toList).stop
    rw [← htext] at hline
    exact hline.of_append
  obtain ⟨gap, space, hbody, hgap, hspace, hne, hdigits⟩ := exists_gap_space hstop
  rw [trim_eq_self hdigits] at hmany hfault
  refine ⟨⟨gap, _, space, _, hgap, isBlank_of_mem_firstWord,
    flag?_standard_eq_height_iff.mp hflag, hspace, hne hmany.ne_nil, hmany⟩, ?_, hfault⟩
  rw [← htext]
  exact congrArg ('>' :: ·) hbody

theorem readLine_standard_eq_fault_iff {text : String} {fault : Fault} :
    readLine .standard text.toList = .error (.fault fault) ↔
      ∃ line : OverlongHeight,
        trim text.toList = line.chars ∧ fault = .tooManyDigits line.digits.length := by
  constructor
  · exact exists_overlongHeight
  · rintro ⟨line, htext, rfl⟩
    exact line.readLine_eq_fault htext

end Chronicle.Script
