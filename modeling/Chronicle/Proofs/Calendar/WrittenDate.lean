import Chronicle.Calendar.PartialDate
import Chronicle.Text.Cut
import Mathlib.Data.List.TakeWhile

/-!
# The notation of dates

A `WrittenDate` is a date part by part as an author writes it: a sign, the digits of the year, then
month, day, hour, minute and second as far as they are written, the digits of a fraction, and a `Z`.
Its fields carry the rules of the notation, so every value is a date in the right form.  `chars` writes
it down, and `moment` is what it means.

The reader of partial dates accepts exactly what `chars` writes, and reads the parts back
(`read?_eq_some_iff`).  It takes the longest run of digits for the year, which is right because no
component, fraction or `Z` starts with a digit.
-/

namespace Chronicle.Calendar

open Chronicle.Text

/-- A component of a date is written in two digits. -/
def IsTwoDigits (part : List Char) : Prop := part.length = 2 ∧ ∀ c ∈ part, c.isDigit = true

/-- A date as it is written. -/
structure WrittenDate where
  /-- The sign of the year, if there is one. -/
  sign : List Char := []
  /-- The digits of the year. -/
  year : List Char
  /-- The digits of month, day, hour, minute and second, as far as they are written. -/
  parts : List (List Char) := []
  /-- The digits of the fraction, if there is one. -/
  fraction : List Char := []
  /-- Whether a `Z` ends the date. -/
  zulu : Bool := false
  sign_mem : sign ∈ [[], ['+'], ['-']]
  year_length : 1 ≤ year.length ∧ year.length ≤ 9
  year_digits : ∀ c ∈ year, c.isDigit = true
  parts_length : parts.length ≤ 5
  parts_digits : ∀ part ∈ parts, IsTwoDigits part
  fraction_digits : ∀ c ∈ fraction, c.isDigit = true
  /-- Only a second has a fraction. -/
  fraction_nil : parts.length ≠ 5 → fraction = []

/-- Components, each behind its mark. -/
def componentChars : (marks : List Char) → (parts : List (List Char)) → List Char
  | mark :: marks, part :: parts => mark :: (part ++ componentChars marks parts)
  | _, _ => []

/-- A fraction behind its point. -/
def fractionChars : List Char → List Char
  | [] => []
  | c :: digits => '.' :: c :: digits

namespace WrittenDate

/-- What comes behind the components. -/
def ending (w : WrittenDate) : List Char :=
  fractionChars w.fraction ++ if w.zulu then ['Z'] else []

/-- What comes behind the year. -/
def tail (w : WrittenDate) : List Char :=
  componentChars ['-', '-', 'T', ':', ':'] w.parts ++ w.ending

/-- A date as one text. -/
def chars (w : WrittenDate) : List Char := w.sign ++ (w.year ++ w.tail)

/-- The year with its sign. -/
def signedYear (w : WrittenDate) : Int :=
  if w.sign = ['-'] then -(digitsValue w.year : Int) else digitsValue w.year

/-- A component, or what stands for it when it is not written. -/
def component (w : WrittenDate) (i : Nat) (absent : Int) : Int :=
  match w.parts[i]? with
  | some part => digitsValue part
  | none => absent

/-- What a date means: the first month, the first day and midnight unless something else is written. -/
def moment (w : WrittenDate) : Moment :=
  ⟨⟨w.signedYear, w.component 0 1, w.component 1 1⟩, w.component 2 0, w.component 3 0,
    w.component 4 0⟩

/-- A date as the reader hands it out. -/
def partialDate (w : WrittenDate) : PartialDate := ⟨w.signedYear, w.parts.map digitsValue⟩

theorem moment_partialDate (w : WrittenDate) : w.partialDate.moment = w.moment := by
  have hcomponent (i : Nat) (absent : Int) :
      (((w.parts.map digitsValue)[i]?).map Int.ofNat).getD absent = w.component i absent := by
    rw [List.getElem?_map, component]
    cases w.parts[i]? <;> rfl
  simp only [partialDate, PartialDate.moment, moment, hcomponent]

end WrittenDate

/-! ## Reading what is written -/

theorem exists_of_isTwoDigits {part : List Char} (h : IsTwoDigits part) :
    ∃ tens units, tens.isDigit = true ∧ units.isDigit = true ∧ part = [tens, units] := by
  obtain ⟨hlength, hdigits⟩ := h
  match part, hlength with
  | [tens, units], _ =>
    exact ⟨tens, units, hdigits tens (by simp), hdigits units (by simp), rfl⟩

/-- Components are read back, as many as are written.  When there are fewer than marks, what follows
has to be too short for a further one. -/
theorem readComponents_componentChars {marks : List Char} {parts : List (List Char)}
    (hdigits : ∀ part ∈ parts, IsTwoDigits part) (hlength : parts.length ≤ marks.length)
    {rest : List Char} (hrest : parts.length = marks.length ∨ rest.length < 3) :
    readComponents marks (componentChars marks parts ++ rest) =
      (parts.map digitsValue, rest) := by
  induction marks generalizing parts with
  | nil =>
    obtain rfl := List.length_eq_zero_iff.mp (Nat.le_zero.mp hlength)
    simp [readComponents, componentChars]
  | cons mark marks ih =>
    cases parts with
    | nil =>
      have hshort : rest.length < 3 := hrest.resolve_left (by simp)
      match rest, hshort with
      | [], _ | [_], _ | [_, _], _ => rfl
    | cons part parts =>
      obtain ⟨tens, units, htens, hunits, rfl⟩ := exists_of_isTwoDigits (hdigits part (by simp))
      have hmore := ih (fun part h => hdigits part (List.mem_cons_of_mem _ h))
        (by simpa using hlength) (hrest.imp_left fun h => by simpa using h)
      simp [componentChars, readComponents, htens, hunits, hmore]

theorem dropFraction_fractionChars {digits : List Char} (hdigits : ∀ c ∈ digits, c.isDigit = true)
    {rest : List Char} (hrest : rest = [] ∨ rest = ['Z']) :
    dropFraction (fractionChars digits ++ rest) = rest := by
  have hdrop : rest.dropWhile Char.isDigit = rest := by
    rcases hrest with rfl | rfl <;> rfl
  cases digits with
  | nil => rcases hrest with rfl | rfl <;> rfl
  | cons c digits =>
    have hc := hdigits c (by simp)
    have hmore : ∀ d ∈ digits, d.isDigit = true := fun d h => hdigits d (by simp [h])
    simp [fractionChars, dropFraction, hc, List.dropWhile_append_of_pos hmore, hdrop]

namespace WrittenDate

theorem ending_eq (w : WrittenDate) :
    ∃ last, (last = [] ∨ last = ['Z']) ∧ w.ending = fractionChars w.fraction ++ last := by
  refine ⟨if w.zulu then ['Z'] else [], ?_, rfl⟩
  cases w.zulu <;> simp

/-- The first character behind the year is not a digit. -/
theorem tail_head (w : WrittenDate) {c : Char} {rest : List Char} (h : w.tail = c :: rest) :
    c.isDigit = false := by
  obtain ⟨last, hlast, hending⟩ := w.ending_eq
  rw [tail, hending] at h
  cases hparts : w.parts with
  | nil =>
    cases hfraction : w.fraction with
    | nil =>
      rw [hparts, hfraction] at h
      rcases hlast with rfl | rfl
      · simp [componentChars, fractionChars] at h
      · simp only [componentChars, fractionChars, List.nil_append, List.cons.injEq] at h
        rw [← h.1]
        decide
    | cons d digits =>
      rw [hparts, hfraction] at h
      simp only [componentChars, fractionChars, List.nil_append, List.cons_append,
        List.cons.injEq] at h
      rw [← h.1]
      decide
  | cons part parts =>
    rw [hparts] at h
    simp only [componentChars, List.cons_append, List.cons.injEq] at h
    rw [← h.1]
    decide

theorem span_tail (w : WrittenDate) :
    (w.year ++ w.tail).takeWhile Char.isDigit = w.year ∧
      (w.year ++ w.tail).dropWhile Char.isDigit = w.tail := by
  refine span_append w.year_digits ?_
  cases htail : w.tail with
  | nil => rintro c ⟨⟩
  | cons c rest =>
    rintro c ⟨⟩
    exact w.tail_head htail

theorem readSign_chars (w : WrittenDate) :
    readSign w.chars = (decide (w.sign = ['-']), w.year ++ w.tail) := by
  have hmem := w.sign_mem
  rw [chars]
  simp only [List.mem_cons, List.not_mem_nil, or_false] at hmem
  rcases hmem with hsign | hsign | hsign
  · -- The first digit of the year is neither sign.
    obtain ⟨c, digits, hyear⟩ := List.exists_cons_of_length_pos w.year_length.1
    have hc := w.year_digits c (by simp [hyear])
    rw [hsign, hyear]
    simp only [List.nil_append, List.cons_append]
    unfold readSign
    split
    · next heq =>
      obtain ⟨rfl, -⟩ := List.cons.inj heq
      exact absurd hc (by decide)
    · next heq =>
      obtain ⟨rfl, -⟩ := List.cons.inj heq
      exact absurd hc (by decide)
    · rfl
  · rw [hsign]
    rfl
  · rw [hsign]
    rfl

/-- Every written date is read. -/
theorem read?_chars (w : WrittenDate) : PartialDate.read? w.chars = some w.partialDate := by
  obtain ⟨last, hlast, hending⟩ := w.ending_eq
  have hread : readComponents componentMarks w.tail = (w.parts.map digitsValue, w.ending) := by
    refine @readComponents_componentChars componentMarks _ w.parts_digits w.parts_length _ ?_
    by_cases hfive : w.parts.length = 5
    · exact .inl hfive
    · refine .inr ?_
      rw [hending, w.fraction_nil hfive]
      rcases hlast with rfl | rfl <;> decide
  have hdrop : (if (w.parts.map digitsValue).length = componentMarks.length
      then dropFraction w.ending else w.ending) = last := by
    rw [hending]
    split
    · exact dropFraction_fractionChars w.fraction_digits hlast
    · next hlength =>
      rw [w.fraction_nil (by simpa [componentMarks] using hlength)]
      rfl
  unfold PartialDate.read?
  simp only [w.readSign_chars, w.span_tail.1, w.span_tail.2, hread, hdrop]
  rw [if_pos ⟨w.year_length.1, w.year_length.2, hlast⟩]
  simp [partialDate, signedYear]

end WrittenDate

/-! ## Writing what was read -/

/-- What the reader takes for components is written as such. -/
theorem exists_of_readComponents {marks cs rest : List Char} {values : List Nat}
    (h : readComponents marks cs = (values, rest)) :
    ∃ parts, (∀ part ∈ parts, IsTwoDigits part) ∧ parts.length ≤ marks.length ∧
      parts.map digitsValue = values ∧ cs = componentChars marks parts ++ rest := by
  induction marks generalizing cs values with
  | nil =>
    obtain ⟨rfl, rfl⟩ := Prod.mk.inj h
    exact ⟨[], by simp, by simp, rfl, rfl⟩
  | cons mark marks ih =>
    unfold readComponents at h
    split at h
    · next heq => cases heq
    · next mark' marks' c tens units more heq =>
      obtain ⟨rfl, rfl⟩ := List.cons.inj heq
      split at h
      · next hpart =>
        obtain ⟨rfl, htens, hunits⟩ := hpart
        cases hmore : readComponents marks more with
        | mk values' left =>
          rw [hmore] at h
          obtain ⟨rfl, rfl⟩ := Prod.mk.inj h
          obtain ⟨parts, hdigits, hlength, rfl, rfl⟩ := ih hmore
          refine ⟨[tens, units] :: parts, ?_, by simpa using hlength, rfl, rfl⟩
          intro part hmem
          rcases List.mem_cons.mp hmem with rfl | hmem
          · exact ⟨rfl, by simp [htens, hunits]⟩
          · exact hdigits part hmem
      · obtain ⟨rfl, rfl⟩ := Prod.mk.inj h
        exact ⟨[], by simp, by simp, rfl, rfl⟩
    · obtain ⟨rfl, rfl⟩ := Prod.mk.inj h
      exact ⟨[], by simp, by simp, rfl, rfl⟩

/-- What is dropped as a fraction is written as such. -/
theorem exists_of_dropFraction (cs : List Char) :
    ∃ digits, (∀ c ∈ digits, c.isDigit = true) ∧ cs = fractionChars digits ++ dropFraction cs := by
  unfold dropFraction
  split
  · next c rest =>
    split
    · next hc =>
      refine ⟨c :: rest.takeWhile Char.isDigit, ?_, by simp [fractionChars]⟩
      intro d hd
      rcases List.mem_cons.mp hd with rfl | hd
      · exact hc
      · exact List.mem_takeWhile_imp hd
    · exact ⟨[], by simp, rfl⟩
  · exact ⟨[], by simp, rfl⟩

/-- A fraction is only taken behind all the components. -/
theorem exists_fraction (count : Nat) (tail : List Char) :
    ∃ digits, (∀ c ∈ digits, c.isDigit = true) ∧ (count ≠ componentMarks.length → digits = []) ∧
      tail = fractionChars digits ++
        if count = componentMarks.length then dropFraction tail else tail := by
  by_cases hfive : count = componentMarks.length
  · obtain ⟨digits, hdigits, heq⟩ := exists_of_dropFraction tail
    exact ⟨digits, hdigits, fun hne => absurd hfive hne, by rw [if_pos hfive]; exact heq⟩
  · exact ⟨[], by simp, fun _ => rfl, by rw [if_neg hfive]; rfl⟩

theorem readSign_eq {cs unsigned : List Char} {negative : Bool}
    (h : readSign cs = (negative, unsigned)) :
    ∃ sign ∈ [[], ['+'], ['-']], negative = decide (sign = ['-']) ∧ cs = sign ++ unsigned := by
  unfold readSign at h
  split at h
  · obtain ⟨rfl, rfl⟩ := Prod.mk.inj h
    exact ⟨['-'], by simp, rfl, rfl⟩
  · obtain ⟨rfl, rfl⟩ := Prod.mk.inj h
    exact ⟨['+'], by simp, rfl, rfl⟩
  · obtain ⟨rfl, rfl⟩ := Prod.mk.inj h
    exact ⟨[], by simp, rfl, rfl⟩

/-- Every partial date that is read was written. -/
theorem exists_of_read? {cs : List Char} {p : PartialDate} (h : PartialDate.read? cs = some p) :
    ∃ w : WrittenDate, w.chars = cs ∧ w.partialDate = p := by
  unfold PartialDate.read? at h
  obtain ⟨⟨negative, unsigned⟩, hsign⟩ : ∃ r, readSign cs = r := ⟨_, rfl⟩
  obtain ⟨⟨values, tail⟩, hread⟩ :
      ∃ r, readComponents componentMarks (unsigned.dropWhile Char.isDigit) = r := ⟨_, rfl⟩
  obtain ⟨sign, hmem, rfl, rfl⟩ := readSign_eq hsign
  obtain ⟨parts, hparts, hlength, rfl, htail⟩ := exists_of_readComponents hread
  obtain ⟨fraction, hfraction, hnil, hfront⟩ := exists_fraction (parts.map digitsValue).length tail
  obtain ⟨ending, hending⟩ : ∃ ending, (if (parts.map digitsValue).length = componentMarks.length
      then dropFraction tail else tail) = ending := ⟨_, rfl⟩
  rw [hending] at hfront
  simp only [hsign, hread, hending] at h
  split at h
  · next hform =>
    obtain ⟨hlow, hhigh, hend⟩ := hform
    refine ⟨{
      sign, parts, fraction
      year := unsigned.takeWhile Char.isDigit
      zulu := !ending.isEmpty
      sign_mem := hmem
      year_length := ⟨hlow, hhigh⟩
      year_digits := fun c => List.mem_takeWhile_imp
      parts_length := hlength
      parts_digits := hparts
      fraction_digits := hfraction
      fraction_nil := by rwa [List.length_map] at hnil }, ?_, ?_⟩
    · have hlast : (if !ending.isEmpty then ['Z'] else []) = ending := by
        rcases hend with rfl | rfl <;> rfl
      simp only [WrittenDate.chars, WrittenDate.tail, WrittenDate.ending, hlast, ← hfront]
      exact congrArg _ (htail ▸ List.takeWhile_append_dropWhile)
    · simpa [WrittenDate.partialDate, WrittenDate.signedYear] using h
  · simp at h

theorem read?_eq_some_iff {cs : List Char} {p : PartialDate} :
    PartialDate.read? cs = some p ↔ ∃ w : WrittenDate, w.chars = cs ∧ w.partialDate = p := by
  constructor
  · exact exists_of_read?
  · rintro ⟨w, rfl, rfl⟩
    exact w.read?_chars

end Chronicle.Calendar
