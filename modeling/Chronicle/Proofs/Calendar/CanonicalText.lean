import Chronicle.Proofs.Calendar.Normalize
import Chronicle.Proofs.Text.Decimal
import Chronicle.Proofs.Text.Trim

/-!
# Canonical texts

The canonical text of a moment and the notation that authors write in are defined apart from each other.  A
canonical text is a sign, the digits of the year and a *tail* of all five components with a `Z` behind
(`isoChars_eq`).

*Reading.*  When the moment is real its components have two digits each, so its text is a date in the notation
as long as the year has no more than nine digits.  Such a moment is *readable*.  The date in the notation
means the moment, and so the text is read back (`normalize_isoChars`).  A longer year has too many digits for
a date (`normalize_isoChars_of_lt`).

*Writing.*  A real moment has a canonical text exactly when its year can be written (`writable_iff_of_real`).  Whatever
is read is readable (`readable_of_normalize`), and then it has one.  The sign, the year and the components can be told
from the text of a real moment, whether or not it is read back (`eq_of_isoChars_eq`).

The main statement is `normalize_isoText_inverse`.
-/

namespace Chronicle.Calendar

open Chronicle.Text

/-! ## Components in two digits -/

theorem paddedInt_of_nonneg {n : Int} (h : 0 ≤ n) (width : Nat) :
    paddedInt width n = paddedNat width n.natAbs :=
  if_neg (Int.not_lt.mpr h)

theorem isTwoDigits_paddedInt {n : Int} (h : 0 ≤ n ∧ n < 100) : IsTwoDigits (paddedInt 2 n) := by
  rw [paddedInt_of_nonneg h.1]
  have hmost : (paddedNat 2 n.natAbs).length ≤ 2 := by
    rw [length_paddedNat_le_iff (Nat.le_refl 2) (by decide)]
    omega
  have hleast : 2 ≤ (paddedNat 2 n.natAbs).length := by
    rw [length_paddedNat]
    exact le_max_left _ _
  exact ⟨Nat.le_antisymm hmost hleast, fun c => isDigit_of_mem_paddedNat⟩

theorem digitsValue_paddedInt {n : Int} (h : 0 ≤ n) (width : Nat) :
    (digitsValue (paddedInt width n) : Int) = n := by
  rw [paddedInt_of_nonneg h, digitsValue_paddedNat]
  exact Int.natAbs_of_nonneg h

namespace Moment

/-! ## Parts of a canonical text -/

/-- The sign in front of the year. -/
def sign (m : Moment) : List Char := if m.year < 0 then ['-'] else []

/-- The digits of the year. -/
def yearDigits (m : Moment) : List Char := paddedNat 4 m.year.natAbs

/-- The components behind the year. -/
def parts (m : Moment) : List (List Char) :=
  [paddedInt 2 m.month, paddedInt 2 m.day, paddedInt 2 m.hour, paddedInt 2 m.minute,
    paddedInt 2 m.second]

/-- What stands behind the year. -/
def tail (m : Moment) : List Char := componentChars componentMarks m.parts ++ ['Z']

theorem isoChars_eq (m : Moment) : m.isoChars = m.sign ++ (m.yearDigits ++ m.tail) := by
  have htail : m.tail =
      '-' :: (paddedInt 2 m.month ++ '-' :: (paddedInt 2 m.day ++ 'T' :: (paddedInt 2 m.hour ++
        ':' :: (paddedInt 2 m.minute ++ ':' :: (paddedInt 2 m.second ++ ['Z']))))) := by
    simp [tail, parts, componentMarks, componentChars]
  have hyear : yearText m.year = m.sign ++ m.yearDigits := by
    rw [yearText, sign, yearDigits]
    split <;> rfl
  rw [isoChars, CivilDate.isoChars, hyear, htail]
  simp only [List.append_assoc, List.cons_append]

theorem isDigit_of_mem_yearDigits {m : Moment} {c : Char} (h : c ∈ m.yearDigits) :
    c.isDigit = true :=
  isDigit_of_mem_paddedNat h

theorem yearDigits_pos (m : Moment) : 1 ≤ m.yearDigits.length := by
  rw [yearDigits, length_paddedNat]
  exact Nat.le_trans (by decide) (le_max_left 4 _)

theorem exists_yearDigits_eq (m : Moment) :
    ∃ c digits, m.yearDigits = c :: digits ∧ c.isDigit = true := by
  obtain ⟨c, digits, hyear⟩ := List.exists_cons_of_length_pos m.yearDigits_pos
  have hmem : c ∈ m.yearDigits := hyear ▸ List.mem_cons_self
  exact ⟨c, digits, hyear, isDigit_of_mem_yearDigits hmem⟩

theorem length_yearDigits_le_iff (m : Moment) :
    m.yearDigits.length ≤ 9 ↔ m.year.natAbs ≤ 999999999 := by
  rw [yearDigits, length_paddedNat_le_iff (by decide) (by decide)]
  omega

theorem isTwoDigits_of_mem_parts {m : Moment} (h : m.Real) : ∀ part ∈ m.parts, IsTwoDigits part := by
  obtain ⟨⟨hlow, hhigh, hfirst, hlast⟩, hhour, hminute, hsecond⟩ := h
  have hdays := daysInMonth_le m.year m.month
  intro part hpart
  simp only [parts, List.mem_cons, List.not_mem_nil, or_false] at hpart
  rcases hpart with rfl | rfl | rfl | rfl | rfl
  all_goals exact isTwoDigits_paddedInt (by omega)

/-- Both a year and a component have their digits behind a minus sign, or none in front of them. -/
theorem isDigit_of_mem_signed {n : Int} {width width' size : Nat} {c : Char}
    (h : c ∈ if n < 0 then '-' :: paddedNat width size else paddedNat width' size) :
    c.isDigit = true ∨ c = '-' := by
  split at h
  · rcases List.mem_cons.mp h with rfl | hdigit
    · exact .inr rfl
    · exact .inl (isDigit_of_mem_paddedNat hdigit)
  · exact .inl (isDigit_of_mem_paddedNat h)

/-- A canonical text is made of digits and a few marks. -/
theorem isDigit_of_mem_isoChars {m : Moment} {c : Char} (h : c ∈ m.isoChars) :
    c.isDigit = true ∨ c ∈ ['-', 'T', ':', 'Z'] := by
  have hyear : c ∈ yearText m.year → c.isDigit = true ∨ c = '-' := isDigit_of_mem_signed
  have hpart {n : Int} : c ∈ paddedInt 2 n → c.isDigit = true ∨ c = '-' := isDigit_of_mem_signed
  simp only [isoChars, CivilDate.isoChars, List.mem_append, List.mem_cons, List.not_mem_nil, or_false] at h ⊢
  grind

theorem not_mem_isoChars {m : Moment} {c : Char} (hdigit : c.isDigit = false)
    (hmark : c ∉ ['-', 'T', ':', 'Z']) : c ∉ m.isoChars := by
  intro hmem
  rcases isDigit_of_mem_isoChars hmem with h | h
  · rw [h] at hdigit
    cases hdigit
  · exact hmark h

/-- The text of a moment starts with a digit or a minus sign and ends with a letter. -/
theorem isTrimmed_isoChars (m : Moment) : IsTrimmed m.isoChars := by
  constructor
  · obtain ⟨c, digits, hyear, hc⟩ := m.exists_yearDigits_eq
    rw [isoChars_eq, sign, hyear]
    split
    · exact startsSolid_cons.mpr (by decide)
    · exact startsSolid_cons.mpr (isBlank_of_isDigit hc)
  · have hend : m.isoChars =
        (m.sign ++ (m.yearDigits ++ componentChars componentMarks m.parts)) ++ ['Z'] := by
      rw [isoChars_eq, tail]
      simp only [List.append_assoc]
    rw [hend]
    exact EndsSolid.append (by rintro c ⟨⟩; decide) (by decide) _

theorem trim_isoChars (m : Moment) : trim (String.ofList m.isoChars).toList = m.isoChars := by
  rw [String.toList_ofList, trim_eq_self m.isTrimmed_isoChars]

/-! ## Moments that can be written -/

/-- Of the numbers of a real moment only the year can be too long. -/
theorem writable_iff_of_real {m : Moment} (h : m.Real) : m.Writable ↔ Text.Writable m.year := by
  obtain ⟨⟨hlow, hhigh, hfirst, hlast⟩, hhour, hminute, hsecond⟩ := h
  have hdays := daysInMonth_le m.year m.month
  refine ⟨fun hwritable => hwritable.1.1, fun hyear => ⟨⟨hyear, ?_, ?_⟩, ?_, ?_, ?_⟩⟩
  all_goals exact writable_of_natAbs_le (by omega)

/-! ## Readable moments -/

/-- A moment whose canonical text is read back. -/
structure Readable (m : Moment) : Prop where
  real : m.Real
  /-- The year has no more than nine digits. -/
  year : m.year.natAbs ≤ 999999999

/-- The canonical text of a readable moment as a date in the notation. -/
def Readable.written {m : Moment} (h : m.Readable) : WrittenDate where
  sign := m.sign
  year := m.yearDigits
  parts := m.parts
  zulu := true
  sign_mem := by
    rw [Moment.sign]
    split <;> simp
  year_length := ⟨m.yearDigits_pos, m.length_yearDigits_le_iff.mpr h.year⟩
  year_digits _ hc := isDigit_of_mem_yearDigits hc
  parts_length := by simp [Moment.parts]
  parts_digits := isTwoDigits_of_mem_parts h.real
  fraction_digits c hc := absurd hc List.not_mem_nil
  fraction_nil _ := rfl

theorem Readable.isoText?_eq {m : Moment} (h : m.Readable) : m.isoText? = some (String.ofList m.isoChars) :=
  isoText?_of_writable ((writable_iff_of_real h.real).mpr (writable_of_natAbs_le h.year))

theorem Readable.chars_written {m : Moment} (h : m.Readable) : h.written.chars = m.isoChars :=
  m.isoChars_eq.symm

theorem signedYear_sign (m : Moment) :
    (if m.sign = ['-'] then -(digitsValue m.yearDigits : Int) else digitsValue m.yearDigits) =
      m.year := by
  rw [yearDigits, digitsValue_paddedNat, sign]
  by_cases hneg : m.year < 0
  · rw [if_pos hneg, if_pos rfl]
    omega
  · rw [if_neg hneg, if_neg (by decide)]
    omega

theorem Readable.moment_written {m : Moment} (h : m.Readable) : h.written.moment = m := by
  obtain ⟨⟨hlow, -, hfirst, -⟩, hhour, hminute, hsecond⟩ := h.real
  have hyear : h.written.signedYear = m.year := m.signedYear_sign
  have hmonth : h.written.component 0 1 = m.month := digitsValue_paddedInt (by omega) 2
  have hday : h.written.component 1 1 = m.day := digitsValue_paddedInt (by omega) 2
  have hhour' : h.written.component 2 0 = m.hour := digitsValue_paddedInt hhour.1 2
  have hminute' : h.written.component 3 0 = m.minute := digitsValue_paddedInt hminute.1 2
  have hsecond' : h.written.component 4 0 = m.second := digitsValue_paddedInt hsecond.1 2
  rw [WrittenDate.moment, hyear, hmonth, hday, hhour', hminute', hsecond']

theorem Readable.normalize_isoChars {m : Moment} (h : m.Readable) :
    normalize (String.ofList m.isoChars) = .ok m := by
  have hchars : h.written.chars = trim (String.ofList m.isoChars).toList := by rw [h.chars_written, trim_isoChars]
  rw [normalize_of_chars hchars, h.moment_written, check_eq_ok_iff]
  exact ⟨h.real, rfl⟩

end Moment

/-! ## What is read is readable -/

theorem WrittenDate.natAbs_signedYear_le (w : WrittenDate) : w.signedYear.natAbs ≤ 999999999 := by
  have hvalue : digitsValue w.year < 10 ^ 9 :=
    Nat.lt_of_lt_of_le (digitsValue_lt w.year_digits)
      (Nat.pow_le_pow_right (by decide) w.year_length.2)
  rw [signedYear]
  split
  · omega
  · omega

theorem readable_of_normalize {text : String} {m : Moment} (h : normalize text = .ok m) :
    m.Readable := by
  by_cases hwritten : ∃ w : WrittenDate, w.chars = trim text.toList
  · obtain ⟨w, hw⟩ := hwritten
    rw [normalize_of_chars hw, Moment.check_eq_ok_iff] at h
    obtain ⟨hreal, rfl⟩ := h
    exact ⟨hreal, w.natAbs_signedYear_le⟩
  · rw [normalize_of_not_written hwritten] at h
    cases h

/-! ## Errors about what is written -/

theorem WrittenDate.natAbs_component_le (w : WrittenDate) (i : Nat) {absent : Int} (h : absent.natAbs ≤ 99) :
    (w.component i absent).natAbs ≤ 99 := by
  rw [component]
  split
  · next part hpart =>
    obtain ⟨hlength, hdigits⟩ := w.parts_digits part (List.mem_of_getElem? hpart)
    have hvalue := digitsValue_lt hdigits
    rw [hlength] at hvalue
    omega
  · exact h

/-- The numbers of a written date have few digits. -/
theorem WrittenDate.writable_moment (w : WrittenDate) : w.moment.Writable := by
  have hcomponent (i : Nat) {absent : Int} (h : absent.natAbs ≤ 99) : Text.Writable (w.component i absent) :=
    writable_of_natAbs_le (Nat.le_trans (w.natAbs_component_le i h) (by decide))
  refine ⟨⟨writable_of_natAbs_le w.natAbs_signedYear_le, ?_, ?_⟩, ?_, ?_, ?_⟩
  all_goals exact hcomponent _ (by decide)

/-- An error is about numbers of the moment. -/
theorem Moment.FirstFault.writable {m : Moment} {e : DateError} (h : m.FirstFault e) (hm : m.Writable) :
    e.Writable := by
  obtain ⟨hdate, hhour, hminute, hsecond⟩ := hm
  cases h with
  | month => exact hdate.2.1
  | day => exact hdate.2.2
  | hour => exact hhour
  | minute => exact hminute
  | second => exact hsecond
  | unreal => exact hdate

theorem writable_of_normalize {text : String} {e : DateError} (h : normalize text = .error e) : e.Writable := by
  by_cases hwritten : ∃ w : WrittenDate, w.chars = trim text.toList
  · obtain ⟨w, hw⟩ := hwritten
    rw [normalize_of_chars hw, Moment.check_eq_error_iff] at h
    exact h.writable w.writable_moment
  · rw [normalize_of_not_written hwritten] at h
    cases h
    trivial

/-! ## Parts are told from the text -/

namespace Moment

variable {a b m : Moment}

theorem readSign_isoChars (m : Moment) :
    readSign m.isoChars = (decide (m.year < 0), m.yearDigits ++ m.tail) := by
  rw [isoChars_eq, sign]
  split
  · next hneg => simp [readSign, hneg]
  · next hpos =>
    obtain ⟨c, digits, hyear, hc⟩ := m.exists_yearDigits_eq
    rw [hyear, List.nil_append, List.cons_append, decide_eq_false hpos]
    -- The first digit of the year is neither sign.
    unfold readSign
    split
    · next heq =>
      obtain ⟨rfl, -⟩ := List.cons.inj heq
      exact absurd hc (by decide)
    · next heq =>
      obtain ⟨rfl, -⟩ := List.cons.inj heq
      exact absurd hc (by decide)
    · rfl

theorem span_isoChars (m : Moment) :
    (m.yearDigits ++ m.tail).takeWhile Char.isDigit = m.yearDigits ∧
      (m.yearDigits ++ m.tail).dropWhile Char.isDigit = m.tail := by
  refine span_append (fun c => isDigit_of_mem_yearDigits) ?_
  rintro c ⟨⟩
  rfl

theorem readComponents_tail (h : m.Real) :
    readComponents componentMarks m.tail = (m.parts.map digitsValue, ['Z']) :=
  @readComponents_componentChars componentMarks _ (isTwoDigits_of_mem_parts h) (Nat.le_refl 5) _ (.inl rfl)

/-- A year with more than nine digits is not read. -/
theorem normalize_isoChars_of_lt (h : 999999999 < m.year.natAbs) :
    normalize (String.ofList m.isoChars) = .error (.shape (String.ofList m.isoChars)) := by
  have hlong : ¬ m.yearDigits.length ≤ 9 := by
    rw [length_yearDigits_le_iff]
    omega
  have hread : PartialDate.read? m.isoChars = none := by
    unfold PartialDate.read?
    simp only [readSign_isoChars, m.span_isoChars.1]
    rw [if_neg fun hform => hlong hform.2.1]
  rw [normalize, trim_isoChars, hread]

/-- The components of a real moment as numbers. -/
theorem map_digitsValue_parts (h : m.Real) :
    m.parts.map (fun part => (digitsValue part : Int)) =
      [m.month, m.day, m.hour, m.minute, m.second] := by
  obtain ⟨⟨hlow, -, hfirst, -⟩, hhour, hminute, hsecond⟩ := h
  have hmonth := digitsValue_paddedInt (n := m.month) (by omega) 2
  have hday := digitsValue_paddedInt (n := m.day) (by omega) 2
  have hhour' := digitsValue_paddedInt hhour.1 2
  have hminute' := digitsValue_paddedInt hminute.1 2
  have hsecond' := digitsValue_paddedInt hsecond.1 2
  simp only [parts, List.map_cons, List.map_nil, hmonth, hday, hhour', hminute', hsecond']

theorem year_eq_of_isoChars_eq (h : a.isoChars = b.isoChars) : a.year = b.year := by
  have hsign := congrArg readSign h
  rw [readSign_isoChars, readSign_isoChars, Prod.mk.injEq, decide_eq_decide] at hsign
  obtain ⟨hneg, hunsigned⟩ := hsign
  have hdigits : a.yearDigits = b.yearDigits := by
    rw [← a.span_isoChars.1, hunsigned, b.span_isoChars.1]
  have hsize := congrArg digitsValue hdigits
  rw [yearDigits, yearDigits, digitsValue_paddedNat, digitsValue_paddedNat] at hsize
  omega

theorem tail_eq_of_isoChars_eq (h : a.isoChars = b.isoChars) : a.tail = b.tail := by
  have hsign := congrArg readSign h
  rw [readSign_isoChars, readSign_isoChars, Prod.mk.injEq] at hsign
  rw [← a.span_isoChars.2, hsign.2, b.span_isoChars.2]

/-- The sign, the year and the components of a real moment can be told from its text. -/
theorem eq_of_isoChars_eq (ha : a.Real) (hb : b.Real) (h : a.isoChars = b.isoChars) : a = b := by
  have hyear := year_eq_of_isoChars_eq h
  have hread := congrArg (readComponents componentMarks) (tail_eq_of_isoChars_eq h)
  rw [readComponents_tail ha, readComponents_tail hb, Prod.mk.injEq] at hread
  have hparts := congrArg (List.map Int.ofNat) hread.1
  rw [List.map_map, List.map_map] at hparts
  have hvalues := (map_digitsValue_parts ha).symm.trans (hparts.trans (map_digitsValue_parts hb))
  obtain ⟨⟨yearA, monthA, dayA⟩, hourA, minuteA, secondA⟩ := a
  obtain ⟨⟨yearB, monthB, dayB⟩, hourB, minuteB, secondB⟩ := b
  simp only [List.cons.injEq, and_true] at hvalues hyear
  obtain ⟨rfl, rfl, rfl, rfl, rfl⟩ := hvalues
  rw [hyear]

end Moment

/-! ## Texts and moments -/

theorem isoText?_eq_some_iff {m : Moment} {text : String} :
    m.isoText? = some text ↔ m.Writable ∧ text = String.ofList m.isoChars := by
  by_cases h : m.Writable
  · simp [isoText?_of_writable h, h, eq_comm]
  · simp [isoText?_of_not_writable h, h]

/-- A day of the first year that cannot be written. -/
def farMoment : Moment := ⟨⟨10 ^ digitLimit, 2, 3⟩, 0, 0, 0⟩

theorem real_farMoment : farMoment.Real := by
  have hdays : 3 ≤ daysInMonth (10 ^ digitLimit) 2 := by
    rw [daysInMonth, if_pos rfl]
    split <;> decide
  exact ⟨⟨by decide, by decide, by decide, hdays⟩, by decide, by decide, by decide⟩

theorem not_writable_year_farMoment : ¬Writable farMoment.year := not_writable_pow

/-- A moment without a fault is read back from its canonical text if its year has no more than nine digits.  Moments
are told apart by their texts.  Whatever a text means, the canonical text of it means the same and stays as it is.  A
moment with a longer year is refused for the shape of its text, as long as the year can be written.  With a year that
cannot be written there is no canonical text. -/
theorem normalize_isoText_inverse :
    (∀ m : Moment, m.fault? = none → m.year.natAbs ≤ 999999999 →
      ∃ text, m.isoText? = some text ∧ normalize text = .ok m) ∧
    (∀ (a b : Moment) (text : String), a.fault? = none → b.fault? = none →
      a.isoText? = some text → b.isoText? = some text → a = b) ∧
    (∀ (text : String) (m : Moment), normalize text = .ok m →
      ∃ again, m.isoText? = some again ∧ normalize again = normalize text ∧
        (normalize again).map Moment.isoText? = .ok (some again)) ∧
    (∀ m : Moment, m.fault? = none → 999999999 < m.year.natAbs → m.year.natAbs < 10 ^ digitLimit →
      ∃ text, m.isoText? = some text ∧ normalize text = .error (.shape text)) ∧
    ∀ m : Moment, m.fault? = none → 10 ^ digitLimit ≤ m.year.natAbs → m.isoText? = none := by
  simp only [Moment.fault?_eq_none_iff]
  refine ⟨fun m hreal hyear => ?_, fun a b text ha hb hleft hright => ?_, fun text m h => ?_,
    fun m hreal hlong hyear => ?_, fun m hreal hyear => ?_⟩
  · have hreadable : m.Readable := ⟨hreal, hyear⟩
    exact ⟨_, hreadable.isoText?_eq, hreadable.normalize_isoChars⟩
  · obtain ⟨-, rfl⟩ := isoText?_eq_some_iff.mp hleft
    obtain ⟨-, htext⟩ := isoText?_eq_some_iff.mp hright
    exact Moment.eq_of_isoChars_eq ha hb (String.ofList_injective htext)
  · have hreadable := readable_of_normalize h
    refine ⟨_, hreadable.isoText?_eq, ?_, ?_⟩
    · rw [hreadable.normalize_isoChars, h]
    · rw [hreadable.normalize_isoChars, Except.map, hreadable.isoText?_eq]
  · have hwritable := (Moment.writable_iff_of_real hreal).mpr (writable_iff.mpr hyear)
    exact ⟨_, isoText?_of_writable hwritable, Moment.normalize_isoChars_of_lt hlong⟩
  · refine isoText?_of_not_writable fun hwritable => ?_
    exact not_writable_iff.mpr hyear ((Moment.writable_iff_of_real hreal).mp hwritable)

/-- A day before year 0, written with a sign and a short year, and years that are too long, the first one to be read
and the other one even to be written. -/
theorem normalize_isoText_inverse_ides :
    (∃ text, (⟨⟨-44, 3, 15⟩, 12, 0, 0⟩ : Moment).isoText? = some text ∧
      normalize text = .ok ⟨⟨-44, 3, 15⟩, 12, 0, 0⟩) ∧
    (∃ again, (⟨⟨-44, 3, 15⟩, 12, 0, 0⟩ : Moment).isoText? = some again ∧
      normalize again = normalize "-44-03-15T12Z") ∧
    (⟨⟨-44, 3, 15⟩, 12, 0, 0⟩ : Moment).isoText? ≠ (⟨⟨44, 3, 15⟩, 12, 0, 0⟩ : Moment).isoText? ∧
    (∃ text, (⟨⟨1000000000, 1, 1⟩, 0, 0, 0⟩ : Moment).isoText? = some text ∧
      normalize text = .error (.shape text)) ∧
    farMoment.isoText? = none := by
  obtain ⟨hback, hapart, hsame, hlong, hnone⟩ := normalize_isoText_inverse
  have hread : normalize "-44-03-15T12Z" = .ok ⟨⟨-44, 3, 15⟩, 12, 0, 0⟩ := by decide +kernel
  obtain ⟨text, htext, hnormal⟩ := hback ⟨⟨-44, 3, 15⟩, 12, 0, 0⟩ (by decide) (by decide)
  obtain ⟨again, hagain, hmeans, -⟩ := hsame _ _ hread
  refine ⟨⟨text, htext, hnormal⟩, ⟨again, hagain, hmeans⟩, fun h => ?_, ?_, ?_⟩
  · exact absurd (hapart _ _ text (by decide) (by decide) htext (h ▸ htext)) (by decide)
  · exact hlong _ (by decide) (by decide) (writable_iff.mp (by decide))
  · exact hnone _ (Moment.fault?_eq_none_iff.mpr real_farMoment) (not_writable_iff.mp not_writable_year_farMoment)

/-- A moment without a fault, with a year of more than nine digits, that is not refused for the shape of its text,
since it has none. -/
theorem normalize_isoText_inverse_farMoment :
    farMoment.fault? = none ∧ 999999999 < farMoment.year.natAbs ∧
      ¬∃ text, farMoment.isoText? = some text ∧ normalize text = .error (.shape text) := by
  refine ⟨Moment.fault?_eq_none_iff.mpr real_farMoment, ?_, ?_⟩
  · exact Nat.lt_of_not_le fun h => not_writable_year_farMoment (writable_of_natAbs_le h)
  · rintro ⟨text, htext, -⟩
    exact not_writable_year_farMoment (isoText?_eq_some_iff.mp htext).1.1.1

end Chronicle.Calendar
