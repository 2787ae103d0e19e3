import Chronicle.Proofs.Locale.Display
import Chronicle.Proofs.Text.Numbers

/-!
# What a text in plain names shows

In plain names a text has one of five forms: a year, a day, days of one month, two years, or two days.  `Shown` has a
constructor for each of them, with what the text is about, and `shown` picks the form by the rules of the rendering.

*Letters and numbers.*  The letters of a text are those of the months that it shows, and its numbers are days and
years (`Tells`).  Languages and directions differ in what stands between these, and in whether the year comes first
where two days share a month (`Shown.numbers`).  Each way of putting a text together has its own lemma, and
`tells_renderToward` is what they add up to.

*One reading.*  The months and the numbers leave no choice between two forms, nor between two dates
(`Shown.eq_of_months_of_numbers`).  What is shown holds both days (`start_shown`, `stop_shown`), and so texts that
look the same show the same days (`sameDay_of_display_eq`).
-/

namespace Chronicle.Locale

open Chronicle.Calendar Chronicle.Text

/-! ## Names of months -/

/-- The short name of a month in English. -/
def plainMonth (month : Int) : String := (monthIn plainMonths month).getD ""

section Months

variable {month : Int} (hmonth : 1 ≤ month ∧ month ≤ 12)

include hmonth

theorem monthIn_plainMonths : monthIn plainMonths month = some (plainMonth month) := by
  obtain ⟨name, hname⟩ := exists_plainMonth hmonth
  rw [plainMonth, hname, Option.getD_some]

theorem plainMonth_mem : plainMonth month ∈ plainMonths :=
  List.mem_of_getElem? (monthIn_plainMonths hmonth)

theorem length_plainMonth : (plainMonth month).toList.length = 3 := by
  have hlengths : ∀ name ∈ plainMonths, name.toList.length = 3 := by decide
  exact hlengths _ (plainMonth_mem hmonth)

theorem filter_isAlpha_plainMonth : (plainMonth month).toList.filter Char.isAlpha = (plainMonth month).toList := by
  have hletters : ∀ name ∈ plainMonths, name.toList.filter Char.isAlpha = name.toList := by decide
  exact hletters _ (plainMonth_mem hmonth)

theorem numbersIn_plainMonth_append (rest : List Char) :
    numbersIn ((plainMonth month).toList ++ rest) = numbersIn rest := by
  have hmarks : ∀ name ∈ plainMonths, name.toList.all (fun c => decide (IsMark c)) = true := by decide
  exact numbersIn_append_of_marks (by simpa using hmarks _ (plainMonth_mem hmonth))

theorem plainMonth_inj {other : Int} (hother : 1 ≤ other ∧ other ≤ 12) (h : plainMonth month = plainMonth other) :
    month = other := by
  have hnames : monthIn plainMonths month = monthIn plainMonths other := by
    rw [monthIn_plainMonths hmonth, monthIn_plainMonths hother, h]
  have hlt : (month - 1).toNat < plainMonths.length := by
    have hlength : plainMonths.length = 12 := rfl
    omega
  have hplace := (List.getElem?_inj hlt (by decide)).mp hnames
  omega

end Months

/-- The letters of the names of some months. -/
def monthLetters (months : List Int) : List Char := months.flatMap fun month => (plainMonth month).toList

theorem length_monthLetters {months : List Int} (hmonths : ∀ month ∈ months, 1 ≤ month ∧ month ≤ 12) :
    (monthLetters months).length = 3 * months.length := by
  induction months with
  | nil => rfl
  | cons month months ih =>
    obtain ⟨hmonth, hmonths⟩ := List.forall_mem_cons.mp hmonths
    rw [monthLetters, List.flatMap_cons, List.length_append, length_plainMonth hmonth, ← monthLetters, ih hmonths,
      List.length_cons]
    omega

/-- Nothing stands between the names here, but they are of one length. -/
theorem monthLetters_inj {months others : List Int} (hmonths : ∀ month ∈ months, 1 ≤ month ∧ month ≤ 12)
    (hothers : ∀ month ∈ others, 1 ≤ month ∧ month ≤ 12) (h : monthLetters months = monthLetters others) :
    months = others := by
  induction months generalizing others with
  | nil =>
    have hlength := length_monthLetters hothers
    rw [← h] at hlength
    exact (List.eq_nil_of_length_eq_zero (by simpa [monthLetters] using hlength.symm)).symm
  | cons month months ih =>
    cases others with
    | nil =>
      have hlength := length_monthLetters hmonths
      rw [h, List.length_cons] at hlength
      exact absurd hlength (by simp [monthLetters])
    | cons other others =>
      obtain ⟨hmonth, hmonths⟩ := List.forall_mem_cons.mp hmonths
      obtain ⟨hother, hothers⟩ := List.forall_mem_cons.mp hothers
      have hlengths : (plainMonth month).toList.length = (plainMonth other).toList.length := by
        rw [length_plainMonth hmonth, length_plainMonth hother]
      obtain ⟨hname, hrest⟩ := List.append_inj h hlengths
      rw [plainMonth_inj hmonth hother (String.toList_inj.mp hname), ih hmonths hothers hrest]

/-! ## Texts that tell months and numbers -/

/-- Languages from left to right that have the year in front of two days of a month. -/
def yearFirst (language : String) : Bool := language = "ja" ∨ language = "zh" ∨ language = "ko"

/-- The letters of a text are those of these months, and its numbers are these. -/
structure Tells (text : String) (months numbers : List Int) : Prop where
  letters : text.toList.filter Char.isAlpha = monthLetters months
  numbers : numbersIn text.toList = numbers

theorem Tells.join {text₁ text₂ : String} {months₁ months₂ numbers₁ numbers₂ : List Int}
    (h₁ : Tells text₁ months₁ numbers₁) (h₂ : Tells text₂ months₂ numbers₂) :
    Tells (text₁ ++ " - " ++ text₂) (months₁ ++ months₂) (numbers₁ ++ numbers₂) where
  letters := by simp [monthLetters, h₁.letters, h₂.letters]
  numbers := by
    have htext : (text₁ ++ " - " ++ text₂).toList = text₁.toList ++ ' ' :: (['-'] ++ ' ' :: text₂.toList) := by simp
    rw [htext, numbersIn_append_mark (by decide), numbersIn_append_mark (by decide), h₁.numbers, h₂.numbers]
    rfl

theorem tells_numeral (n : Int) : Tells (numeral n) [] [n] where
  letters := by simp [monthLetters]
  numbers := by simp

theorem tells_days (first last : Int) : Tells (numeral first ++ "-" ++ numeral last) [] [first, last] where
  letters := by simp [monthLetters]
  numbers := by simp (disch := decide) [numbersIn_intText_append]

theorem tells_yearLabel (year : Int) (language : String) : Tells (yearLabel (numeral year) language) [] [year] := by
  unfold yearLabel yearSuffix
  split_ifs
  all_goals
    constructor
    · simp [monthLetters]
    · simp (disch := decide) [numbersIn_intText_append, numbersIn_cons_mark]

section Dates

variable {month : Int} (hmonth : 1 ≤ month ∧ month ≤ 12)

include hmonth

theorem tells_monthDayYear (day year : Int) :
    Tells (monthDayYear (plainMonth month) (numeral day) (numeral year)) [month] [day, year] where
  letters := by simp [monthDayYear, monthLetters, filter_isAlpha_plainMonth hmonth]
  numbers := by
    simp (disch := decide) [monthDayYear, numbersIn_plainMonth_append hmonth, numbersIn_intText_append,
      numbersIn_cons_mark]

theorem tells_rightToLeftDate {days : String} {numbers : List Int} (hdays : Tells days [] numbers) (year : Int) :
    Tells (rightToLeftDate days (plainMonth month) (numeral year)) [month] (numbers ++ [year]) where
  letters := by
    simp [rightToLeftDate, leftToRightMark, monthLetters, hdays.letters, filter_isAlpha_plainMonth hmonth]
  numbers := by
    simp (disch := decide) [rightToLeftDate, leftToRightMark, numbersIn_append_mark, hdays.numbers,
      numbersIn_plainMonth_append hmonth, numbersIn_cons_mark]

theorem tells_daysOfMonth (first last year : Int) (language : String) :
    Tells (daysOfMonth (numeral first) (numeral last) (plainMonth month) (numeral year) language) [month]
      (if yearFirst language then [year, first, last] else [first, last, year]) where
  letters := by
    unfold daysOfMonth yearLabel yearSuffix
    split_ifs <;> simp [monthLetters, filter_isAlpha_plainMonth hmonth]
  numbers := by
    unfold daysOfMonth yearLabel yearSuffix yearFirst
    split_ifs
    all_goals
      simp (disch := decide) [numbersIn_plainMonth_append hmonth, numbersIn_intText_append, numbersIn_cons_mark]
    -- In what is left the language is both among those with the year first and not.
    all_goals simp_all

end Dates

/-! ## What is shown -/

/-- What a text shows, in each of its forms. -/
inductive Shown where
  | year (year : Int)
  | day (date : CivilDate)
  | days (first : CivilDate) (last : Int)
  | years (first last : Int)
  | dates (first last : CivilDate)

namespace Shown

/-- The day that starts what is shown. -/
def start : Shown → CivilDate
  | year y => ⟨y, 1, 1⟩
  | day date => date
  | days first _ => first
  | years first _ => ⟨first, 1, 1⟩
  | dates first _ => first

/-- The day that ends what is shown. -/
def stop : Shown → CivilDate
  | year y => ⟨y, 1, 1⟩
  | day date => date
  | days first last => { first with day := last }
  | years _ last => ⟨last, 1, 1⟩
  | dates _ last => last

/-- The months that are named, in their order. -/
def months : Shown → List Int
  | year _ | years _ _ => []
  | day date | days date _ => [date.month]
  | dates first last => [first.month, last.month]

/-- The numbers that are written, in their order. -/
def numbers (yearFirst : Bool) : Shown → List Int
  | year y => [y]
  | day date => [date.day, date.year]
  | days first last => if yearFirst then [first.year, first.day, last] else [first.day, last, first.year]
  | years first last => [first, last]
  | dates first last => [first.day, first.year, last.day, last.year]

/-- Two numbers are a day and its year if there is a month, and else two years. -/
theorem eq_of_months_of_numbers {a b : Shown} {yearFirst : Bool} (hmonths : a.months = b.months)
    (hnumbers : a.numbers yearFirst = b.numbers yearFirst) : a = b := by
  cases a <;> cases b <;> cases yearFirst <;> simp_all [months, numbers, CivilDate.ext_iff]

end Shown

/-- What the text of a date or a range shows. -/
def shown (start : Moment) : (stop : Option Moment) → Shown
  | none => if start.isYearStart then .year start.year else .day start.toCivilDate
  | some stop =>
    if start.sameDay stop then .day start.toCivilDate
    else if start.sameMonth stop then .days start.toCivilDate stop.day
    else if start.isYearStart && stop.isYearStart then .years start.year stop.year
    else .dates start.toCivilDate stop.toCivilDate

variable {start : Moment} {stop : Option Moment} {code : String}

theorem eq_of_isYearStart {m : Moment} (h : m.isYearStart = true) : m.toCivilDate = ⟨m.year, 1, 1⟩ := by
  simp only [Moment.isYearStart, Bool.and_eq_true, beq_iff_eq] at h
  rw [CivilDate.ext_iff]
  exact ⟨rfl, h.1.1.1.1, h.1.1.1.2⟩

theorem start_shown : (shown start stop).start = start.toCivilDate := by
  cases stop with
  | none =>
    rw [shown]
    split
    · next hyear => exact (eq_of_isYearStart hyear).symm
    · rfl
  | some stop =>
    rw [shown]
    split_ifs with hday hmonth hyears
    · rfl
    · rfl
    · exact (eq_of_isYearStart (Bool.and_eq_true_iff.mp hyears).1).symm
    · rfl

theorem stop_shown : (shown start stop).stop = (stop.getD start).toCivilDate := by
  cases stop with
  | none =>
    rw [shown]
    split
    · next hyear => exact (eq_of_isYearStart hyear).symm
    · rfl
  | some stop =>
    rw [shown]
    split_ifs with hday hmonth hyears
    · exact beq_iff_eq.mp hday
    · simp only [Moment.sameMonth, Bool.and_eq_true, beq_iff_eq] at hmonth
      rw [CivilDate.ext_iff]
      exact ⟨hmonth.1, hmonth.2, rfl⟩
    · exact (eq_of_isYearStart (Bool.and_eq_true_iff.mp hyears).2).symm
    · rfl

/-- The months of real dates are months of a year. -/
theorem of_mem_months_shown (hstart : start.Real) (hstop : ∀ m ∈ stop, m.Real) :
    ∀ month ∈ (shown start stop).months, 1 ≤ month ∧ month ≤ 12 := by
  cases stop with
  | none =>
    rw [shown]
    split
    · simp [Shown.months]
    · simpa [Shown.months] using month_of_real hstart
  | some stop =>
    rw [shown]
    split_ifs
    · simpa [Shown.months] using month_of_real hstart
    · simpa [Shown.months] using month_of_real hstart
    · simp [Shown.months]
    · simpa [Shown.months] using ⟨month_of_real hstart, month_of_real (hstop stop rfl)⟩

/-! ## Texts in plain names -/

section
variable {text : String} {rightToLeft : Bool}

theorem tells_fullDateText {m : Moment} (hreal : m.Real) (h : fullDateText plainNames m code rightToLeft = some text) :
    Tells text [m.month] [m.day, m.year] := by
  have hmonth := month_of_real hreal
  have hyear := (isSome_fullDateText_plainNames_iff hreal code rightToLeft).mp (Option.isSome_of_mem h)
  cases rightToLeft with
  | true =>
    have htext : rightToLeftDate (numeral m.day) (plainMonth m.month) (numeral m.year) = text := by
      simpa [fullDateText, plainNames, monthIn_plainMonths hmonth, showInt?_day_of_real hreal,
        showInt?_of_writable hyear] using h
    rw [← htext]
    exact tells_rightToLeftDate hmonth (tells_numeral m.day) m.year
  | false =>
    have htext : monthDayYear (plainMonth m.month) (numeral m.day) (numeral m.year) = text := by
      simpa [fullDateText, plainNames, monthIn_plainMonths hmonth, showInt?_day_of_real hreal,
        showInt?_of_writable hyear] using h
    rw [← htext]
    exact tells_monthDayYear hmonth m.day m.year

theorem tells_daysOfMonthText {start stop : Moment} (hstart : start.Real) (hstop : stop.Real)
    (h : daysOfMonthText plainNames start stop code rightToLeft = some text) :
    Tells text [start.month]
      ((Shown.days start.toCivilDate stop.day).numbers (!rightToLeft && yearFirst (baseLanguage code))) := by
  have hmonth := month_of_real hstart
  have hyear := (isSome_daysOfMonthText_plainNames_iff hstart hstop code rightToLeft).mp (Option.isSome_of_mem h)
  cases rightToLeft with
  | true =>
    have htext : rightToLeftDate (numeral start.day ++ "-" ++ numeral stop.day) (plainMonth start.month)
        (numeral start.year) = text := by
      simpa [daysOfMonthText, plainNames, monthIn_plainMonths hmonth, showInt?_day_of_real hstart,
        showInt?_day_of_real hstop, showInt?_of_writable hyear] using h
    rw [← htext]
    exact tells_rightToLeftDate hmonth (tells_days start.day stop.day) start.year
  | false =>
    have htext : daysOfMonth (numeral start.day) (numeral stop.day) (plainMonth start.month) (numeral start.year)
        (baseLanguage code) = text := by
      simpa [daysOfMonthText, plainNames, monthIn_plainMonths hmonth, showInt?_day_of_real hstart,
        showInt?_day_of_real hstop, showInt?_of_writable hyear] using h
    rw [← htext, Bool.not_false, Bool.true_and]
    exact tells_daysOfMonth hmonth start.day stop.day start.year (baseLanguage code)

theorem tells_renderToward (hstart : start.Real) (hstop : ∀ m ∈ stop, m.Real)
    (h : renderToward plainNames start stop code rightToLeft = some text) :
    Tells text (shown start stop).months
      ((shown start stop).numbers (!rightToLeft && yearFirst (baseLanguage code))) := by
  cases stop with
  | none =>
    rw [renderToward, renderDate] at h
    rw [shown]
    split
    · next hyear =>
      rw [if_pos hyear] at h
      obtain ⟨year, hshow, htext⟩ := Option.bind_eq_some_iff.mp h
      obtain rfl := eq_numeral_of_showInt? hshow
      cases rightToLeft with
      | true =>
        cases htext
        exact tells_numeral start.year
      | false =>
        cases htext
        exact tells_yearLabel start.year (baseLanguage code)
    · next hyear =>
      rw [if_neg hyear] at h
      exact tells_fullDateText hstart h
  | some stop =>
    have hreal := hstop stop rfl
    rw [renderToward, renderRange] at h
    rw [shown]
    split_ifs at h ⊢ with hday hmonth hyears
    · exact tells_fullDateText hstart h
    · exact tells_daysOfMonthText hstart hreal h
    · obtain ⟨first, hfirst, h⟩ := Option.bind_eq_some_iff.mp h
      obtain ⟨last, hlast, h⟩ := Option.bind_eq_some_iff.mp h
      obtain rfl := eq_numeral_of_showInt? hfirst
      obtain rfl := eq_numeral_of_showInt? hlast
      cases h
      exact (tells_numeral start.year).join (tells_numeral stop.year)
    · obtain ⟨first, hfirst, h⟩ := Option.bind_eq_some_iff.mp h
      obtain ⟨last, hlast, h⟩ := Option.bind_eq_some_iff.mp h
      cases h
      exact (tells_fullDateText hstart hfirst).join (tells_fullDateText hreal hlast)

theorem tells_display {usual : DateNames} (hstart : start.Real) (hstop : ∀ m ∈ stop, m.Real)
    (h : display usual (some plainService) start stop code = some text) :
    Tells text (shown start stop).months
      ((shown start stop).numbers (!isRightToLeft code && yearFirst (baseLanguage code))) := by
  rw [display_plainService, render_eq] at h
  exact tells_renderToward hstart hstop h

end

/-! ## Texts that look the same -/

variable {usual : DateNames} {text : String} {start₁ start₂ : Moment} {stop₁ stop₂ : Option Moment}

theorem shown_eq_of_display_eq (hstart₁ : start₁.Real) (hstop₁ : ∀ m ∈ stop₁, m.Real) (hstart₂ : start₂.Real)
    (hstop₂ : ∀ m ∈ stop₂, m.Real) (h₁ : display usual (some plainService) start₁ stop₁ code = some text)
    (h₂ : display usual (some plainService) start₂ stop₂ code = some text) :
    shown start₁ stop₁ = shown start₂ stop₂ := by
  have htells₁ := tells_display hstart₁ hstop₁ h₁
  have htells₂ := tells_display hstart₂ hstop₂ h₂
  refine Shown.eq_of_months_of_numbers ?_ (htells₁.numbers.symm.trans htells₂.numbers)
  exact monthLetters_inj (of_mem_months_shown hstart₁ hstop₁) (of_mem_months_shown hstart₂ hstop₂)
    (htells₁.letters.symm.trans htells₂.letters)

/-- Different days never look the same in plain names: dates or ranges with the same text, in whatever locale, start
on the same day and end on the same day.  A date without an end ends on its own day. -/
theorem sameDay_of_display_eq (hstart₁ : start₁.Real) (hstop₁ : ∀ m ∈ stop₁, m.Real) (hstart₂ : start₂.Real)
    (hstop₂ : ∀ m ∈ stop₂, m.Real) (h₁ : display usual (some plainService) start₁ stop₁ code = some text)
    (h₂ : display usual (some plainService) start₂ stop₂ code = some text) :
    (start₁.year = start₂.year ∧ start₁.month = start₂.month ∧ start₁.day = start₂.day) ∧
      (stop₁.getD start₁).year = (stop₂.getD start₂).year ∧ (stop₁.getD start₁).month = (stop₂.getD start₂).month ∧
        (stop₁.getD start₁).day = (stop₂.getD start₂).day := by
  have hshown := shown_eq_of_display_eq hstart₁ hstop₁ hstart₂ hstop₂ h₁ h₂
  rw [← CivilDate.ext_iff, ← CivilDate.ext_iff]
  constructor
  · rw [← start_shown, hshown, start_shown]
  · rw [← stop_shown, hshown, stop_shown]

/-- An hour of the first day of a year. -/
def newYear (hour : Int) : Moment := ⟨⟨2020, 1, 1⟩, hour, 0, 0⟩

/-- A moment of a day, and a range within that day whose end is not even the later of the two. -/
theorem sameDay_of_display_eq_newYear :
    display plainNames (some plainService) (newYear 12) none "en" = some "Jan 1, 2020" ∧
      display plainNames (some plainService) (newYear 13) (some (newYear 0)) "en" = some "Jan 1, 2020" ∧
      ((newYear 12).year = (newYear 13).year ∧ (newYear 12).month = (newYear 13).month ∧
        (newYear 12).day = (newYear 13).day) ∧
      (newYear 12).year = (newYear 0).year ∧ (newYear 12).month = (newYear 0).month ∧
        (newYear 12).day = (newYear 0).day := by
  have htext₁ : display plainNames (some plainService) (newYear 12) none "en" = some "Jan 1, 2020" := by
    decide +kernel
  have htext₂ : display plainNames (some plainService) (newYear 13) (some (newYear 0)) "en" =
      some "Jan 1, 2020" := by decide +kernel
  have hstop : ∀ m ∈ some (newYear 0), m.Real := by
    rintro m ⟨⟩
    decide
  exact ⟨htext₁, htext₂, sameDay_of_display_eq (by decide) (by rintro m ⟨⟩) (by decide) hstop htext₁ htext₂⟩

end Chronicle.Locale
