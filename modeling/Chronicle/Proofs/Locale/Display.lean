import Chronicle.Locale.Display
import Chronicle.Proofs.Calendar.CanonicalText
import Mathlib.Tactic.Choose

/-!
# Where the text of a date comes from

A rendering looks up the direction of a locale, and then one or two texts or none at all, which depends on the dates
and on the direction (`lookups`).  What these lookups answer is all that it takes from a service: one function makes
the text out of the answers, whichever service has given them (`exists_compose`).  So it fails when one of them does
(`answers?_eq_none_iff`), and the answers of a rendering that has failed are in no text.

*Numbers.*  The text also holds days and years, which the rendering writes itself, and there is none when one of these
cannot be written.  The days of real dates always can.

*Plain names.*  A real date has one of the twelve months, and so plain names have a text for real dates exactly when
the years can be written (`isSome_render_plainNames_iff`).

Together this says what is displayed, and when there is nothing to display (`display_unmixed`).
-/

namespace Chronicle.Locale

open Chronicle.Calendar Chronicle.Text

/-! ## The lookups of a rendering -/

/-- A lookup of a text, with the month or the date that it is about. -/
inductive TextLookup where
  | monthName (month : Int)
  | fullDate (m : Moment)
  deriving DecidableEq

def DateNames.text? (names : DateNames) (code : String) : TextLookup → Option String
  | .monthName month => names.monthName month code
  | .fullDate m => names.fullDate m code

/-- The lookup for a full date. -/
def dateLookup (m : Moment) (rightToLeft : Bool) : TextLookup :=
  if rightToLeft then .monthName m.month else .fullDate m

/-- The lookups for a date or a range in a direction, in their order. -/
def lookups (start : Moment) (stop : Option Moment) (rightToLeft : Bool) : List TextLookup :=
  match stop with
  | none => if start.isYearStart then [] else [dateLookup start rightToLeft]
  | some stop =>
    if start.sameDay stop then [dateLookup start rightToLeft]
    else if start.sameMonth stop then [.monthName start.month]
    else if start.isYearStart && stop.isYearStart then []
    else [dateLookup start rightToLeft, dateLookup stop rightToLeft]

namespace DateNames

variable (names : DateNames) (start : Moment) (stop : Option Moment) (code : String)

/-- Some lookup of a rendering fails. -/
def Fails : Prop :=
  names.isRightToLeft code = none ∨
    ∃ rightToLeft ∈ names.isRightToLeft code, ∃ lookup ∈ lookups start stop rightToLeft,
      names.text? code lookup = none

/-- The answers to the lookups of a rendering: the direction, and the texts. -/
def answers? : Option (Bool × List String) := do
  let rightToLeft ← names.isRightToLeft code
  let texts ← (lookups start stop rightToLeft).mapM (names.text? code)
  return (rightToLeft, texts)

end DateNames

variable {names : DateNames} {start : Moment} {stop : Option Moment} {code : String}

/-- Lookups fail together when one of them does. -/
theorem mapM_eq_none_iff {α β : Type} (f : α → Option β) (as : List α) :
    as.mapM f = none ↔ ∃ a ∈ as, f a = none := by
  induction as with
  | nil => simp
  | cons a rest ih =>
    simp only [List.mapM_cons, List.mem_cons, exists_eq_or_imp, ← ih]
    cases f a <;> cases rest.mapM f <;> simp

theorem answers?_eq_none_iff : names.answers? start stop code = none ↔ names.Fails start stop code := by
  rw [DateNames.answers?, DateNames.Fails]
  cases names.isRightToLeft code with
  | none => simp
  | some rightToLeft =>
    have htexts := mapM_eq_none_iff (names.text? code) (lookups start stop rightToLeft)
    cases hanswers : (lookups start stop rightToLeft).mapM (names.text? code) with
    | none => simpa [hanswers] using htexts
    | some texts => simpa [hanswers] using htexts

/-! ## Texts made of answers -/

/-- A text is made of the answers to these lookups, and of nothing else that a service gives. -/
def MadeOf (ls : List TextLookup) (code : String) (text? : DateNames → Option String) : Prop :=
  ∃ compose : List String → Option String, ∀ names, text? names = (ls.mapM (names.text? code)).bind compose

theorem madeOf_nil (text? : Option String) (code : String) : MadeOf [] code fun _ => text? :=
  ⟨fun _ => text?, fun _ => by simp⟩

theorem madeOf_singleton (lookup : TextLookup) (code : String) (compose : String → Option String) :
    MadeOf [lookup] code fun names => (names.text? code lookup).bind compose := by
  refine ⟨fun texts => compose (texts.headD ""), fun names => ?_⟩
  cases hanswer : names.text? code lookup <;> simp [hanswer]

theorem MadeOf.pair {first last : TextLookup} {text₁? text₂? : DateNames → Option String}
    (h₁ : MadeOf [first] code text₁?) (h₂ : MadeOf [last] code text₂?) (join : String → String → String) :
    MadeOf [first, last] code fun names => do return join (← text₁? names) (← text₂? names) := by
  obtain ⟨compose₁, h₁⟩ := h₁
  obtain ⟨compose₂, h₂⟩ := h₂
  refine ⟨fun texts => do return join (← compose₁ (texts.take 1)) (← compose₂ (texts.drop 1)), fun names => ?_⟩
  dsimp only
  rw [h₁, h₂]
  cases hfirst : names.text? code first with
  | none => simp [hfirst]
  | some text =>
    cases hlast : names.text? code last with
    | none => cases hcompose : compose₁ [text] <;> simp [hfirst, hlast, hcompose]
    | some other => simp [hfirst, hlast]

theorem madeOf_fullDateText (m : Moment) (code : String) (rightToLeft : Bool) :
    MadeOf [dateLookup m rightToLeft] code fun names => fullDateText names m code rightToLeft := by
  cases rightToLeft with
  | true =>
    obtain ⟨compose, hmade⟩ := madeOf_singleton (.monthName m.month) code fun month => do
      return rightToLeftDate (← showInt? m.day) month (← showInt? m.year)
    refine ⟨compose, fun names => Eq.trans ?_ (hmade names)⟩
    cases hmonth : names.monthName m.month code <;> cases hday : showInt? m.day <;>
      simp [fullDateText, DateNames.text?, hmonth, hday]
  | false =>
    obtain ⟨compose, hmade⟩ := madeOf_singleton (.fullDate m) code some
    refine ⟨compose, fun names => Eq.trans ?_ (hmade names)⟩
    simp [fullDateText, DateNames.text?]

theorem madeOf_daysOfMonthText (start stop : Moment) (code : String) (rightToLeft : Bool) :
    MadeOf [.monthName start.month] code fun names => daysOfMonthText names start stop code rightToLeft :=
  madeOf_singleton (.monthName start.month) code fun month => do
    let first ← showInt? start.day
    let last ← showInt? stop.day
    let year ← showInt? start.year
    if rightToLeft then return rightToLeftDate (first ++ "-" ++ last) month year
    else return daysOfMonth first last month year (baseLanguage code)

/-- The text of a date or a range in a direction. -/
def renderToward (names : DateNames) (start : Moment) (stop : Option Moment) (code : String) (rightToLeft : Bool) :
    Option String :=
  match stop with
  | none => renderDate names start code rightToLeft
  | some stop => renderRange names start stop code rightToLeft

theorem render_eq (names : DateNames) (start : Moment) (stop : Option Moment) (code : String) :
    render names start stop code = (names.isRightToLeft code).bind (renderToward names start stop code) := by
  cases stop <;> rfl

theorem madeOf_renderToward (start : Moment) (stop : Option Moment) (code : String) (rightToLeft : Bool) :
    MadeOf (lookups start stop rightToLeft) code fun names => renderToward names start stop code rightToLeft := by
  cases stop with
  | none =>
    unfold lookups renderToward renderDate
    dsimp only
    split
    · exact madeOf_nil _ code
    · exact madeOf_fullDateText start code rightToLeft
  | some stop =>
    unfold lookups renderToward renderRange
    dsimp only
    split
    · exact madeOf_fullDateText start code rightToLeft
    · split
      · exact madeOf_daysOfMonthText start stop code rightToLeft
      · split
        · exact madeOf_nil _ code
        · exact (madeOf_fullDateText start code rightToLeft).pair (madeOf_fullDateText stop code rightToLeft)
            fun first last => first ++ " - " ++ last

/-- One function makes the text out of the answers of any service. -/
theorem exists_compose (start : Moment) (stop : Option Moment) (code : String) :
    ∃ compose : Bool × List String → Option String, ∀ names : DateNames,
      render names start stop code = (names.answers? start stop code).bind compose := by
  have hmade (rightToLeft : Bool) : ∃ compose : List String → Option String, ∀ names : DateNames,
      renderToward names start stop code rightToLeft =
        ((lookups start stop rightToLeft).mapM (names.text? code)).bind compose :=
    madeOf_renderToward start stop code rightToLeft
  choose compose hmade using hmade
  refine ⟨fun (rightToLeft, texts) => compose rightToLeft texts, fun names => ?_⟩
  rw [render_eq, DateNames.answers?]
  cases names.isRightToLeft code with
  | none => simp
  | some rightToLeft =>
    rw [Option.bind_some, hmade]
    cases htexts : (lookups start stop rightToLeft).mapM (names.text? code) <;> simp [htexts]

/-! ## Plain names -/

theorem exists_plainMonth {month : Int} (h : 1 ≤ month ∧ month ≤ 12) :
    ∃ name, monthIn plainMonths month = some name := by
  have hlength : plainMonths.length = 12 := rfl
  have hlt : (month - 1).toNat < plainMonths.length := by omega
  exact ⟨_, List.getElem?_eq_getElem hlt⟩

theorem month_of_real {m : Moment} (h : m.Real) : 1 ≤ m.month ∧ m.month ≤ 12 := ⟨h.1.1, h.1.2.1⟩

theorem showInt?_day_of_real {m : Moment} (h : m.Real) : showInt? m.day = some (numeral m.day) := by
  have hdays := Moment.daysInMonth_le m.year m.month
  obtain ⟨⟨-, -, hfirst, hlast⟩, -⟩ := h
  exact showInt?_of_writable (writable_of_natAbs_le (by omega))

variable {m : Moment} (hreal : m.Real)

section

include hreal

theorem isSome_fullDateText_plainNames_iff (code : String) (rightToLeft : Bool) :
    (fullDateText plainNames m code rightToLeft).isSome = true ↔ Writable m.year := by
  obtain ⟨name, hname⟩ := exists_plainMonth (month_of_real hreal)
  rw [← isSome_showInt?_iff]
  cases rightToLeft <;> cases hyear : showInt? m.year <;>
    simp [fullDateText, plainNames, hname, showInt?_day_of_real hreal, hyear]

theorem isSome_daysOfMonthText_plainNames_iff {stop : Moment} (hstop : stop.Real) (code : String)
    (rightToLeft : Bool) :
    (daysOfMonthText plainNames m stop code rightToLeft).isSome = true ↔ Writable m.year := by
  obtain ⟨name, hname⟩ := exists_plainMonth (month_of_real hreal)
  rw [← isSome_showInt?_iff]
  cases rightToLeft <;> cases hyear : showInt? m.year <;>
    simp [daysOfMonthText, plainNames, hname, showInt?_day_of_real hreal, showInt?_day_of_real hstop, hyear]

end

theorem isSome_renderToward_plainNames_iff (hstart : start.Real) (hstop : ∀ m ∈ stop, m.Real) (code : String)
    (rightToLeft : Bool) :
    (renderToward plainNames start stop code rightToLeft).isSome = true ↔
      Writable start.year ∧ ∀ m ∈ stop, Writable m.year := by
  cases stop with
  | none =>
    have hnone : (∀ m ∈ (none : Option Moment), Writable m.year) ↔ True := by simp
    rw [renderToward, renderDate, hnone, and_true]
    split
    · rw [← isSome_showInt?_iff]
      cases hyear : showInt? start.year <;> simp
    · exact isSome_fullDateText_plainNames_iff hstart code rightToLeft
  | some stop =>
    have hsome : (∀ m ∈ some stop, Writable m.year) ↔ Writable stop.year := by simp
    have hreal := hstop stop rfl
    rw [renderToward, renderRange, hsome]
    split
    · next hday =>
      have hyear : start.year = stop.year := congrArg CivilDate.year (beq_iff_eq.mp hday)
      rw [← hyear, and_self]
      exact isSome_fullDateText_plainNames_iff hstart code rightToLeft
    · split
      · next hmonth =>
        simp only [Moment.sameMonth, Bool.and_eq_true, beq_iff_eq] at hmonth
        rw [← hmonth.1, and_self]
        exact isSome_daysOfMonthText_plainNames_iff hstart hreal code rightToLeft
      · split
        · rw [← isSome_showInt?_iff, ← isSome_showInt?_iff]
          cases hyear : showInt? start.year <;> cases hlast : showInt? stop.year <;> simp
        · rw [← isSome_fullDateText_plainNames_iff hstart code rightToLeft,
            ← isSome_fullDateText_plainNames_iff hreal code rightToLeft]
          cases hfirst : fullDateText plainNames start code rightToLeft <;>
            cases hlast : fullDateText plainNames stop code rightToLeft <;> simp

/-- Plain names have a text for real dates just when the years can be written. -/
theorem isSome_render_plainNames_iff (hstart : start.Real) (hstop : ∀ m ∈ stop, m.Real) :
    (render plainNames start stop code).isSome = true ↔ Writable start.year ∧ ∀ m ∈ stop, Writable m.year := by
  rw [render_eq]
  exact isSome_renderToward_plainNames_iff hstart hstop code (isRightToLeft code)

theorem render_plainNames_eq_none_iff (hstart : start.Real) (hstop : ∀ m ∈ stop, m.Real) :
    render plainNames start stop code = none ↔ ¬Writable start.year ∨ ∃ m ∈ stop, ¬Writable m.year := by
  rw [← Option.not_isSome_iff_eq_none, isSome_render_plainNames_iff hstart hstop]
  simp only [not_and_or, not_forall, exists_prop]

/-! ## The text that is displayed -/

/-- The names that a display asks first: those of a service that counts, and else the usual ones. -/
inductive Asked (usual : DateNames) : Option Service → DateNames → Prop
  | service {service : Service} (h : service.isTruthy = true) : Asked usual (some service) service.toDateNames
  | falsy {service : Service} (h : service.isTruthy = false) : Asked usual (some service) usual
  | none : Asked usual none usual

theorem Asked.eq_activeNames {usual names : DateNames} {service : Option Service} (h : Asked usual service names) :
    activeNames usual service = names := by
  cases h with
  | service h => simp [activeNames, h]
  | falsy h => simp [activeNames, h]
  | none => rfl

theorem display_plainService (usual : DateNames) (start : Moment) (stop : Option Moment) (code : String) :
    display usual (some plainService) start stop code = render plainNames start stop code :=
  Option.or_self

/-- The text that is displayed is made of the answers of one source of names only.  This is the service that is asked,
if none of its lookups fails and the numbers of its text can be written.  Otherwise the text is the one that plain
names give, with the direction that the code tells.  For real dates plain names fail just when a year cannot be
written, and then there is nothing to display. -/
theorem display_unmixed (hstart : start.Real) (hstop : ∀ m ∈ stop, m.Real) (code : String) :
    (∃ compose : Bool × List String → Option String, ∀ names : DateNames,
      (¬names.Fails start stop code → ∃ answers, names.answers? start stop code = some answers ∧
        render names start stop code = compose answers) ∧
      (names.Fails start stop code → render names start stop code = none)) ∧
    (∀ (usual names : DateNames) (service : Option Service), Asked usual service names →
      (∀ text, render names start stop code = some text → display usual service start stop code = some text) ∧
      (render names start stop code = none →
        display usual service start stop code = display usual (some plainService) start stop code)) ∧
    ∀ usual : DateNames,
      display usual (some plainService) start stop code = render plainNames start stop code ∧
      plainNames.isRightToLeft code = some (isRightToLeft code) ∧
      (display usual (some plainService) start stop code = none ↔
        ¬Writable start.year ∨ ∃ m ∈ stop, ¬Writable m.year) := by
  refine ⟨?_, fun usual names service hasked => ?_, fun usual => ?_⟩
  · obtain ⟨compose, hrender⟩ := exists_compose start stop code
    refine ⟨compose, fun names => ⟨fun h => ?_, fun h => ?_⟩⟩
    · rw [← answers?_eq_none_iff, ← Ne, Option.ne_none_iff_exists'] at h
      obtain ⟨answers, hanswers⟩ := h
      exact ⟨answers, hanswers, by rw [hrender, hanswers, Option.bind_some]⟩
    · rw [hrender, answers?_eq_none_iff.mpr h, Option.bind_none]
  · rw [display_plainService, display, hasked.eq_activeNames]
    refine ⟨fun text htext => ?_, fun hnone => ?_⟩
    · rw [htext, Option.some_or]
    · rw [hnone, Option.none_or]
  · rw [display_plainService]
    exact ⟨rfl, rfl, render_plainNames_eq_none_iff hstart hstop⟩

/-- A host that has names for the first three months only. -/
def quarterService : Service where
  isRightToLeft code := some (isRightToLeft code)
  monthName month _ := monthIn ["I", "II", "III"] month
  fullDate m _ := do
    return monthDayYear (← monthIn ["I", "II", "III"] m.month) (← showInt? m.day) (← showInt? m.year)

/-- The host names the first date and fails at the second, so its name for the first is not used. -/
theorem display_unmixed_quarter :
    quarterService.fullDate ⟨⟨2023, 2, 5⟩, 0, 0, 0⟩ "en" = some "II 5, 2023" ∧
      display plainNames (some quarterService) ⟨⟨2023, 2, 5⟩, 0, 0, 0⟩ (some ⟨⟨2023, 6, 1⟩, 0, 0, 0⟩) "en" =
        some "Feb 5, 2023 - Jun 1, 2023" := by
  have hstart : (⟨⟨2023, 2, 5⟩, 0, 0, 0⟩ : Moment).Real := by decide
  have hstop : ∀ m ∈ some (⟨⟨2023, 6, 1⟩, 0, 0, 0⟩ : Moment), m.Real := by
    rintro m ⟨⟩
    decide
  have hfails : quarterService.Fails ⟨⟨2023, 2, 5⟩, 0, 0, 0⟩ (some ⟨⟨2023, 6, 1⟩, 0, 0, 0⟩) "en" :=
    .inr ⟨false, by decide +kernel, .fullDate ⟨⟨2023, 6, 1⟩, 0, 0, 0⟩, by decide, by decide +kernel⟩
  obtain ⟨⟨compose, hnames⟩, hasked, -⟩ := display_unmixed hstart hstop "en"
  have hnone := (hnames quarterService.toDateNames).2 hfails
  refine ⟨by decide +kernel, ?_⟩
  rw [(hasked plainNames _ _ (.service rfl)).2 hnone]
  decide +kernel

/-- A date whose year cannot be written is not displayed, not even in plain names. -/
theorem display_unmixed_farMoment :
    farMoment.Real ∧ display plainNames (some plainService) farMoment none "en" = none := by
  have hstop : ∀ m ∈ (none : Option Moment), m.Real := by rintro m ⟨⟩
  refine ⟨real_farMoment, ?_⟩
  rw [display_plainService, render_plainNames_eq_none_iff real_farMoment hstop]
  exact .inl not_writable_year_farMoment

end Chronicle.Locale
