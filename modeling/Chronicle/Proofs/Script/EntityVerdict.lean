import Chronicle.Proofs.Script.LineForm
import Chronicle.Proofs.Script.LineParts
import Chronicle.Proofs.Script.Run
import Chronicle.Proofs.Timeline.WellFormed

/-!
# What an entity line comes to

A line of the standard dialect that is neither skipped nor a flag line is an *entity line*.  It comes to one
`Verdict`: it is not recognized, one of its dates is refused, its dates are in the wrong order, or it declares an
item or a marker with certain dates.

`Judged` says which verdict a text gets, by the parts that the text is made of and without reading it.  It has one
constructor for each way to a verdict, and these exclude each other: a date is only looked at when the brackets are
there, the end only when the start is fine, and whether the kind takes an end only when both are.

The main statement is `step_entityLine`.  Every entity line gets one verdict, and this is what becomes of it.
-/

namespace Chronicle.Script

open Chronicle.Calendar Chronicle.Text Chronicle.Timeline

/-! ## Dates -/

/-- An entity line has the texts of its dates where they belong. -/
def HasDates (text : List Char) (kind : EntityKind) (startText : List Char) (stopText : Option (List Char)) :
    Prop :=
  ∃ body dates rest, StartsAs text kind body ∧ Bracketed body dates rest ∧ CutDates dates startText stopText

/-- Dates that are read from their texts and are in order. -/
inductive InOrder : (startText : List Char) → (stopText : Option (List Char)) → Moment → Option Moment → Prop where
  | single {startText : List Char} {start : Moment} (h : normalize (String.ofList startText) = .ok start) :
    InOrder startText none start none
  | range {startText stopText : List Char} {start stop : Moment}
      (hstart : normalize (String.ofList startText) = .ok start)
      (hstop : normalize (String.ofList stopText) = .ok stop) (h : stop.isBefore start = false) :
    InOrder startText (some stopText) start (some stop)

/-! ## Verdicts -/

/-- What an entity line can come to. -/
inductive Verdict where
  | unrecognized
  | date (cause : DateError)
  | reversed
  | item (kind : ItemKind) (start : Moment) (stop : Option Moment)
  | marker (start : Moment)
  deriving DecidableEq, Repr

/-- The verdict on the text of an entity line. -/
inductive Judged (text : List Char) : Verdict → Prop where
  | noKind (h : ¬∃ kind body, StartsAs text kind body) : Judged text .unrecognized
  | noDates {kind : EntityKind} {body : List Char} (hstart : StartsAs text kind body)
      (h : ¬∃ dates rest, Bracketed body dates rest) : Judged text .unrecognized
  | startRefused {kind : EntityKind} {startText : List Char} {stopText : Option (List Char)} {cause : DateError}
      (hdates : HasDates text kind startText stopText)
      (h : normalize (String.ofList startText) = .error cause) : Judged text (.date cause)
  | stopRefused {kind : EntityKind} {startText stopText : List Char} {start : Moment} {cause : DateError}
      (hdates : HasDates text kind startText (some stopText))
      (hstart : normalize (String.ofList startText) = .ok start)
      (h : normalize (String.ofList stopText) = .error cause) : Judged text (.date cause)
  | reversed {kind : EntityKind} {startText stopText : List Char} {start stop : Moment}
      (hdates : HasDates text kind startText (some stopText))
      (hstart : normalize (String.ofList startText) = .ok start)
      (hstop : normalize (String.ofList stopText) = .ok stop) (h : stop.isBefore start = true) :
      Judged text .reversed
  | unfitItem {kind : ItemKind} {startText : List Char} {stopText : Option (List Char)} {start : Moment}
      {stop : Option Moment} (hdates : HasDates text (.item kind) startText stopText)
      (horder : InOrder startText stopText start stop) (h : ¬FitsKind kind stop) : Judged text .unrecognized
  | unfitMarker {startText : List Char} {stopText : Option (List Char)} {start : Moment} {stop : Option Moment}
      (hdates : HasDates text .marker startText stopText) (horder : InOrder startText stopText start stop)
      (h : stop ≠ none) : Judged text .unrecognized
  | item {kind : ItemKind} {startText : List Char} {stopText : Option (List Char)} {start : Moment}
      {stop : Option Moment} (hdates : HasDates text (.item kind) startText stopText)
      (horder : InOrder startText stopText start stop) (h : FitsKind kind stop) :
      Judged text (.item kind start stop)
  | marker {startText : List Char} {stopText : Option (List Char)} {start : Moment}
      (hdates : HasDates text .marker startText stopText) (horder : InOrder startText stopText start none) :
      Judged text (.marker start)

/-- What becomes of the progress on a line with a verdict.  A line that is refused adds one issue, and a line that
is not adds one item or one marker with these dates. -/
def Verdict.Holds (number : Nat) (p p' : Progress) : Verdict → Prop
  | .unrecognized => ∃ error : LineError, error.label = "UnrecognizedEntityLine" ∧ p' = p.note number error
  | .date cause => p' = p.note number (.date cause)
  | .reversed => ∃ error : LineError, error.label = "InvalidRange" ∧ p' = p.note number error
  | .item kind start stop =>
    (∃ item : Item, item.extent.kind = kind ∧ item.start = start ∧ item.extent.stop? = stop ∧
      item.sourceLine = number ∧ p'.items = p.items ++ [item]) ∧
    p'.markers = p.markers ∧ p'.flags = p.flags ∧ p'.issues = p.issues
  | .marker start => ∃ label : String, p' = { p with markers := p.markers ++ [⟨start, label, number⟩] }

/-! ## Judging -/

/-- Dates that are cut are refused at the start, refused at the end, reversed, or in order. -/
theorem judged_of_hasDates {text startText : List Char} {kind : EntityKind} {stopText : Option (List Char)}
    (hkind : kind = .marker ∨ ∃ itemKind, kind = .item itemKind) (hdates : HasDates text kind startText stopText) :
    ∃ verdict, Judged text verdict := by
  cases hstart : normalize (String.ofList startText) with
  | error cause => exact ⟨_, .startRefused hdates hstart⟩
  | ok start =>
    have hordered {stop : Option Moment} (horder : InOrder startText stopText start stop) :
        ∃ verdict, Judged text verdict := by
      rcases hkind with rfl | ⟨kind, rfl⟩
      · by_cases hnone : stop = none
        · subst hnone
          exact ⟨_, .marker hdates horder⟩
        · exact ⟨_, .unfitMarker hdates horder hnone⟩
      · by_cases hfits : FitsKind kind stop
        · exact ⟨_, .item hdates horder hfits⟩
        · exact ⟨_, .unfitItem hdates horder hfits⟩
    cases stopText with
    | none => exact hordered (.single hstart)
    | some stopText =>
      cases hstop : normalize (String.ofList stopText) with
      | error cause => exact ⟨_, .stopRefused hdates hstart hstop⟩
      | ok stop =>
        cases hreversed : stop.isBefore start with
        | true => exact ⟨_, .reversed hdates hstart hstop hreversed⟩
        | false => exact hordered (.range hstart hstop hreversed)

/-- Every text gets a verdict. -/
theorem exists_judged (text : List Char) : ∃ verdict, Judged text verdict := by
  by_cases hkind : ∃ kind body, StartsAs text kind body
  case neg => exact ⟨_, .noKind hkind⟩
  obtain ⟨kind, body, hstart⟩ := hkind
  by_cases hbracket : ∃ dates rest, Bracketed body dates rest
  case neg => exact ⟨_, .noDates hstart hbracket⟩
  obtain ⟨dates, rest, hbracket⟩ := hbracket
  obtain ⟨startText, stopText, hcut⟩ := exists_cutDates dates
  refine judged_of_hasDates ?_ ⟨body, dates, rest, hstart, hbracket, hcut⟩
  cases hstart with
  | marker _ => exact .inl rfl
  | _ => exact .inr ⟨_, rfl⟩

/-! ## Reading -/

section
variable {startText line : List Char} {kind : ItemKind} {stopText : Option (List Char)} {start : Moment}
  {stop : Option Moment}

/-- Reads a start and perhaps an end, each from its own text. -/
def readDateTexts (startText : List Char) : (stopText : Option (List Char)) → Reading (Moment × Option Moment)
  | none => do return (← readDate startText, none)
  | some stopText => do
    let start ← readDate startText
    let stop ← readDate stopText
    if stop.isBefore start then refuse (.reversedRange start stop)
    else return (start, some stop)

/-- Of a line that has dates, these are read from their texts, and then the entity is built. -/
theorem exists_readLine_of_hasDates {kind : EntityKind} (h : HasDates (trim line) kind startText stopText) :
    ∃ head description, readLine .standard line =
      (readDateTexts startText stopText >>= fun dates =>
        buildEntity kind dates.1 dates.2 head description).map .entity := by
  obtain ⟨body, dates, rest, hstart, hbracket, hcut⟩ := h
  have hdates : readDates .standard dates = readDateTexts startText stopText := by
    rw [readDates, if_neg (by decide), cutAt?_of_cutDates hcut]
    cases hcut <;> rfl
  refine ⟨(splitDescription Dialect.standard.descriptionSeparator.toList rest).1,
    (splitDescription Dialect.standard.descriptionSeparator.toList rest).2, ?_⟩
  simp only [readLine, classify_of_startsAs hstart, readEntity, bracket?_eq_some_iff.mpr hbracket, hdates]

theorem readDate_of_ok (h : normalize (String.ofList startText) = .ok start) :
    readDate startText = .ok start := by
  rw [readDate, h]

theorem readDate_of_error {cause : DateError} (h : normalize (String.ofList startText) = .error cause) :
    readDate startText = refuse (.date cause) := by
  rw [readDate, h]

theorem readDateTexts_of_error {cause : DateError} (h : normalize (String.ofList startText) = .error cause) :
    readDateTexts startText stopText = refuse (.date cause) := by
  cases stopText with
  | none =>
    rw [readDateTexts, readDate_of_error h]
    rfl
  | some stopText =>
    rw [readDateTexts, readDate_of_error h]
    rfl

theorem readDateTexts_of_reversed {stopText : List Char} {stop : Moment}
    (hstart : normalize (String.ofList startText) = .ok start)
    (hstop : normalize (String.ofList stopText) = .ok stop) (h : stop.isBefore start = true) :
    readDateTexts startText (some stopText) = refuse (.reversedRange start stop) := by
  rw [readDateTexts, readDate_of_ok hstart, readDate_of_ok hstop]
  exact if_pos h

theorem readDateTexts_of_inOrder (h : InOrder startText stopText start stop) :
    readDateTexts startText stopText = .ok (start, stop) := by
  cases h with
  | single hstart =>
    rw [readDateTexts, readDate_of_ok hstart]
    rfl
  | range hstart hstop hordered =>
    rw [readDateTexts, readDate_of_ok hstart, readDate_of_ok hstop]
    exact if_neg (by simp [hordered])

theorem exists_buildEntity_of_fitsKind (h : FitsKind kind stop) (head : List Char)
    (description : Option (List Char)) :
    ∃ draft : Draft, buildEntity (.item kind) start stop head description = .ok (.item draft) ∧
      draft.extent.kind = kind ∧ draft.start = start ∧ draft.extent.stop? = stop := by
  cases kind with
  | event => exact ⟨_, rfl, rfl, rfl, rfl⟩
  | period =>
    cases stop with
    | none => exact absurd rfl h
    | some stop => exact ⟨_, rfl, rfl, rfl, rfl⟩
  | point =>
    obtain rfl : stop = none := h
    exact ⟨_, rfl, rfl, rfl, rfl⟩

theorem exists_buildEntity_of_not_fitsKind (h : ¬FitsKind kind stop) (head : List Char)
    (description : Option (List Char)) :
    ∃ error : LineError, buildEntity (.item kind) start stop head description = refuse error ∧
      error.label = "UnrecognizedEntityLine" := by
  cases kind with
  | event => exact absurd trivial h
  | period =>
    obtain rfl : stop = none := not_not.mp h
    exact ⟨_, rfl, rfl⟩
  | point =>
    cases stop with
    | none => exact absurd rfl h
    | some stop => exact ⟨_, rfl, rfl⟩

end

/-! ## Verdicts from readings -/

/-- The verdict that a reading amounts to. -/
def Verdict.ofReading? : Reading Effect → Option Verdict
  | .ok (.entity (.item draft)) => some (.item draft.extent.kind draft.start draft.extent.stop?)
  | .ok (.entity (.marker start _)) => some (.marker start)
  | .error (.line (.date cause)) => some (.date cause)
  | .error (.line (.reversedRange _ _)) => some .reversed
  | .error (.line error) => if error.label = "UnrecognizedEntityLine" then some .unrecognized else none
  | _ => none

theorem ofReading?_refuse {error : LineError} (h : error.label = "UnrecognizedEntityLine") :
    Verdict.ofReading? (refuse error) = some .unrecognized := by
  cases error with
  | date cause => cases cause <;> simp [LineError.label, DateError.label] at h
  | reversedRange start stop => simp [LineError.label] at h
  | _ => simp [refuse, Verdict.ofReading?, h]

/-- A verdict is what the reading of the line amounts to. -/
theorem ofReading?_of_judged {line : List Char} {verdict : Verdict} (hne : trim line ≠ [])
    (hmark : ∀ c ∈ (trim line).head?, c ≠ '#' ∧ c ≠ '>') (h : Judged (trim line) verdict) :
    Verdict.ofReading? (readLine .standard line) = some verdict := by
  cases h with
  | noKind h =>
    rw [readLine, classify_of_not_startsAs hne hmark h]
    exact ofReading?_refuse rfl
  | @noDates kind body hstart h =>
    have hnone : Dialect.standard.bracket? body = none := by
      rw [Option.eq_none_iff_forall_ne_some]
      rintro ⟨dates, rest⟩ hfound
      exact h ⟨dates, rest, bracket?_eq_some_iff.mp hfound⟩
    simp only [readLine, classify_of_startsAs hstart, readEntity, hnone]
    exact ofReading?_refuse rfl
  | startRefused hdates h =>
    obtain ⟨head, description, hread⟩ := exists_readLine_of_hasDates hdates
    rw [hread, readDateTexts_of_error h]
    rfl
  | stopRefused hdates hstart h =>
    obtain ⟨head, description, hread⟩ := exists_readLine_of_hasDates hdates
    rw [hread, readDateTexts, readDate_of_ok hstart, readDate_of_error h]
    rfl
  | reversed hdates hstart hstop h =>
    obtain ⟨head, description, hread⟩ := exists_readLine_of_hasDates hdates
    rw [hread, readDateTexts_of_reversed hstart hstop h]
    rfl
  | @unfitItem kind startText stopText start stop hdates horder h =>
    obtain ⟨head, description, hread⟩ := exists_readLine_of_hasDates hdates
    obtain ⟨error, hbuild, hlabel⟩ := exists_buildEntity_of_not_fitsKind h head description
    rw [hread, readDateTexts_of_inOrder horder]
    change Verdict.ofReading? ((buildEntity _ start stop head description).map .entity) = _
    rw [hbuild]
    exact ofReading?_refuse hlabel
  | @unfitMarker startText stopText start stop hdates horder h =>
    obtain ⟨head, description, hread⟩ := exists_readLine_of_hasDates hdates
    rw [hread, readDateTexts_of_inOrder horder]
    cases stop with
    | none => exact absurd rfl h
    | some stop => exact ofReading?_refuse rfl
  | @item kind startText stopText start stop hdates horder h =>
    obtain ⟨head, description, hread⟩ := exists_readLine_of_hasDates hdates
    obtain ⟨draft, hbuild, hkind, hstart, hstop⟩ := exists_buildEntity_of_fitsKind h head description
    rw [hread, readDateTexts_of_inOrder horder]
    change Verdict.ofReading? ((buildEntity _ start stop head description).map .entity) = _
    rw [hbuild]
    subst hkind hstart hstop
    rfl
  | marker hdates horder =>
    obtain ⟨head, description, hread⟩ := exists_readLine_of_hasDates hdates
    rw [hread, readDateTexts_of_inOrder horder]
    rfl

/-! ## What becomes of an entity line -/

theorem holds_note {error : LineError} {verdict : Verdict} (p : Progress) (number : Nat)
    (h : Verdict.ofReading? (refuse error) = some verdict) : verdict.Holds number p (p.note number error) := by
  cases error with
  | date cause =>
    cases h
    rfl
  | reversedRange start stop =>
    cases h
    exact ⟨_, rfl, rfl⟩
  | _ =>
    simp only [Verdict.ofReading?, refuse] at h
    split at h
    · next hlabel =>
      cases h
      exact ⟨_, hlabel, rfl⟩
    · cases h

/-- What a line does to the progress is what its verdict says. -/
theorem exists_step_of_ofReading? {line : SourceLine} {verdict : Verdict} (p : Progress)
    (h : Verdict.ofReading? (readLine .standard line.text.toList) = some verdict) :
    ∃ p', p.step .standard line = .ok p' ∧ verdict.Holds line.number p p' := by
  rw [Progress.step]
  cases hread : readLine .standard line.text.toList with
  | ok effect =>
    rw [hread] at h
    cases effect with
    | none => cases h
    | flag setting => cases h
    | entity entity =>
      cases entity with
      | item draft =>
        cases h
        refine ⟨p.addItem line.number draft, rfl,
          ⟨draft.toItem (p.declare draft.lane).labels p.items.length line.number, rfl, rfl, rfl, rfl, ?_⟩,
          p.markers_declare draft.lane, p.flags_declare draft.lane, p.issues_declare draft.lane⟩
        simp only [Progress.addItem, Progress.items_declare]
      | marker start label =>
        cases h
        exact ⟨_, rfl, label, rfl⟩
  | error trouble =>
    rw [hread] at h
    cases trouble with
    | fault fault => cases h
    | line error =>
      exact ⟨p.note line.number error, rfl, holds_note p line.number h⟩

/-- Every entity line of the standard dialect gets one verdict, whatever was declared before, and what the line
does is what its verdict says. -/
theorem step_entityLine (p : Progress) (line : SourceLine) (hne : trim line.text.toList ≠ [])
    (hmark : ∀ c ∈ (trim line.text.toList).head?, c ≠ '#' ∧ c ≠ '>') :
    ∃ (verdict : Verdict) (p' : Progress),
      (∀ other, Judged (trim line.text.toList) other ↔ other = verdict) ∧
        p.step .standard line = .ok p' ∧ verdict.Holds line.number p p' := by
  obtain ⟨verdict, hverdict⟩ := exists_judged (trim line.text.toList)
  have hreading := ofReading?_of_judged hne hmark hverdict
  obtain ⟨p', hstep, hholds⟩ := exists_step_of_ofReading? p hreading
  refine ⟨verdict, p', fun other => ⟨fun hother => ?_, ?_⟩, hstep, hholds⟩
  · have hsame := ofReading?_of_judged hne hmark hother
    rw [hreading] at hsame
    exact (Option.some.inj hsame).symm
  · rintro rfl
    exact hverdict

/-- A point whose dates are in the wrong order is refused for the order, although a point takes no end at all. -/
theorem step_entityLine_reversedPoint :
    trim " * [2020~2019] launch".toList ≠ [] ∧
      (∀ c ∈ (trim " * [2020~2019] launch".toList).head?, c ≠ '#' ∧ c ≠ '>') ∧
      ∃ p', (∀ other, Judged (trim " * [2020~2019] launch".toList) other ↔ other = .reversed) ∧
        Progress.step .standard {} ⟨7, " * [2020~2019] launch"⟩ = .ok p' ∧
        Verdict.reversed.Holds 7 {} p' := by
  have hhead : (trim " * [2020~2019] launch".toList).head? = some '*' := by decide +kernel
  have hne : trim " * [2020~2019] launch".toList ≠ [] := by
    intro hempty
    rw [hempty] at hhead
    cases hhead
  have hmark : ∀ c ∈ (trim " * [2020~2019] launch".toList).head?, c ≠ '#' ∧ c ≠ '>' := by
    rw [hhead]
    rintro c ⟨⟩
    decide
  refine ⟨hne, hmark, ?_⟩
  obtain ⟨verdict, p', honly, hstep, hholds⟩ :=
    step_entityLine {} ⟨7, " * [2020~2019] launch"⟩ hne hmark
  have hreversed : Verdict.ofReading? (readLine .standard " * [2020~2019] launch".toList) =
      some .reversed := by decide +kernel
  have hverdict := ofReading?_of_judged hne hmark ((honly verdict).mpr rfl)
  obtain rfl : verdict = .reversed := Option.some.inj (hverdict.symm.trans hreversed)
  exact ⟨p', honly, hstep, hholds⟩

end Chronicle.Script
