import Chronicle.Proofs.Calendar.Normalize
import Chronicle.Proofs.Script.LineForm
import Chronicle.Proofs.Script.Run
import Chronicle.Proofs.Text.Split
import Chronicle.Proofs.Text.Trim

/-!
# What errors cite

Some errors *cite* the author, that is, their message quotes a text out of the script.  Others also tell which
marks would have been right, and these are marks of the dialect.

The text that is cited stands on the line that is refused, since a line is only ever taken apart: it is trimmed,
its mark is dropped, and it is cut at separators (`refusesFor_readLine`).
-/

namespace Chronicle.Calendar

open Chronicle.Text

/-- The text that the message about a date quotes. -/
def DateError.cited? : DateError → Option String
  | .shape text => some text
  | _ => none

/-- A date is cited whole, just as it was given. -/
theorem eq_of_normalize {text cited : String} {cause : DateError} (h : normalize text = .error cause)
    (hcited : cited ∈ cause.cited?) : cited = text := by
  rcases ((normalize_spec text).2 cause).mp h with ⟨-, rfl⟩ | ⟨w, -, hfault⟩
  · cases hcited
    rfl
  · cases hfault <;> cases hcited

end Chronicle.Calendar

namespace Chronicle.Script

open Chronicle.Calendar Chronicle.Data Chronicle.Text Chronicle.Timeline

/-! ## Errors -/

/-- The text of the author that a message quotes. -/
def LineError.cited? : LineError → Option String
  | .date cause | .windowDate cause => cause.cited?
  | .unknownLine text | .noDates _ _ text | .unknownSortKey text _ | .argumentsGiven text | .noHeight text =>
    some text
  | .reversedRange _ _ | .markerWithEnd | .periodWithoutEnd | .pointWithEnd | .noKeyword | .noSortKey | .noWindow
  | .reversedWindow => none

/-- The kinds that lines of a dialect can have. -/
def Dialect.kinds (d : Dialect) : List EntityKind := .item .event :: d.sigils.map Prod.snd

/-- The marks that a message tells are those of a dialect. -/
def LineError.HasMarks (d : Dialect) : LineError → Prop
  | .noDates forms kind _ => forms = d.dateForms ∧ kind ∈ d.kinds
  | .unknownSortKey _ allowed => allowed = d.orderKeys
  | _ => True

/-- An error that can be found on a line of a dialect. -/
structure LineError.ArisesOn (d : Dialect) (line : List Char) (error : LineError) : Prop where
  cited : ∀ text ∈ error.cited?, text.toList <:+: line
  marks : error.HasMarks d

variable {d : Dialect} {line text : List Char}

theorem LineError.ArisesOn.of_cited? {error : LineError} (h : error.cited? = none) (hmarks : error.HasMarks d) :
    error.ArisesOn d line where
  cited text htext := by
    rw [h] at htext
    cases htext
  marks := hmarks

theorem LineError.ArisesOn.of_text {error : LineError} (h : error.cited? = some (String.ofList text))
    (htext : text <:+: line) (hmarks : error.HasMarks d) : error.ArisesOn d line where
  cited cited hcited := by
    rw [h] at hcited
    cases hcited
    rwa [String.toList_ofList]
  marks := hmarks

/-! ## Dates -/

theorem cited_of_normalize {cause : DateError} (h : normalize (String.ofList text) = .error cause)
    (htext : text <:+: line) : ∀ cited ∈ cause.cited?, cited.toList <:+: line := by
  intro cited hcited
  rw [eq_of_normalize h hcited, String.toList_ofList]
  exact htext

theorem refusesFor_readDate (h : text <:+: line) : RefusesFor (LineError.ArisesOn d line) (readDate text) := by
  rw [readDate]
  cases hread : normalize (String.ofList text) with
  | ok m => exact .ok m
  | error cause => exact .refuse ⟨cited_of_normalize hread h, trivial⟩

theorem refusesFor_readWindowDate (h : text <:+: line) :
    RefusesFor (LineError.ArisesOn d line) (readWindowDate text) := by
  rw [readWindowDate]
  cases hread : normalize (String.ofList text) with
  | ok m => exact .ok m
  | error cause => exact .refuse ⟨cited_of_normalize hread h, trivial⟩

theorem refusesFor_readDates {dates : List Char} (h : dates <:+: line) :
    RefusesFor (LineError.ArisesOn d line) (readDates d dates) := by
  rw [readDates]
  split
  · exact .fault _
  · cases hcut : cutAt? d.rangeSeparator.toList dates with
    | none => exact (refusesFor_readDate h).bind fun start _ => .ok _
    | some texts =>
      obtain ⟨startText, stopText⟩ := texts
      have hparts : dates = startText ++ d.rangeSeparator.toList ++ stopText := eq_of_cutAt? hcut
      have hstart : startText <:+: dates := ⟨[], d.rangeSeparator.toList ++ stopText, by simp [hparts]⟩
      have hstop : stopText <:+: dates := ⟨startText ++ d.rangeSeparator.toList, [], by simp [hparts]⟩
      refine (refusesFor_readDate (hstart.trans h)).bind fun start _ => ?_
      refine (refusesFor_readDate (hstop.trans h)).bind fun stop _ => ?_
      split
      · exact .refuse (.of_cited? rfl trivial)
      · exact .ok _

/-! ## Entities -/

theorem infix_of_bracketAt? {cs dates rest : List Char} (h : d.bracketAt? cs = some (dates, rest)) :
    dates <:+: cs := by
  rw [Dialect.bracketAt?] at h
  split at h
  · cases h
  · next inner hinner =>
    split at h
    · cases h
    · cases h
      rw [dropFront?_eq_some_iff.mp hinner]
      exact (List.takeWhile_prefix _).isInfix.trans (List.suffix_append _ _).isInfix

theorem infix_of_bracket? {cs dates rest : List Char} (h : d.bracket? cs = some (dates, rest)) : dates <:+: cs := by
  induction cs with
  | nil => exact infix_of_bracketAt? h
  | cons c tail ih =>
    rw [Dialect.bracket?] at h
    split at h
    · rcases Option.or_eq_some_iff.mp h with hlater | ⟨-, hhere⟩
      · exact List.infix_cons (ih hlater)
      · exact infix_of_bracketAt? hhere
    · exact infix_of_bracketAt? h

theorem refusesFor_buildEntity (kind : EntityKind) (start : Moment) (stop : Option Moment) (head : List Char)
    (description : Option (List Char)) :
    RefusesFor (LineError.ArisesOn d line) (buildEntity kind start stop head description) := by
  cases kind with
  | marker =>
    cases stop with
    | none => exact .ok _
    | some stop => exact .refuse (.of_cited? rfl trivial)
  | other name => exact .ok _
  | item kind =>
    cases kind with
    | event => exact .ok _
    | period =>
      cases stop with
      | none => exact .refuse (.of_cited? rfl trivial)
      | some stop => exact .ok _
    | point =>
      cases stop with
      | none => exact .ok _
      | some stop => exact .refuse (.of_cited? rfl trivial)

theorem refusesFor_readEntity {kind : EntityKind} {body : List Char} (hkind : kind ∈ d.kinds)
    (hbody : body <:+: line) (htext : text <:+: line) :
    RefusesFor (LineError.ArisesOn d line) (readEntity d kind body text) := by
  rw [readEntity]
  cases hbracket : d.bracket? body with
  | none => exact .refuse (.of_text rfl htext ⟨rfl, hkind⟩)
  | some found =>
    obtain ⟨dates, rest⟩ := found
    have hdates := (infix_of_bracket? hbracket).trans hbody
    exact (refusesFor_readDates hdates).bind fun _ _ => refusesFor_buildEntity _ _ _ _ _

/-! ## Flags -/

theorem infix_of_splitArguments {arguments : List Char} {parts : List (List Char)}
    (h : splitArguments d arguments = .ok parts) : ∀ part ∈ parts, part <:+: arguments := by
  rw [splitArguments] at h
  split at h
  · cases h
  · cases h
    intro part hpart
    obtain ⟨piece, hpiece, rfl⟩ := List.mem_map.mp hpart
    exact (infix_trim piece).trans (infix_of_mem_splitAll hpiece)

theorem refusesFor_splitArguments (arguments : List Char) :
    RefusesFor (LineError.ArisesOn d line) (splitArguments d arguments) := by
  rw [splitArguments]
  split
  · exact .fault _
  · exact .ok _

variable {arguments : List Char}

theorem refusesFor_readOrderBy (h : arguments <:+: line) :
    RefusesFor (LineError.ArisesOn d line) (readOrderBy d arguments) := by
  refine (refusesFor_splitArguments arguments).bind fun keys hkeys => ?_
  split
  · exact .refuse (.of_cited? rfl trivial)
  · cases hunknown : firstUnknownKey? d keys with
    | none => exact .ok _
    | some key =>
      have hkey := infix_of_splitArguments hkeys key (List.mem_of_find?_eq_some hunknown)
      exact .refuse (.of_text rfl (hkey.trans h) rfl)

theorem refusesFor_readDefaultView (h : arguments <:+: line) :
    RefusesFor (LineError.ArisesOn d line) (readDefaultView d arguments) := by
  refine (refusesFor_splitArguments arguments).bind fun parts hparts => ?_
  split
  · next startText stopText =>
    obtain ⟨hstart, hstop⟩ := List.forall_mem_cons.mp (infix_of_splitArguments hparts)
    split
    · exact .refuse (.of_cited? rfl trivial)
    · refine (refusesFor_readWindowDate (hstart.trans h)).bind fun start _ => ?_
      refine (refusesFor_readWindowDate ((hstop _ List.mem_cons_self).trans h)).bind fun stop _ => ?_
      split
      · exact .refuse (.of_cited? rfl trivial)
      · exact .ok _
  · exact .refuse (.of_cited? rfl trivial)

theorem refusesFor_readNoToday (h : arguments <:+: line) :
    RefusesFor (LineError.ArisesOn d line) (readNoToday arguments) := by
  rw [readNoToday]
  split
  · exact .ok _
  · exact .refuse (.of_text rfl ((infix_trim arguments).trans h) trivial)

theorem refusesFor_readHeight (h : arguments <:+: line) :
    RefusesFor (LineError.ArisesOn d line) (readHeight arguments) := by
  have htext := (infix_trim arguments).trans h
  simp only [readHeight]
  split
  · exact .refuse (.of_text rfl htext trivial)
  · split
    · exact .fault _
    · split
      · exact .refuse (.of_text rfl htext trivial)
      · exact .ok _

theorem refusesFor_read (h : arguments <:+: line) (flag : FlagName) :
    RefusesFor (LineError.ArisesOn d line) (flag.read d arguments) := by
  cases flag with
  | orderBy => exact refusesFor_readOrderBy h
  | defaultView => exact refusesFor_readDefaultView h
  | noToday => exact refusesFor_readNoToday h
  | height => exact refusesFor_readHeight h

theorem refusesFor_readFlag {body : List Char} (h : body <:+: line) :
    RefusesFor (LineError.ArisesOn d line) (readFlag d body) := by
  rcases readFlag_cases d body with hread | hread | ⟨flag, -, hread⟩
  · rw [hread]
    exact .refuse (.of_cited? rfl trivial)
  · rw [hread]
    exact .ok _
  · rw [hread]
    refine .map _ (refusesFor_read ?_ flag)
    have harguments : (firstWord (trim body)).2 <:+ trim body :=
      (List.dropWhile_suffix _).trans (List.dropWhile_suffix _)
    exact harguments.isInfix.trans ((infix_trim body).trans h)

/-! ## Lines -/

theorem suffix_of_classify_flag {body : List Char} (h : d.classify text = .flag body) : body <:+ text := by
  rw [Dialect.classify] at h
  split at h
  · cases h
  · split at h
    · next hbody =>
      cases h
      rw [dropFront?_eq_some_iff.mp hbody]
      exact List.suffix_append _ _
    · split at h
      · cases h
      · split at h <;> cases h

theorem mem_kinds_of_classify {kind : EntityKind} {body : List Char} (h : d.classify text = .entity kind body) :
    kind ∈ d.kinds ∧ body <:+ text := by
  rw [Dialect.classify] at h
  split at h
  · cases h
  · split at h
    · cases h
    · split at h
      · next hsigil =>
        cases h
        obtain ⟨⟨sigil, other⟩, hmem, hdrop⟩ := List.exists_of_findSome?_eq_some hsigil
        obtain ⟨rest, hrest, heq⟩ := Option.map_eq_some_iff.mp hdrop
        cases heq
        have hsigils : (sigil, kind) ∈ d.sigils := (perm_stableSort _ d.sigils).mem_iff.mp hmem
        refine ⟨List.mem_cons_of_mem _ (List.mem_map_of_mem hsigils), ?_⟩
        rw [dropFront?_eq_some_iff.mp hrest]
        exact List.suffix_append _ _
      · split at h
        · cases h
          exact ⟨List.mem_cons_self, List.suffix_rfl⟩
        · cases h

/-- A line is refused for what can be found on it. -/
theorem refusesFor_readLine (line : List Char) : RefusesFor (LineError.ArisesOn d line) (readLine d line) := by
  have htrim := infix_trim line
  simp only [readLine]
  split
  · exact .ok _
  · next body hform => exact refusesFor_readFlag ((suffix_of_classify_flag hform).isInfix.trans htrim)
  · next kind body hform =>
    obtain ⟨hkind, hbody⟩ := mem_kinds_of_classify hform
    exact (refusesFor_readEntity hkind (hbody.isInfix.trans htrim) htrim).map _
  · exact .refuse (.of_text rfl htrim trivial)

theorem arisesOn_of_issueAt? {line : SourceLine} {issue : Issue} (h : issueAt? d line = some issue) :
    issue.line = line.number ∧ issue.error.ArisesOn d line.text.toList := by
  rw [issueAt?] at h
  split at h
  · next error hread =>
    cases h
    exact ⟨rfl, refusesFor_readLine _ error hread⟩
  · cases h

end Chronicle.Script
