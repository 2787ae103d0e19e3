import Chronicle.Proofs.Script.LineForm

/-!
# Where faults come from

A reading that fails refuses its line, as a rule, and then the other lines are still read.  A *fault*
stops everything.  There are only two places in which a fault starts: a text that is cut at an empty
separator, and a height with too many digits.  All other steps are free of faults when their parts are.

So a dialect without empty separators has one fault left, and `fault_of_readFlag` says what it looks like.
-/

namespace Chronicle.Script

open Chronicle.Calendar Chronicle.Text Chronicle.Timeline

variable {d : Dialect}

/-! ## Entities -/

theorem faultFree_readDate (text : List Char) : FaultFree (readDate text) := by
  rw [readDate]
  cases normalize (String.ofList text) with
  | ok m => exact .ok m
  | error cause => exact .refuse _

theorem faultFree_readDates (hsep : d.rangeSeparator.isEmpty = false) (dates : List Char) :
    FaultFree (readDates d dates) := by
  rw [readDates, if_neg (by simp [hsep])]
  cases cutAt? d.rangeSeparator.toList dates with
  | none => exact (faultFree_readDate dates).bind fun start => .ok _
  | some texts =>
    obtain ⟨startText, stopText⟩ := texts
    refine (faultFree_readDate startText).bind fun start => ?_
    refine (faultFree_readDate stopText).bind fun stop => ?_
    split
    · exact .refuse _
    · exact .ok _

theorem faultFree_buildEntity (kind : EntityKind) (start : Moment) (stop : Option Moment)
    (head : List Char) (description : Option (List Char)) :
    FaultFree (buildEntity kind start stop head description) := by
  cases kind with
  | marker => cases stop <;> first | exact .ok _ | exact .refuse _
  | other name => exact .ok _
  | item kind => cases kind <;> cases stop <;> first | exact .ok _ | exact .refuse _

theorem faultFree_readEntity (hsep : d.rangeSeparator.isEmpty = false) (kind : EntityKind)
    (body line : List Char) : FaultFree (readEntity d kind body line) := by
  rw [readEntity]
  cases d.bracket? body with
  | none => exact .refuse _
  | some found =>
    obtain ⟨dates, rest⟩ := found
    exact (faultFree_readDates hsep dates).bind fun _ => faultFree_buildEntity _ _ _ _ _

/-! ## Flags -/

theorem faultFree_splitArguments (hsep : d.argumentSeparator.isEmpty = false)
    (arguments : List Char) : FaultFree (splitArguments d arguments) := by
  rw [splitArguments, if_neg (by simp [hsep])]
  exact .ok _

theorem faultFree_readOrderBy (hsep : d.argumentSeparator.isEmpty = false)
    (arguments : List Char) : FaultFree (readOrderBy d arguments) := by
  refine (faultFree_splitArguments hsep arguments).bind fun keys => ?_
  split
  · exact .refuse _
  · cases firstUnknownKey? d keys with
    | none => exact .ok _
    | some key => exact .refuse _

theorem faultFree_readWindowDate (text : List Char) : FaultFree (readWindowDate text) := by
  rw [readWindowDate]
  cases normalize (String.ofList text) with
  | ok m => exact .ok m
  | error cause => exact .refuse _

theorem faultFree_readDefaultView (hsep : d.argumentSeparator.isEmpty = false)
    (arguments : List Char) : FaultFree (readDefaultView d arguments) := by
  refine (faultFree_splitArguments hsep arguments).bind fun parts => ?_
  split
  · next startText stopText =>
    split
    · exact .refuse _
    · refine (faultFree_readWindowDate startText).bind fun start => ?_
      refine (faultFree_readWindowDate stopText).bind fun stop => ?_
      split
      · exact .refuse _
      · exact .ok _
  · exact .refuse _

theorem faultFree_readNoToday (arguments : List Char) : FaultFree (readNoToday arguments) := by
  rw [readNoToday]
  split
  · exact .ok _
  · exact .refuse _

/-- Digits of which there are more than a number is read with. -/
structure TooManyDigits (text : List Char) : Prop where
  digits : ∀ c ∈ text, c.isDigit
  length : digitLimit < text.length

theorem TooManyDigits.ne_nil {text : List Char} (h : TooManyDigits text) : text ≠ [] :=
  List.ne_nil_of_length_pos (Nat.lt_of_le_of_lt (Nat.zero_le _) h.length)

theorem readHeight_eq_fault_iff {arguments : List Char} {fault : Fault} :
    readHeight arguments = .error (.fault fault) ↔
      TooManyDigits (trim arguments) ∧ fault = .tooManyDigits (trim arguments).length := by
  simp only [readHeight]
  constructor
  · intro h
    split at h
    · cases h
    · next hdigits =>
      split at h
      · next hlength =>
        cases h
        simp only [Bool.or_eq_true, Bool.not_eq_true', not_or, Bool.not_eq_false,
          List.all_eq_true] at hdigits
        exact ⟨⟨hdigits.2, hlength⟩, rfl⟩
      · split at h <;> cases h
  · rintro ⟨⟨hdigits, hlength⟩, rfl⟩
    have hne := TooManyDigits.ne_nil ⟨hdigits, hlength⟩
    rw [if_neg (by simpa [hne] using hdigits), if_pos hlength]

theorem fault_of_read {flag : FlagName} (hsep : d.argumentSeparator.isEmpty = false)
    {arguments : List Char} {fault : Fault}
    (h : flag.read d arguments = .error (.fault fault)) :
    flag = .height ∧ TooManyDigits (trim arguments) ∧
      fault = .tooManyDigits (trim arguments).length := by
  cases flag with
  | orderBy => exact absurd h (faultFree_readOrderBy hsep arguments fault)
  | defaultView => exact absurd h (faultFree_readDefaultView hsep arguments fault)
  | noToday => exact absurd h (faultFree_readNoToday arguments fault)
  | height => exact ⟨rfl, readHeight_eq_fault_iff.mp h⟩

/-- A flag line has a fault only if it names the height and gives too many digits. -/
theorem fault_of_readFlag (hsep : d.argumentSeparator.isEmpty = false) {body : List Char}
    {fault : Fault} (h : readFlag d body = .error (.fault fault)) :
    d.flag? (firstWord (trim body)).1 = some .height ∧
      TooManyDigits (trim (firstWord (trim body)).2) ∧
      fault = .tooManyDigits (trim (firstWord (trim body)).2).length := by
  rcases readFlag_cases d body with hread | hread | ⟨flag, hflag, hread⟩
  · rw [hread] at h
    cases h
  · rw [hread] at h
    cases h
  · rw [hread, map_eq_error_iff] at h
    obtain ⟨rfl, hdigits, hfault⟩ := fault_of_read hsep h
    exact ⟨hflag, hdigits, hfault⟩

end Chronicle.Script
