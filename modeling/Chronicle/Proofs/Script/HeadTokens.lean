import Chronicle.Proofs.Text.Trim
import Chronicle.Script.Head

/-!
# Tokens around the content

What is said here of `splitHead` goes through its tokens, those at the front and then those at the end
(`headTokens`).

A tag has a name of word characters and hyphens, and no lane has a brace in its label
(`formed_of_mem_headTokens`).  The label of the whole text is the first one that is not blank, and so it is a
label in the sense of `IsLabel` (`isLabel_of_findSome?`).
-/

namespace Chronicle.Script

open Chronicle.Text

/-! ## Characters of tokens -/

/-- The runs of blanks and of word characters have nothing in common. -/
theorem blankSpans_apart :
    ∀ blank ∈ blankSpans, ∀ word ∈ wordSpans, blank.last < word.first ∨ word.last < blank.first := by
  decide +kernel

theorem bounds_of_isAlphanum {c : Char} (h : c.isAlphanum = true) :
    0x20 < c.toNat ∧ c.toNat < 0x80 := by
  delta Char.isAlphanum Char.isAlpha Char.isUpper Char.isLower Char.isDigit at h
  have hruns : ((65 ≤ c.toNat ∧ c.toNat ≤ 90) ∨ 97 ≤ c.toNat ∧ c.toNat ≤ 122) ∨
      48 ≤ c.toNat ∧ c.toNat ≤ 57 := by
    simpa [UInt32.le_iff_toNat_le] using h
  omega

theorem isBlank_of_isWord {c : Char} (h : isWord c = true) : isBlank c = false := by
  rw [isWord] at h
  split at h
  · rcases Bool.or_eq_true_iff.mp h with halphanum | hunderscore
    · exact isBlank_of_bounds (bounds_of_isAlphanum halphanum)
    · obtain rfl := beq_iff_eq.mp hunderscore
      decide
  · obtain ⟨word, hword, hfirst, hlast⟩ := inSpans_iff.mp h
    rw [Bool.eq_false_iff, Ne, isBlank, inSpans_iff]
    rintro ⟨blank, hblank, hfirst', hlast'⟩
    have hapart := blankSpans_apart blank hblank word hword
    omega

theorem isBlank_of_isTagChar {c : Char} (h : isTagChar c = true) : isBlank c = false := by
  rcases Bool.or_eq_true_iff.mp h with hword | hhyphen
  · exact isBlank_of_isWord hword
  · obtain rfl := beq_iff_eq.mp hhyphen
    decide

theorem isTagChar_of_isBlank {c : Char} (h : isBlank c = true) : isTagChar c = false := by
  rw [Bool.eq_false_iff]
  intro htag
  rw [isBlank_of_isTagChar htag] at h
  cases h

theorem ne_of_isTagChar {c : Char} (h : isTagChar c = true) (other : Char)
    (hother : isTagChar other = false) : c ≠ other := by
  rintro rfl
  rw [h] at hother
  cases hother

theorem isLabelChar_of_isTagChar {c : Char} (h : isTagChar c = true) : isLabelChar c = true := by
  have hopening := ne_of_isTagChar h '\x7b' (by decide)
  have hclosing := ne_of_isTagChar h '\x7d' (by decide)
  simp [isLabelChar, hopening, hclosing]

/-! ## Form of the tokens -/

/-- What a token looks like. -/
def HeadToken.Formed : HeadToken → Prop
  | .tag name => name ≠ [] ∧ ∀ c ∈ name, isTagChar c
  | .lane label => ∀ c ∈ label, isLabelChar c

variable {cs rest : List Char} {token : HeadToken}

theorem formed_of_leadingToken? (h : leadingToken? cs = some (token, rest)) : token.Formed := by
  cases cs with
  | nil => cases h
  | cons c tail =>
    simp only [leadingToken?] at h
    split at h
    · split at h
      · next hname =>
        cases h
        rw [Bool.and_eq_true, Bool.not_eq_true', List.isEmpty_eq_false_iff] at hname
        exact ⟨hname.1, fun _ => List.mem_takeWhile_imp⟩
      · cases h
    · split at h
      · split at h
        · cases h
          exact fun _ => List.mem_takeWhile_imp
        · cases h
      · cases h

theorem formed_of_trailingToken? (h : trailingToken? cs = some (token, rest)) : token.Formed := by
  unfold trailingToken? at h
  split at h
  · split at h
    · cases h
      exact fun c hc => List.mem_takeWhile_imp (List.mem_reverse.mp hc)
    · cases h
  · dsimp only at h
    split at h
    · split at h
      · next hname =>
        cases h
        rw [Bool.and_eq_true, Bool.not_eq_true', List.isEmpty_eq_false_iff] at hname
        exact ⟨List.reverse_ne_nil_iff.mpr hname.1, fun c hc =>
          List.mem_takeWhile_imp (List.mem_reverse.mp hc)⟩
      · cases h
    · cases h

/-- Taking tokens off the front goes on behind each of them. -/
theorem peelFront_of_eq_some (h : leadingToken? cs = some (token, rest)) :
    peelFront cs = (token :: (peelFront rest).1, (peelFront rest).2) := by
  rw [peelFront.eq_def]
  split
  · next hnone => rw [h] at hnone; cases hnone
  · next hsome => rw [h] at hsome; cases hsome; rfl

theorem peelFront_of_eq_none (h : leadingToken? cs = none) : peelFront cs = ([], cs) := by
  rw [peelFront.eq_def]
  split
  · rfl
  · next hsome => rw [h] at hsome; cases hsome

theorem peelBack_of_eq_some (h : trailingToken? cs = some (token, rest)) :
    peelBack cs = (token :: (peelBack rest).1, (peelBack rest).2) := by
  rw [peelBack.eq_def]
  split
  · next hnone => rw [h] at hnone; cases hnone
  · next hsome => rw [h] at hsome; cases hsome; rfl

theorem peelBack_of_eq_none (h : trailingToken? cs = none) : peelBack cs = ([], cs) := by
  rw [peelBack.eq_def]
  split
  · rfl
  · next hsome => rw [h] at hsome; cases hsome

theorem formed_of_mem_peelFront (cs : List Char) : ∀ token ∈ (peelFront cs).1, token.Formed := by
  induction cs using peelFront.induct with
  | case1 cs hnone => simp [peelFront_of_eq_none hnone]
  | case2 cs token rest hsome _ _ _ ih =>
    rw [peelFront_of_eq_some hsome]
    exact List.forall_mem_cons.mpr ⟨formed_of_leadingToken? hsome, ih⟩

theorem formed_of_mem_peelBack (cs : List Char) : ∀ token ∈ (peelBack cs).1, token.Formed := by
  induction cs using peelBack.induct with
  | case1 cs hnone => simp [peelBack_of_eq_none hnone]
  | case2 cs token rest hsome _ _ _ ih =>
    rw [peelBack_of_eq_some hsome]
    exact List.forall_mem_cons.mpr ⟨formed_of_trailingToken? hsome, ih⟩

/-- The tokens at the ends of a text, those at the front first, and those at the end from the outside in. -/
def headTokens (cs : List Char) : List HeadToken :=
  (peelFront (trim cs)).1 ++ (peelBack (peelFront (trim cs)).2.reverse).1

theorem formed_of_mem_headTokens (h : token ∈ headTokens cs) : token.Formed := by
  rcases List.mem_append.mp h with hfront | hback
  · exact formed_of_mem_peelFront _ token hfront
  · exact formed_of_mem_peelBack _ token hback

/-! ## Labels -/

/-- A text that can be the label of a lane. -/
structure IsLabel (cs : List Char) : Prop where
  ne_nil : cs ≠ []
  trimmed : IsTrimmed cs
  chars : ∀ c ∈ cs, isLabelChar c

theorem laneLabel?_eq_some_iff {label : List Char} :
    token.laneLabel? = some label ↔ ∃ text, token = .lane text ∧ trim text = label ∧ label ≠ [] := by
  cases token with
  | tag name => simp [HeadToken.laneLabel?]
  | lane text =>
    simp only [HeadToken.laneLabel?, HeadToken.lane.injEq]
    split
    · next hblank =>
      rw [List.isEmpty_iff] at hblank
      simp [hblank, eq_comm]
    · next hsolid =>
      rw [List.isEmpty_iff] at hsolid
      constructor
      · rintro ⟨⟩
        exact ⟨text, rfl, rfl, hsolid⟩
      · rintro ⟨_, rfl, rfl, -⟩
        rfl

variable {tokens : List HeadToken}

/-- There is a label unless the labels of all lanes are blank. -/
theorem findSome?_laneLabel?_eq_none_iff :
    tokens.findSome? HeadToken.laneLabel? = none ↔ ∀ text, .lane text ∈ tokens → trim text = [] := by
  rw [List.findSome?_eq_none_iff]
  constructor
  · intro h text htoken
    by_contra hsolid
    have hnone := h _ htoken
    rw [laneLabel?_eq_some_iff.mpr ⟨text, rfl, rfl, hsolid⟩] at hnone
    cases hnone
  · intro h token htoken
    rw [Option.eq_none_iff_forall_ne_some]
    intro label hlabel
    obtain ⟨text, rfl, rfl, hsolid⟩ := laneLabel?_eq_some_iff.mp hlabel
    exact hsolid (h text htoken)

theorem isLabel_of_findSome? {label : List Char} (hformed : ∀ token ∈ tokens, token.Formed)
    (h : tokens.findSome? HeadToken.laneLabel? = some label) : IsLabel label := by
  obtain ⟨token, htoken, hlabel⟩ := List.exists_of_findSome?_eq_some h
  obtain ⟨text, rfl, rfl, hsolid⟩ := laneLabel?_eq_some_iff.mp hlabel
  have hchars : ∀ c ∈ text, isLabelChar c := hformed _ htoken
  exact ⟨hsolid, isTrimmed_trim text, fun c hc => hchars c ((infix_trim text).subset hc)⟩

end Chronicle.Script
