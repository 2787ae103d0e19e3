import Chronicle.Proofs.Script.SpacedTokens

/-!
# What is taken off the ends of a text

The tokens at the front of a text are listed from the outside in (`Leads`), and so are those at its end
(`Trails`).  A token may have blanks on its inner side.  A tag needs one there, unless nothing is left on that
side (`HeadToken.StandsApart`).  For a tag at the end, "nothing" means nothing behind the tokens at the front,
as in `{x}#a{y}`, where the lane `y` is taken off first and then the tag `a`.

Every text is such tokens around its content, with nothing else but blanks (`splitHead_peels`).  No token is left
at either end of the content.  This needs an argument for the front only, since a token that is taken off the end
may have kept a tag before it from being read there.  But then this tag is all that is left, and it is read from
the end (`leadingToken?_eq_none_of_append`).
-/

namespace Chronicle.Script

open Chronicle.Text

variable {cs rest gap after before : List Char} {token : HeadToken}

/-! ## Tokens with their blanks -/

/-- A token with blanks on its inner side, and what is left on that side. -/
structure HeadToken.StandsApart (token : HeadToken) (gap left : List Char) : Prop where
  formed : token.Formed
  blank : ∀ c ∈ gap, isBlank c
  tag : ∀ name, token = .tag name → gap = [] → left = []

/-- A text that starts with tokens, the first one first, and the text behind them. -/
inductive Leads : List HeadToken → List Char → List Char → Prop
  | nil (cs : List Char) : Leads [] cs cs
  | cons {token : HeadToken} {tokens : List HeadToken} {gap after rest : List Char}
      (happart : token.StandsApart gap after) (htokens : Leads tokens after rest) :
      Leads (token :: tokens) (token.chars ++ gap ++ after) rest

/-- A text that ends with tokens, the last one first, and the text before them. -/
inductive Trails : List HeadToken → List Char → List Char → Prop
  | nil (cs : List Char) : Trails [] cs cs
  | cons {token : HeadToken} {tokens : List HeadToken} {gap before rest : List Char}
      (happart : token.StandsApart gap before) (htokens : Trails tokens before rest) :
      Trails (token :: tokens) (before ++ gap ++ token.chars) rest

theorem HeadToken.StandsApart.reverse (h : token.StandsApart gap rest) :
    token.StandsApart gap.reverse rest.reverse where
  formed := h.formed
  blank c hc := h.blank c (List.mem_reverse.mp hc)
  tag name htag hgap := by rw [h.tag name htag (List.reverse_eq_nil_iff.mp hgap), List.reverse_nil]

theorem eq_nil_of_startsBlank (hblank : startsBlank cs = true) (hsolid : StartsSolid cs) : cs = [] := by
  cases cs with
  | nil => rfl
  | cons c rest =>
    rw [startsSolid_cons] at hsolid
    rw [startsBlank, hsolid] at hblank
    cases hblank

/-- The blanks behind a token are its gap. -/
theorem HeadToken.Formed.exists_standsApart (h : token.Formed)
    (hafter : ∀ name, token = .tag name → startsBlank after = true) :
    ∃ gap, token.StandsApart gap (trimStart after) ∧ after = gap ++ trimStart after := by
  obtain ⟨gap, hgap, heq⟩ := exists_blanks_append_trimStart after
  refine ⟨gap, ⟨h, hgap, fun name htag hnone => ?_⟩, heq⟩
  have hblank := hafter name htag
  rw [hnone, List.nil_append] at heq
  rw [heq] at hblank
  exact eq_nil_of_startsBlank hblank (startsSolid_trimStart after)

/-! ## One token -/

theorem exists_of_leadingToken? (h : leadingToken? cs = some (token, rest)) :
    ∃ after, cs = token.chars ++ after ∧ (∀ name, token = .tag name → startsBlank after = true) ∧
      rest = trimStart after := by
  cases cs with
  | nil => cases h
  | cons c tail =>
    simp only [leadingToken?] at h
    split at h
    · next hhash =>
      split at h
      · next hname =>
        cases h
        refine ⟨tail.dropWhile isTagChar, ?_, fun _ _ => (Bool.and_eq_true_iff.mp hname).2, rfl⟩
        rw [HeadToken.chars, List.cons_append, List.takeWhile_append_dropWhile, hhash]
      · cases h
    · split at h
      · next hbrace =>
        split at h
        · next after hclosed =>
          cases h
          refine ⟨after, ?_, fun _ htag => (by cases htag), rfl⟩
          rw [HeadToken.chars, List.cons_append, List.append_assoc, List.singleton_append, ← hclosed,
            List.takeWhile_append_dropWhile, hbrace]
        · cases h
      · cases h

theorem exists_of_trailingToken? (h : trailingToken? cs = some (token, rest)) :
    ∃ before, cs = token.chars.reverse ++ before ∧ (∀ name, token = .tag name → startsBlank before = true) ∧
      rest = trimStart before := by
  unfold trailingToken? at h
  split at h
  · next tail =>
    split at h
    · next before hopened =>
      cases h
      refine ⟨before, ?_, fun _ htag => (by cases htag), rfl⟩
      rw [HeadToken.chars, List.reverse_cons, List.reverse_append, List.reverse_reverse, List.append_assoc,
        List.append_assoc, List.singleton_append, ← hopened, List.takeWhile_append_dropWhile]
      rfl
    · cases h
  · dsimp only at h
    split at h
    · next before hhash =>
      split at h
      · next hname =>
        cases h
        refine ⟨before, ?_, fun _ _ => (Bool.and_eq_true_iff.mp hname).2, rfl⟩
        rw [HeadToken.chars, List.reverse_cons, List.reverse_reverse, List.append_assoc, List.singleton_append,
          ← hhash, List.takeWhile_append_dropWhile]
      · cases h
    · cases h

theorem standsApart_of_leadingToken? (h : leadingToken? cs = some (token, rest)) :
    ∃ gap, token.StandsApart gap rest ∧ cs = token.chars ++ gap ++ rest := by
  obtain ⟨after, rfl, hafter, rfl⟩ := exists_of_leadingToken? h
  obtain ⟨gap, happart, heq⟩ := (formed_of_leadingToken? h).exists_standsApart hafter
  exact ⟨gap, happart, by rw [List.append_assoc, ← heq]⟩

theorem standsApart_of_trailingToken? (h : trailingToken? cs = some (token, rest)) :
    ∃ gap, token.StandsApart gap rest.reverse ∧ cs.reverse = rest.reverse ++ gap ++ token.chars := by
  obtain ⟨before, rfl, hbefore, rfl⟩ := exists_of_trailingToken? h
  obtain ⟨gap, happart, heq⟩ := (formed_of_trailingToken? h).exists_standsApart hbefore
  refine ⟨gap.reverse, happart.reverse, ?_⟩
  rw [← List.reverse_append, ← heq, List.reverse_append, List.reverse_reverse]

theorem HeadToken.StandsApart.leadingToken?_ne_none (h : token.StandsApart gap rest) :
    leadingToken? (token.chars ++ gap ++ rest) ≠ none := by
  have hblank : ∀ name, token = .tag name → startsBlank (gap ++ rest) = true := by
    intro name htag
    cases gap with
    | nil => rw [h.tag name htag rfl]; rfl
    | cons c more => exact h.blank c List.mem_cons_self
  rw [List.append_assoc]
  cases token with
  | tag name => simp [leadingToken?_chars h.formed (hblank name rfl)]
  | lane label => simp [HeadToken.chars, leadingToken?_lane h.formed]

theorem HeadToken.StandsApart.trailingToken?_ne_none (h : token.StandsApart gap before) :
    trailingToken? (before ++ gap ++ token.chars).reverse ≠ none := by
  have hblank : ∀ name, token = .tag name → startsBlank (gap.reverse ++ before.reverse) = true := by
    intro name htag
    cases hgap : gap.reverse with
    | nil =>
      rw [h.tag name htag (List.reverse_eq_nil_iff.mp hgap)]
      rfl
    | cons c more =>
      have hmem : c ∈ gap := List.mem_reverse.mp (hgap ▸ List.mem_cons_self)
      exact h.blank c hmem
  rw [List.reverse_append, List.reverse_append]
  cases token with
  | tag name => simp [trailingToken?_chars h.formed (hblank name rfl)]
  | lane label => simp [HeadToken.chars, trailingToken?_lane h.formed]

theorem not_leads_of_eq_none {tokens : List HeadToken} (h : leadingToken? cs = none) :
    ¬Leads (token :: tokens) cs rest := by
  rintro (_ | ⟨happart, -⟩)
  exact happart.leadingToken?_ne_none h

theorem not_trails_of_eq_none {tokens : List HeadToken} (h : trailingToken? cs.reverse = none) :
    ¬Trails (token :: tokens) cs rest := by
  rintro (_ | ⟨happart, -⟩)
  exact happart.trailingToken?_ne_none h

/-- A token that a text does not start with, but its front does, is a tag without a blank behind it.  Then it is
all of this front, and the front ends with it. -/
theorem leadingToken?_eq_none_of_append {content more : List Char} (h : leadingToken? (content ++ more) = none)
    (htrailing : trailingToken? content.reverse = none) : leadingToken? content = none := by
  rw [Option.eq_none_iff_forall_ne_some]
  rintro ⟨token, rest⟩ hsome
  obtain ⟨gap, happart, rfl⟩ := standsApart_of_leadingToken? hsome
  by_cases hbare : gap = [] ∧ rest = []
  · obtain ⟨rfl, rfl⟩ := hbare
    have hblank : startsBlank [] = true := rfl
    have htoken := trailingToken?_chars happart.formed hblank
    rw [List.append_nil, List.append_nil] at htrailing
    rw [List.append_nil, htrailing] at htoken
    cases htoken
  · have happart' : token.StandsApart gap (rest ++ more) :=
      ⟨happart.formed, happart.blank, fun name htag hgap =>
        absurd ⟨hgap, happart.tag name htag hgap⟩ hbare⟩
    rw [List.append_assoc] at h
    exact happart'.leadingToken?_ne_none h

/-! ## All tokens -/

theorem leads_peelFront (cs : List Char) : Leads (peelFront cs).1 cs (peelFront cs).2 := by
  induction cs using peelFront.induct with
  | case1 cs hnone =>
    rw [peelFront_of_eq_none hnone]
    exact .nil cs
  | case2 cs token rest hsome _ _ _ ih =>
    rw [peelFront_of_eq_some hsome]
    obtain ⟨gap, happart, rfl⟩ := standsApart_of_leadingToken? hsome
    exact .cons happart ih

theorem trails_peelBack (cs : List Char) :
    Trails (peelBack cs).1 cs.reverse (peelBack cs).2.reverse := by
  induction cs using peelBack.induct with
  | case1 cs hnone =>
    rw [peelBack_of_eq_none hnone]
    exact .nil cs.reverse
  | case2 cs token rest hsome _ _ _ ih =>
    rw [peelBack_of_eq_some hsome]
    obtain ⟨gap, happart, heq⟩ := standsApart_of_trailingToken? hsome
    rw [heq]
    exact .cons happart ih

theorem leadingToken?_peelFront (cs : List Char) : leadingToken? (peelFront cs).2 = none := by
  induction cs using peelFront.induct with
  | case1 cs hnone => rwa [peelFront_of_eq_none hnone]
  | case2 cs token rest hsome _ _ _ ih => rwa [peelFront_of_eq_some hsome]

theorem trailingToken?_peelBack (cs : List Char) : trailingToken? (peelBack cs).2 = none := by
  induction cs using peelBack.induct with
  | case1 cs hnone => rwa [peelBack_of_eq_none hnone]
  | case2 cs token rest hsome _ _ _ ih => rwa [peelBack_of_eq_some hsome]

theorem prefix_of_trails {tokens : List HeadToken} (h : Trails tokens cs rest) : rest <+: cs := by
  induction h with
  | nil => exact List.prefix_rfl
  | cons _ _ ih =>
    rw [List.append_assoc]
    exact ih.trans (List.prefix_append _ _)

/-- What stands last in a trimmed text is trimmed when the blanks before it are taken away. -/
theorem isTrimmed_trimStart {front : List Char} (h : IsTrimmed (front ++ after)) :
    IsTrimmed (trimStart after) := by
  obtain ⟨gap, -, heq⟩ := exists_blanks_append_trimStart after
  refine ⟨startsSolid_trimStart after, ?_⟩
  have hstop := h.stop.of_append
  rw [heq] at hstop
  exact hstop.of_append

theorem isTrimmed_peelFront (h : IsTrimmed cs) : IsTrimmed (peelFront cs).2 := by
  induction cs using peelFront.induct with
  | case1 cs hnone => rwa [peelFront_of_eq_none hnone]
  | case2 cs token rest hsome _ _ _ ih =>
    rw [peelFront_of_eq_some hsome]
    obtain ⟨after, rfl, -, rfl⟩ := exists_of_leadingToken? hsome
    exact ih (isTrimmed_trimStart h)

theorem isTrimmed_peelBack (h : IsTrimmed cs) : IsTrimmed (peelBack cs).2 := by
  induction cs using peelBack.induct with
  | case1 cs hnone => rwa [peelBack_of_eq_none hnone]
  | case2 cs token rest hsome _ _ _ ih =>
    rw [peelBack_of_eq_some hsome]
    obtain ⟨before, rfl, -, rfl⟩ := exists_of_trailingToken? hsome
    exact ih (isTrimmed_trimStart h)

theorem isTrimmed_reverse (h : IsTrimmed cs) : IsTrimmed cs.reverse :=
  ⟨startsSolid_reverse_iff.mpr h.stop, by rw [← startsSolid_reverse_iff, List.reverse_reverse]; exact h.start⟩

/-! ## Content and tokens -/

/-- The content of a text is what its tokens leave, and has no blanks to be trimmed. -/
theorem content_splitHead_eq (cs : List Char) :
    (splitHead cs).content = (peelBack (peelFront (trim cs)).2.reverse).2.reverse :=
  trim_eq_self
    (isTrimmed_reverse (isTrimmed_peelBack (isTrimmed_reverse (isTrimmed_peelFront (isTrimmed_trim cs)))))

theorem isContent_content_splitHead (cs : List Char) : IsContent (splitHead cs).content := by
  have htrailing : trailingToken? (splitHead cs).content.reverse = none := by
    rw [content_splitHead_eq, List.reverse_reverse]
    exact trailingToken?_peelBack _
  refine ⟨isTrimmed_trim _, ?_, htrailing⟩
  obtain ⟨more, hmore⟩ := prefix_of_trails (trails_peelBack (peelFront (trim cs)).2.reverse)
  have hleading := leadingToken?_peelFront (trim cs)
  rw [List.reverse_reverse, ← content_splitHead_eq] at hmore
  rw [← hmore] at hleading
  exact leadingToken?_eq_none_of_append hleading htrailing

theorem splitHead_of_isContent (h : IsContent cs) : splitHead cs = ⟨cs, none, none⟩ := by
  have htokens : ∀ token ∈ ([] : List HeadToken), token.Formed := by simp
  have hblanks : ∀ c ∈ ([] : List Char), isBlank c := by simp
  simpa [spaced, readingOrder] using splitHead_spaced h htokens hblanks hblanks

/-- A text is tokens at the front, its content, and tokens at the end, with nothing else but blanks.  Those at the
front are all that are there, and no token is left at either end of the content, nor are blanks.  The first tag counts,
and the first lane that is not blank, where those at the front come before those at the end, and those at the end are
read from the outside in.  The content is its own content. -/
theorem splitHead_peels (cs : List Char) :
    ∃ front back rest, Leads front (trim cs) rest ∧ (∀ token after, ¬Leads [token] rest after) ∧
      Trails back rest (splitHead cs).content ∧ IsContent (splitHead cs).content ∧
      (∀ token left, ¬Leads [token] (splitHead cs).content left ∧ ¬Trails [token] (splitHead cs).content left) ∧
      (splitHead cs).color = (front.findSome? HeadToken.tagName?).or (back.findSome? HeadToken.tagName?) ∧
      (splitHead cs).lane = (front.findSome? HeadToken.laneLabel?).or (back.findSome? HeadToken.laneLabel?) ∧
      splitHead (splitHead cs).content = ⟨(splitHead cs).content, none, none⟩ := by
  have hback := trails_peelBack (peelFront (trim cs)).2.reverse
  rw [List.reverse_reverse, ← content_splitHead_eq] at hback
  have hcontent := isContent_content_splitHead cs
  refine ⟨(peelFront (trim cs)).1, (peelBack (peelFront (trim cs)).2.reverse).1, (peelFront (trim cs)).2,
    leads_peelFront _, fun token after => ?_, hback, hcontent, fun token left => ⟨?_, ?_⟩, List.findSome?_append,
    List.findSome?_append, splitHead_of_isContent hcontent⟩
  · exact not_leads_of_eq_none (leadingToken?_peelFront (trim cs))
  · exact not_leads_of_eq_none hcontent.leading
  · exact not_trails_of_eq_none hcontent.trailing

/-- A tag between two lanes is left alone until the lane behind it is taken off. -/
example : splitHead "\x7bx\x7d#a\x7by\x7d".toList = ⟨[], some ['a'], some ['x']⟩ := by decide +kernel

end Chronicle.Script
