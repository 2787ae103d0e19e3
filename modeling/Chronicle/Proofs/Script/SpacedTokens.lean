import Chronicle.Proofs.Script.HeadTokens
import Chronicle.Text.Cut

/-!
# Tokens that are written

Tokens are written behind the content, with a blank in front of each (`spaced`), and are read back with the
content and in their order from the end (`splitHead_spaced`).

*Content.*  A text that is left as it is has no token at either end (`isContent_of_splitHead`), since
every token that is taken off makes a text shorter.  What stands behind a blank adds no token to its front:
it could only close a lane that is open there (`leadingToken?_append`), and written tokens open their own
before they close it (`head?_dropWhile_spaced`).

*No content.*  Then the tokens are at the front of the text as well, and are read from there, in the order in
which they are written (`peelFront_spaced`).
-/

namespace Chronicle.Script

open Chronicle.Text

variable {cs rest : List Char} {token : HeadToken}

/-! ## Reading a token -/

theorem span_name {name after : List Char} (hname : ∀ c ∈ name, isTagChar c)
    (hafter : startsBlank after = true) :
    (name ++ after).takeWhile isTagChar = name ∧ (name ++ after).dropWhile isTagChar = after := by
  refine span_append hname ?_
  cases after with
  | nil => rintro c ⟨⟩
  | cons c rest =>
    rintro c ⟨⟩
    exact isTagChar_of_isBlank hafter

theorem leadingToken?_tag {name after : List Char} (h : (HeadToken.tag name).Formed)
    (hafter : startsBlank after = true) :
    leadingToken? ('#' :: (name ++ after)) = some (.tag name, trimStart after) := by
  obtain ⟨htake, hdrop⟩ := span_name h.2 hafter
  rw [leadingToken?, if_pos rfl, htake, hdrop]
  exact if_pos (by simpa [hafter] using h.1)

theorem leadingToken?_lane {label : List Char} (h : (HeadToken.lane label).Formed) (after : List Char) :
    leadingToken? ('\x7b' :: (label ++ '\x7d' :: after)) = some (.lane label, trimStart after) := by
  obtain ⟨htake, hdrop⟩ := span_append_cons '\x7d' h (by decide) after
  rw [leadingToken?, if_neg (by decide), if_pos rfl, hdrop, htake]
  rfl

theorem trailingToken?_lane {label : List Char} (h : (HeadToken.lane label).Formed) (before : List Char) :
    trailingToken? ('\x7d' :: (label.reverse ++ '\x7b' :: before)) =
      some (.lane label, trimStart before) := by
  have hreverse : ∀ c ∈ label.reverse, isLabelChar c := fun c hc => h c (List.mem_reverse.mp hc)
  obtain ⟨htake, hdrop⟩ := span_append_cons '\x7b' hreverse (by decide) before
  rw [trailingToken?, hdrop, htake, List.reverse_reverse]
  rfl

/-- A text that does not end with a brace can only end with a tag. -/
theorem trailingToken?_of_ne {reversed : List Char} (h : reversed.head? ≠ some '\x7d') :
    trailingToken? reversed =
      match reversed.dropWhile isTagChar with
      | '#' :: before =>
        if !(reversed.takeWhile isTagChar).isEmpty && startsBlank before then
          some (.tag (reversed.takeWhile isTagChar).reverse, trimStart before)
        else none
      | _ => none := by
  unfold trailingToken?
  split
  · exact absurd rfl h
  · rfl

theorem trailingToken?_tag {name before : List Char} (h : (HeadToken.tag name).Formed)
    (hbefore : startsBlank before = true) :
    trailingToken? (name.reverse ++ '#' :: before) = some (.tag name, trimStart before) := by
  obtain ⟨hne, hchars⟩ := h
  have hreverse : ∀ c ∈ name.reverse, isTagChar c := fun c hc => hchars c (List.mem_reverse.mp hc)
  have hfirst : (name.reverse ++ '#' :: before).head? ≠ some '\x7d' := by
    rw [List.head?_append_of_ne_nil _ (List.reverse_ne_nil_iff.mpr hne)]
    intro hbrace
    exact absurd (hreverse _ (List.mem_of_mem_head? hbrace)) (by decide)
  obtain ⟨htake, hdrop⟩ := span_append_cons '#' hreverse (by decide) before
  rw [trailingToken?_of_ne hfirst, hdrop, htake, List.reverse_reverse]
  exact if_pos (by simp [hne, hbefore])

/-! ## Texts without tokens -/

theorem length_peelFront_le (cs : List Char) : (peelFront cs).2.length ≤ cs.length := by
  induction cs using peelFront.induct with
  | case1 cs hnone => rw [peelFront_of_eq_none hnone]
  | case2 cs token rest hsome _ _ _ ih =>
    rw [peelFront_of_eq_some hsome]
    exact Nat.le_trans ih (Nat.le_of_lt (length_lt_of_leadingToken? hsome))

theorem length_peelBack_le (cs : List Char) : (peelBack cs).2.length ≤ cs.length := by
  induction cs using peelBack.induct with
  | case1 cs hnone => rw [peelBack_of_eq_none hnone]
  | case2 cs token rest hsome _ _ _ ih =>
    rw [peelBack_of_eq_some hsome]
    exact Nat.le_trans ih (Nat.le_of_lt (length_lt_of_trailingToken? hsome))

/-- A text that is its own content. -/
structure IsContent (cs : List Char) : Prop where
  trimmed : IsTrimmed cs
  leading : leadingToken? cs = none
  trailing : trailingToken? cs.reverse = none

theorem content_splitHead (cs : List Char) :
    (splitHead cs).content = trim (peelBack (peelFront (trim cs)).2.reverse).2.reverse :=
  rfl

/-- Every token that is taken off makes the text shorter. -/
theorem isContent_of_splitHead (h : (splitHead cs).content = cs) : IsContent cs := by
  rw [content_splitHead] at h
  have htrimmed : IsTrimmed cs := h ▸ isTrimmed_trim _
  rw [trim_eq_self htrimmed] at h
  have hback := (infix_trim (peelBack (peelFront cs).2.reverse).2.reverse).length_le
  have hlength := length_peelBack_le (peelFront cs).2.reverse
  rw [h, List.length_reverse] at hback
  rw [List.length_reverse] at hlength
  have hleading : leadingToken? cs = none := by
    rw [Option.eq_none_iff_forall_ne_some]
    rintro ⟨token, rest⟩ hsome
    have hshorter := length_lt_of_leadingToken? hsome
    have hrest := length_peelFront_le rest
    rw [peelFront_of_eq_some hsome] at hback hlength
    dsimp only at hback hlength
    omega
  refine ⟨htrimmed, hleading, ?_⟩
  rw [Option.eq_none_iff_forall_ne_some]
  rintro ⟨token, rest⟩ hsome
  have hshorter := length_lt_of_trailingToken? hsome
  have hrest := length_peelBack_le rest
  rw [peelFront_of_eq_none hleading, peelBack_of_eq_some hsome] at hback
  rw [List.length_reverse] at hshorter
  dsimp only at hback
  omega

/-! ## Tokens behind a content -/

/-- A token as it is written. -/
def HeadToken.chars : HeadToken → List Char
  | .tag name => '#' :: name
  | .lane label => '\x7b' :: (label ++ ['\x7d'])

/-- Tokens with a blank in front of each. -/
def spaced (tokens : List HeadToken) : List Char := tokens.flatMap fun token => ' ' :: token.chars

theorem startsBlank_spaced (tokens : List HeadToken) : startsBlank (spaced tokens) = true := by
  cases tokens with
  | nil => rfl
  | cons token rest => rfl

theorem solid_chars (h : token.Formed) : token.chars ≠ [] ∧ IsTrimmed token.chars := by
  cases token with
  | tag name =>
    refine ⟨List.cons_ne_nil _ _, startsSolid_cons.mpr (by decide), ?_⟩
    have hname : EndsSolid name := endsSolid_of_forall fun c hc => isBlank_of_isTagChar (h.2 c hc)
    exact hname.append h.1 ['#']
  | lane label =>
    refine ⟨List.cons_ne_nil _ _, startsSolid_cons.mpr (by decide), ?_⟩
    have hbrace : EndsSolid ['\x7d'] := by rintro c ⟨⟩; decide
    exact hbrace.append (List.cons_ne_nil _ _) ('\x7b' :: label)

theorem leadingToken?_chars (h : token.Formed) {after : List Char} (hafter : startsBlank after = true) :
    leadingToken? (token.chars ++ after) = some (token, trimStart after) := by
  cases token with
  | tag name => exact leadingToken?_tag h hafter
  | lane label =>
    rw [HeadToken.chars, List.cons_append, List.append_assoc, List.singleton_append]
    exact leadingToken?_lane h after

theorem trailingToken?_chars (h : token.Formed) {before : List Char} (hbefore : startsBlank before = true) :
    trailingToken? (token.chars.reverse ++ before) = some (token, trimStart before) := by
  cases token with
  | tag name =>
    rw [HeadToken.chars, List.reverse_cons, List.append_assoc, List.singleton_append]
    exact trailingToken?_tag h hbefore
  | lane label =>
    have hchars : (HeadToken.lane label).chars.reverse ++ before =
        '\x7d' :: (label.reverse ++ '\x7b' :: before) := by
      simp [HeadToken.chars]
    rw [hchars]
    exact trailingToken?_lane h before

variable {tokens : List HeadToken}

theorem peelFront_spaced (h : ∀ token ∈ tokens, token.Formed) :
    peelFront (trimStart (spaced tokens)) = (tokens, []) := by
  induction tokens with
  | nil => exact peelFront_of_eq_none rfl
  | cons token rest ih =>
    obtain ⟨htoken, hrest⟩ := List.forall_mem_cons.mp h
    obtain ⟨hne, hsolid⟩ := solid_chars htoken
    have hspaced : trimStart (spaced (token :: rest)) = token.chars ++ spaced rest :=
      trimStart_append isBlank_of_mem_space (hsolid.start.append hne _)
    rw [hspaced, peelFront_of_eq_some (leadingToken?_chars htoken (startsBlank_spaced rest)), ih hrest]

theorem spaced_append_singleton (tokens : List HeadToken) (token : HeadToken) :
    spaced (tokens ++ [token]) = spaced tokens ++ ' ' :: token.chars := by
  simp [spaced]

theorem endsSolid_append_spaced (h : ∀ token ∈ tokens, token.Formed) {content : List Char}
    (hcontent : EndsSolid content) : EndsSolid (content ++ spaced tokens) := by
  induction tokens using List.reverseRecOn with
  | nil => rwa [spaced, List.flatMap_nil, List.append_nil]
  | append_singleton front token =>
    obtain ⟨hne, hsolid⟩ := solid_chars (h token (by simp))
    rw [spaced_append_singleton, ← List.append_assoc]
    exact (hsolid.stop.append hne [' ']).append (List.cons_ne_nil _ _) _

theorem peelBack_spaced (h : ∀ token ∈ tokens, token.Formed) {content : List Char}
    (hcontent : EndsSolid content) (htrailing : trailingToken? content.reverse = none) :
    peelBack (content ++ spaced tokens).reverse = (tokens.reverse, content.reverse) := by
  induction tokens using List.reverseRecOn with
  | nil =>
    rw [spaced, List.flatMap_nil, List.append_nil]
    exact peelBack_of_eq_none htrailing
  | append_singleton front token ih =>
    have hfront : ∀ token ∈ front, token.Formed := fun other hother => h other (by simp [hother])
    have hreverse : (content ++ spaced (front ++ [token])).reverse =
        token.chars.reverse ++ ' ' :: (content ++ spaced front).reverse := by
      simp [spaced_append_singleton]
    have hbefore : trimStart (' ' :: (content ++ spaced front).reverse) =
        (content ++ spaced front).reverse :=
      trimStart_append isBlank_of_mem_space
        (startsSolid_reverse_iff.mpr (endsSolid_append_spaced hfront hcontent))
    rw [hreverse, peelBack_of_eq_some (trailingToken?_chars (h token (by simp)) rfl), hbefore, ih hfront]
    simp

/-- Behind the blank in front of a written token there is no brace that could close a lane before it. -/
theorem head?_dropWhile_spaced (h : ∀ token ∈ tokens, token.Formed) :
    ((spaced tokens).dropWhile isLabelChar).head? ≠ some '\x7d' := by
  induction tokens with
  | nil => simp [spaced]
  | cons token rest ih =>
    obtain ⟨htoken, hrest⟩ := List.forall_mem_cons.mp h
    have hblank : isLabelChar ' ' = true := by decide
    have hspaced : spaced (token :: rest) = ' ' :: (token.chars ++ spaced rest) := rfl
    rw [hspaced, List.dropWhile_cons_of_pos hblank]
    cases token with
    | tag name =>
      have hname : ∀ c ∈ '#' :: name, isLabelChar c :=
        List.forall_mem_cons.mpr ⟨by decide, fun c hc => isLabelChar_of_isTagChar (htoken.2 c hc)⟩
      rw [HeadToken.chars, List.dropWhile_append_of_pos hname]
      exact ih hrest
    | lane label =>
      rw [HeadToken.chars, List.cons_append, List.dropWhile_cons_of_neg (by decide)]
      simp

/-- What stands behind a blank does not make the name of a tag longer. -/
theorem span_append {tail more : List Char} (hblank : startsBlank more = true) :
    (tail ++ more).takeWhile isTagChar = tail.takeWhile isTagChar ∧
      startsBlank ((tail ++ more).dropWhile isTagChar) = startsBlank (tail.dropWhile isTagChar) := by
  cases hdrop : tail.dropWhile isTagChar with
  | nil =>
    have hchars := List.dropWhile_eq_nil_iff.mp hdrop
    obtain ⟨htake, hrest⟩ := span_name hchars hblank
    rw [htake, hrest, List.takeWhile_eq_self_iff.mpr hchars]
    exact ⟨rfl, hblank⟩
  | cons c rest =>
    have hstop : isTagChar c = false := by
      have hnot := List.head?_dropWhile_not isTagChar tail
      rwa [hdrop] at hnot
    have htail : tail ++ more = tail.takeWhile isTagChar ++ c :: (rest ++ more) := by
      rw [← List.cons_append, ← hdrop, ← List.append_assoc, List.takeWhile_append_dropWhile]
    obtain ⟨htake, hrest⟩ := span_append_cons c
      (fun _ hmem => List.mem_takeWhile_imp (p := isTagChar) (l := tail) hmem) hstop (rest ++ more)
    rw [htail, htake, hrest]
    exact ⟨rfl, rfl⟩

/-- What follows a text behind a blank adds no token to its front. -/
theorem leadingToken?_append {content more : List Char} (h : leadingToken? content = none)
    (hne : content ≠ []) (hblank : startsBlank more = true)
    (hmore : (more.dropWhile isLabelChar).head? ≠ some '\x7d') :
    leadingToken? (content ++ more) = none := by
  obtain ⟨c, tail, rfl⟩ := List.exists_cons_of_ne_nil hne
  by_cases hhash : c = '#'
  · obtain ⟨htake, hrest⟩ := @span_append tail more hblank
    simp only [leadingToken?, List.cons_append, if_pos hhash] at h ⊢
    rw [htake, hrest]
    split at h
    · cases h
    · next hname => exact if_neg hname
  · by_cases hbrace : c = '\x7b'
    · simp only [leadingToken?, List.cons_append, if_neg hhash, if_pos hbrace] at h ⊢
      split at h
      · cases h
      · next hopen =>
        split
        · next after hclosed =>
          rw [List.dropWhile_append] at hclosed
          split at hclosed
          · rw [hclosed] at hmore
            exact absurd rfl hmore
          · next hstop =>
            obtain ⟨brace, rest, hdrop⟩ := List.exists_cons_of_ne_nil (mt List.isEmpty_iff.mpr hstop)
            rw [hdrop, List.cons_append] at hclosed
            obtain ⟨rfl, -⟩ := List.cons.inj hclosed
            exact absurd hdrop (hopen rest)
        · rfl
    · simp [leadingToken?, hhash, hbrace]

/-- The order in which the tokens behind a content are read.  Behind a content that is empty they are at the
front of the text. -/
def readingOrder (content : List Char) (tokens : List HeadToken) : List HeadToken :=
  if content = [] then tokens else tokens.reverse

/-- The content and the tokens behind it are read back, with any blanks around them. -/
theorem splitHead_spaced {content front back : List Char} (hcontent : IsContent content)
    (htokens : ∀ token ∈ tokens, token.Formed) (hfront : ∀ c ∈ front, isBlank c)
    (hback : ∀ c ∈ back, isBlank c) :
    splitHead (front ++ (content ++ spaced tokens ++ back)) =
      ⟨content, (readingOrder content tokens).findSome? HeadToken.tagName?,
        (readingOrder content tokens).findSome? HeadToken.laneLabel?⟩ := by
  have hstop := endsSolid_append_spaced htokens hcontent.trimmed.stop
  by_cases hempty : content = []
  · subst hempty
    rw [List.nil_append] at hstop ⊢
    obtain ⟨blanks, hblanks, hspaced⟩ := exists_blanks_append_trimStart (spaced tokens)
    have htrimmed : IsTrimmed (trimStart (spaced tokens)) := by
      refine ⟨startsSolid_trimStart _, ?_⟩
      rw [hspaced] at hstop
      exact hstop.of_append
    have htrim : trim (front ++ (spaced tokens ++ back)) = trimStart (spaced tokens) := by
      have hall := trim_append_append (List.forall_mem_append.mpr ⟨hfront, hblanks⟩) hback htrimmed
      rwa [List.append_assoc, ← List.append_assoc blanks, ← hspaced] at hall
    have hback' : peelBack ([] : List Char).reverse = ([], []) := peelBack_of_eq_none rfl
    simp only [splitHead, htrim, peelFront_spaced htokens, hback', readingOrder, if_true, List.append_nil]
    rfl
  · have htrim := trim_append_append hfront hback ⟨hcontent.trimmed.start.append hempty _, hstop⟩
    have hleading := leadingToken?_append hcontent.leading hempty (startsBlank_spaced tokens)
      (head?_dropWhile_spaced htokens)
    have hpeel := peelBack_spaced htokens hcontent.trimmed.stop hcontent.trailing
    simp only [splitHead, htrim, peelFront_of_eq_none hleading, hpeel, readingOrder, if_neg hempty,
      List.nil_append, List.reverse_reverse, trim_eq_self hcontent.trimmed]

end Chronicle.Script
