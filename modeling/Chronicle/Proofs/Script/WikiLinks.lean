import Chronicle.Proofs.Script.LinkSpans
import Chronicle.Script.Link
import Mathlib.Data.List.TakeWhile

/-!
# Link spans and wiki links

Two readers know of links.  The one that looks for links in a description takes `[[name]]`, where the name is not
empty and has no bracket in it.  The cut in front of a description passes over every text from `[[` to the next
`]]`, whatever stands between.

*Wiki links are link spans.*  They are those with a name between their brackets (`isWikiLink_iff`).  Link spans
with other brackets in them may overlap, but they overlap at their ends: a span that is passed over ends where
every span that starts in it ends (`SpansFrom.exists_of_in`).  So the cut passes over every wiki link.

*The first bar.*  A bar that is outside of every wiki link is where the description starts, unless it stands in a
link span that holds another bracket (`splitDescription_firstBar`).  Then the bar is passed over
(`splitDescription_firstBar_unclosed`).
-/

namespace Chronicle.Script

open Chronicle.Text

variable {cs sep : List Char} {place : Nat} {span link : LinkSpan} {spans : List LinkSpan}

/-! ## Wiki links by their places -/

theorem wikiLink?_eq_some_iff {written : List Char} :
    wikiLink? cs = some written ↔
      ∃ name after, cs = '[' :: '[' :: (name ++ ']' :: ']' :: after) ∧ name ≠ [] ∧
        (∀ c ∈ name, isLinkNameChar c) ∧ written = '[' :: '[' :: (name ++ [']', ']']) := by
  constructor
  · intro h
    unfold wikiLink? at h
    split at h
    · next rest =>
      dsimp only at h
      split at h
      · next after hafter =>
        split at h
        · cases h
        · next hname =>
          cases h
          refine ⟨rest.takeWhile isLinkNameChar, after, ?_, ?_, fun c => List.mem_takeWhile_imp, by simp⟩
          · rw [← hafter, List.takeWhile_append_dropWhile]
          · simpa using hname
      · cases h
    · cases h
  · rintro ⟨name, after, rfl, hne, hname, rfl⟩
    obtain ⟨htake, hdrop⟩ := span_append_cons ']' hname (by decide) (']' :: after)
    rw [wikiLink?, htake, hdrop]
    simp [hne]

/-- The span is a wiki link, as the reader of links finds them. -/
def LinkSpan.IsWikiLink (cs : List Char) (span : LinkSpan) : Prop :=
  ∃ written, wikiLink? (cs.drop span.opening) = some written ∧ span.stop = span.opening + written.length

/-- A bracket stands between the brackets of the span. -/
def LinkSpan.HoldsBracket (cs : List Char) (span : LinkSpan) : Prop :=
  ∃ place, span.opening + 2 ≤ place ∧ place < span.closing ∧
    (StandsAt ['['] cs place ∨ StandsAt [']'] cs place)

theorem getElem?_inner {inner after : List Char} (hdrop : cs.drop place = '[' :: '[' :: (inner ++ after)) {i : Nat}
    (hi : i < inner.length) : cs[place + 2 + i]? = some inner[i] := by
  have hinner : cs.drop (place + 2) = inner ++ after :=
    drop_succ_of_drop_eq_cons (drop_succ_of_drop_eq_cons hdrop)
  rw [← List.getElem?_drop, hinner, List.getElem?_append_left hi, List.getElem?_eq_getElem hi]

theorem LinkSpan.In.exists_inner (h : span.In cs) :
    ∃ inner after, cs.drop span.opening = '[' :: '[' :: (inner ++ ']' :: ']' :: after) ∧
      span.closing = span.opening + 2 + inner.length := by
  obtain ⟨rest, hopens⟩ := h.opens
  obtain ⟨after, hcloses⟩ := h.closes.1.2
  obtain ⟨n, hn⟩ := Nat.exists_eq_add_of_le h.closes.1.1
  have hrest : cs.drop (span.opening + 2) = rest :=
    drop_succ_of_drop_eq_cons (drop_succ_of_drop_eq_cons hopens.symm)
  have hafter : rest.drop n = ']' :: ']' :: after := by
    rw [← hrest, List.drop_drop, ← hn]
    exact hcloses.symm
  have hlength : n ≤ rest.length := by
    have hle := h.stop_le
    rw [stop] at hle
    rw [← hrest, List.length_drop]
    omega
  refine ⟨rest.take n, after, ?_, by rw [List.length_take_of_le hlength, hn]⟩
  rw [← hafter, List.take_append_drop]
  exact hopens.symm

theorem LinkSpan.IsWikiLink.exists_name (h : link.IsWikiLink cs) :
    ∃ name after, cs.drop link.opening = '[' :: '[' :: (name ++ ']' :: ']' :: after) ∧ name ≠ [] ∧
      (∀ c ∈ name, isLinkNameChar c) ∧ link.closing = link.opening + 2 + name.length := by
  obtain ⟨written, hread, hstop⟩ := h
  obtain ⟨name, after, hdrop, hne, hname, rfl⟩ := wikiLink?_eq_some_iff.mp hread
  refine ⟨name, after, hdrop, hne, hname, ?_⟩
  simp only [LinkSpan.stop, List.length_cons, List.length_append, List.length_nil] at hstop
  omega

theorem LinkSpan.IsWikiLink.not_holdsBracket (h : link.IsWikiLink cs) : ¬link.HoldsBracket cs := by
  obtain ⟨name, after, hdrop, -, hname, hclosing⟩ := h.exists_name
  rintro ⟨place, hbehind, hbefore, hbracket⟩
  obtain ⟨i, rfl⟩ := Nat.exists_eq_add_of_le hbehind
  have hi : i < name.length := by omega
  rw [standsAt_singleton_iff, standsAt_singleton_iff, getElem?_inner hdrop hi, Option.some.injEq,
    Option.some.injEq] at hbracket
  have hchar := hname _ (List.getElem_mem hi)
  rcases hbracket with hbracket | hbracket <;> rw [hbracket] at hchar <;> cases hchar

theorem LinkSpan.IsWikiLink.to_in (h : link.IsWikiLink cs) : link.In cs := by
  obtain ⟨name, after, hdrop, -, -, hclosing⟩ := h.exists_name
  refine ⟨?_, ⟨by omega, ?_⟩, ?_⟩
  · rw [StandsAt, hdrop]
    exact List.prefix_append ['[', '['] _
  · have hname : cs.drop (link.opening + 2) = name ++ ']' :: ']' :: after :=
      drop_succ_of_drop_eq_cons (drop_succ_of_drop_eq_cons hdrop)
    rw [hclosing, ← standsAt_drop_iff, hname, StandsAt, List.drop_left]
    exact List.prefix_append [']', ']'] after
  · rintro place ⟨hbehind, hplace⟩
    by_contra hbefore
    have hbracket : StandsAt [']'] cs place := standsAt_singleton_iff.mpr (standsAt_cons_iff.mp hplace).1
    exact h.not_holdsBracket ⟨place, hbehind, Nat.not_le.mp hbefore, .inr hbracket⟩

/-- The wiki links of a text are the link spans with a name between their brackets. -/
theorem isWikiLink_iff :
    span.IsWikiLink cs ↔ span.In cs ∧ span.opening + 2 < span.closing ∧ ¬span.HoldsBracket cs := by
  constructor
  · intro h
    obtain ⟨name, -, -, hne, -, hclosing⟩ := h.exists_name
    have hpos : 0 < name.length := List.length_pos_iff.mpr hne
    exact ⟨h.to_in, by omega, h.not_holdsBracket⟩
  · rintro ⟨hin, hlt, hfree⟩
    obtain ⟨inner, after, hdrop, hclosing⟩ := hin.exists_inner
    have hne : inner ≠ [] := List.ne_nil_of_length_pos (by omega)
    refine ⟨_, wikiLink?_eq_some_iff.mpr ⟨inner, after, hdrop, hne, fun c hc => ?_, rfl⟩, ?_⟩
    · obtain ⟨i, hi, rfl⟩ := List.mem_iff_getElem.mp hc
      by_contra hbracket
      refine hfree ⟨span.opening + 2 + i, by omega, by omega, ?_⟩
      rw [standsAt_singleton_iff, standsAt_singleton_iff, getElem?_inner hdrop hi, Option.some.injEq,
        Option.some.injEq]
      simpa [isLinkNameChar, or_iff_not_imp_left] using hbracket
    · simp only [LinkSpan.stop, List.length_cons, List.length_append, List.length_nil]
      omega

/-! ## Overlapping spans -/

/-- No closing brackets stand where opening brackets do, not even in part. -/
theorem LinkSpan.In.add_two_le (h : link.In cs) (hplace : StandsAt [']', ']'] cs place)
    (hstop : link.opening < place + 2) : link.opening + 2 ≤ place := by
  obtain ⟨hopen, hopen'⟩ := standsAt_cons_iff.mp h.opens
  obtain ⟨hclose, hclose'⟩ := standsAt_cons_iff.mp hplace
  rw [standsAt_singleton_iff] at hopen' hclose'
  by_contra hlt
  obtain heq | heq | heq : link.opening = place + 1 ∨ link.opening = place ∨ link.opening + 1 = place := by omega
  · rw [heq, hclose'] at hopen
    cases hopen
  · rw [heq, hclose] at hopen
    cases hopen
  · rw [heq, hclose] at hopen'
    cases hopen'

/-- A link span that starts within another one ends where this ends. -/
theorem LinkSpan.In.closing_eq (h : link.In cs) (hspan : span.In cs) (hcovers : span.Covers link.opening) :
    link.closing = span.closing := by
  obtain ⟨hopening, hstop⟩ := hcovers
  have hbehind : link.opening + 2 ≤ span.closing := h.add_two_le hspan.closes.1.2 hstop
  refine Nat.le_antisymm (h.closes.2 ⟨hbehind, hspan.closes.1.2⟩) (hspan.closes.2 ⟨?_, h.closes.1.2⟩)
  exact Nat.le_trans (Nat.add_le_add_right hopening 2) h.closes.1.1

/-- Every link span ends with a span that is passed over. -/
theorem SpansFrom.exists_of_in (h : SpansFrom cs place spans) (hin : link.In cs) (hplace : place ≤ link.opening) :
    ∃ span ∈ spans, span.opening ≤ link.opening ∧ span.closing = link.closing := by
  induction h with
  | nil hnone => exact absurd (hnone _ hin) (Nat.not_lt.mpr hplace)
  | @cons _ span spans hspan _ hfirst _ ih =>
    have hopening := hfirst _ hin hplace
    by_cases hstop : link.opening < span.stop
    · exact ⟨span, List.mem_cons_self, hopening, (hin.closing_eq hspan ⟨hopening, hstop⟩).symm⟩
    · obtain ⟨other, hother, hends⟩ := ih (Nat.not_lt.mp hstop)
      exact ⟨other, List.mem_cons_of_mem _ hother, hends⟩

theorem SpansFrom.exists_covers_iff (h : SpansFrom cs 0 spans) :
    (∃ span ∈ spans, span.Covers place) ↔ ∃ span : LinkSpan, span.In cs ∧ span.Covers place := by
  constructor
  · rintro ⟨span, hspan, hcovers⟩
    exact ⟨span, h.in_of_mem hspan, hcovers⟩
  · rintro ⟨link, hin, hopening, hstop⟩
    obtain ⟨span, hspan, hbefore, hends⟩ := h.exists_of_in hin (Nat.zero_le _)
    refine ⟨span, hspan, Nat.le_trans hbefore hopening, ?_⟩
    rwa [LinkSpan.stop, hends]

/-! ## The first bar -/

/-- A bar at a place that no wiki link covers. -/
def OutsideLinks (cs : List Char) (place : Nat) : Prop :=
  StandsAt ['|'] cs place ∧ ∀ link : LinkSpan, link.IsWikiLink cs → ¬link.Covers place

/-- Only the wiki links that start up to a bar can cover it. -/
theorem outsideLinks_iff :
    OutsideLinks cs place ↔ StandsAt ['|'] cs place ∧
      ∀ opening ≤ place, ∀ written ∈ wikiLink? (cs.drop opening), opening + written.length ≤ place := by
  refine and_congr_right fun _ => ⟨fun h opening hopening written hread => ?_, fun h link hlink hcovers => ?_⟩
  · by_contra hlt
    obtain ⟨name, after, -, -, -, rfl⟩ := wikiLink?_eq_some_iff.mp hread
    simp only [List.length_cons, List.length_append, List.length_nil] at hlt
    refine h ⟨opening, opening + 2 + name.length⟩ ⟨_, hread, ?_⟩ ⟨hopening, ?_⟩
    · simp only [LinkSpan.stop, List.length_cons, List.length_append, List.length_nil]
      omega
    · show place < opening + 2 + name.length + 2
      omega
  · obtain ⟨written, hread, hstop⟩ := hlink
    have hle := h link.opening hcovers.1 written hread
    rw [← hstop] at hle
    exact Nat.not_lt.mpr hle hcovers.2

instance (cs : List Char) (place : Nat) : Decidable (OutsideLinks cs place) :=
  decidable_of_iff _ outsideLinks_iff.symm

/-- A bar at a place that no link span covers. -/
def OutsideSpans (cs : List Char) (place : Nat) : Prop :=
  StandsAt ['|'] cs place ∧ ∀ span : LinkSpan, span.In cs → ¬span.Covers place

theorem OutsideSpans.outsideLinks (h : OutsideSpans cs place) : OutsideLinks cs place :=
  ⟨h.1, fun link hlink => h.2 link hlink.to_in⟩

theorem cutsAtLeast_outsideSpans (cs : List Char) :
    CutsAtLeast ['|'] cs {place | OutsideSpans cs place} 0 (cutDescriptionFrom? ['|'] 0 cs) := by
  obtain ⟨spans, hspans⟩ := exists_spansFrom cs 0
  have hcut : CutsAtLeast ['|'] cs (freePlaces ['|'] cs spans (0 + 0)) 0 (cutDescriptionFrom? ['|'] 0 cs) :=
    cutsAtLeast_cutDescriptionFrom? (List.cons_ne_nil '|' []) (by decide) List.drop_zero hspans
  have hplaces : freePlaces ['|'] cs spans (0 + 0) = {place | OutsideSpans cs place} := by
    refine Set.ext fun place => (and_iff_right (Nat.zero_le place)).trans (and_congr_right fun _ => ?_)
    have hcovers : (∃ span ∈ spans, span.Covers place) ↔ ∃ span : LinkSpan, span.In cs ∧ span.Covers place :=
      hspans.exists_covers_iff
    simpa only [not_exists, not_and] using not_congr hcovers
  rwa [hplaces] at hcut

theorem isLeast_of_splitDescription {head description : List Char}
    (h : splitDescription ['|'] cs = (head, some description)) :
    IsLeast {place | OutsideSpans cs place} head.length := by
  have hcut := cutsAtLeast_outsideSpans cs
  rw [splitDescription] at h
  split at h
  · next heq =>
    cases h
    rw [heq] at hcut
    simpa using hcut.2
  · cases h

theorem splitDescription_of_isLeast (h : IsLeast {place | OutsideSpans cs place} place) :
    splitDescription ['|'] cs = (cs.take place, some (cs.drop (place + 1))) := by
  have hcut := cutsAtLeast_outsideSpans cs
  rw [splitDescription]
  cases hresult : cutDescriptionFrom? ['|'] 0 cs with
  | none =>
    rw [hresult] at hcut
    exact absurd h.1 (Set.eq_empty_iff_forall_notMem.mp hcut place)
  | some parts =>
    obtain ⟨head, tail⟩ := parts
    rw [hresult] at hcut
    obtain ⟨hparts, hleast⟩ := hcut
    rw [Nat.zero_add] at hleast
    rw [List.drop_zero, List.append_assoc, List.singleton_append] at hparts
    obtain rfl := h.unique hleast
    rw [hparts, List.take_left, ← List.drop_drop, List.drop_left]
    rfl

/-- A bar between the brackets of a link span that is no wiki link has another bracket beside it. -/
theorem OutsideLinks.holdsBracket (h : OutsideLinks cs place) (hspan : span.In cs) (hcovers : span.Covers place) :
    span.HoldsBracket cs := by
  obtain ⟨hbar, hlinks⟩ := h
  obtain ⟨hopening, hstop⟩ := id hcovers
  rw [LinkSpan.stop] at hstop
  rw [standsAt_singleton_iff] at hbar
  have hne {other : Nat} {c : Char} (hother : cs[other]? = some c) (hc : c ≠ '|') : place ≠ other := by
    rintro rfl
    rw [hbar] at hother
    exact hc (Option.some.inj hother).symm
  obtain ⟨hopen, hopen'⟩ := standsAt_cons_iff.mp hspan.opens
  obtain ⟨hclose, hclose'⟩ := standsAt_cons_iff.mp hspan.closes.1.2
  rw [standsAt_singleton_iff] at hopen' hclose'
  have hfirst := hne hopen (by decide)
  have hsecond := hne hopen' (by decide)
  have hthird := hne hclose (by decide)
  have hfourth := hne hclose' (by decide)
  by_contra hfree
  exact hlinks span (isWikiLink_iff.mpr ⟨hspan, by omega, hfree⟩) hcovers

/-- The description starts behind the first bar outside of every wiki link, unless this bar stands between two
opening brackets and the first two closing brackets behind them.  Another bracket stands there too, and the cut is
further on, if there is one. -/
theorem splitDescription_firstBar (h : IsLeast {place | OutsideLinks cs place} place) :
    (splitDescription ['|'] cs = (cs.take place, some (cs.drop (place + 1))) ↔
        ∀ span : LinkSpan, span.In cs → ¬span.Covers place) ∧
      (∀ span : LinkSpan, span.In cs → span.Covers place → span.HoldsBracket cs) ∧
      ∀ head description, splitDescription ['|'] cs = (head, some description) → place ≤ head.length := by
  refine ⟨⟨fun hsplit => ?_, fun hfree => ?_⟩, fun span => h.1.holdsBracket, fun head description hsplit => ?_⟩
  · have hlt : place < cs.length := (List.getElem?_eq_some_iff.mp (standsAt_singleton_iff.mp h.1.1)).1
    have hleast := isLeast_of_splitDescription hsplit
    rw [List.length_take_of_le (Nat.le_of_lt hlt)] at hleast
    exact hleast.1.2
  · exact splitDescription_of_isLeast ⟨⟨h.1.1, hfree⟩, fun other hother => h.2 hother.outsideLinks⟩
  · exact h.2 (isLeast_of_splitDescription hsplit).1.outsideLinks

/-- The bar in a wiki link is passed over, and the first one behind it is not. -/
theorem splitDescription_firstBar_alias :
    IsLeast {place | OutsideLinks "[[a|b]] c | d".toList place} 10 ∧
      splitDescription ['|'] "[[a|b]] c | d".toList = ("[[a|b]] c ".toList, some " d".toList) := by
  have hleast : IsLeast {place | OutsideLinks "[[a|b]] c | d".toList place} 10 := by
    have hbefore : ∀ place < 10, ¬OutsideLinks "[[a|b]] c | d".toList place := by decide +kernel
    have hhere : OutsideLinks "[[a|b]] c | d".toList 10 := by decide +kernel
    exact ⟨hhere, fun place hplace => Nat.not_lt.mp fun hlt => hbefore place hlt hplace⟩
  refine ⟨hleast, (splitDescription_firstBar hleast).1.mpr fun span hspan hcovers => ?_⟩
  have hclosing : ∀ place < 13, 6 ≤ place → ¬StandsAt [']', ']'] "[[a|b]] c | d".toList place := by decide +kernel
  have hlength : "[[a|b]] c | d".toList.length = 13 := rfl
  have hstop := hspan.stop_le
  have hcovered := hcovers.2
  rw [LinkSpan.stop] at hstop hcovered
  exact hclosing span.closing (by omega) (by omega) hspan.closes.1.2

/-- Opening brackets that are never closed reach as far as the end of the next wiki link, and the bar between is
passed over although no wiki link covers it. -/
theorem splitDescription_firstBar_unclosed :
    IsLeast {place | OutsideLinks " Fix the [[ typo | see [[Log]]".toList place} 17 ∧
      splitDescription ['|'] " Fix the [[ typo | see [[Log]]".toList =
        (" Fix the [[ typo | see [[Log]]".toList, none) := by
  have hbefore : ∀ place < 17, ¬OutsideLinks " Fix the [[ typo | see [[Log]]".toList place := by decide +kernel
  have hhere : OutsideLinks " Fix the [[ typo | see [[Log]]".toList 17 := by decide +kernel
  refine ⟨⟨hhere, fun place hplace => ?_⟩, by decide +kernel⟩
  exact Nat.not_lt.mp fun hlt => hbefore place hlt hplace

end Chronicle.Script
