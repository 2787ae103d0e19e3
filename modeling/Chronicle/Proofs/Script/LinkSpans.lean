import Chronicle.Proofs.Text.Places
import Chronicle.Script.Description
import Mathlib.Data.Nat.Find

/-!
# The first separator outside of links

A link span is said here by its places: where its opening brackets stand, and where the first closing brackets
behind them stand (`LinkSpan.In`).  The link spans of a text are found from left to right, each from the end of
the one before (`SpansFrom`).  Every text has just one such list of spans (`exists_spansFrom`,
`SpansFrom.unique`), and it does not depend on a separator.

A separator is *free* at a place that no link span covers.  Reading a text up to its first free separator, the
cut in front of a description meets the link spans in this order, because a separator without an opening bracket
never stands where a link span starts.  The main statement is `splitDescription_cutsAtFirstFree`.
-/

namespace Chronicle.Script

open Chronicle.Text

/-! ## Link spans by their places -/

/-- The places of the opening and of the closing brackets of a link span. -/
structure LinkSpan where
  opening : Nat
  closing : Nat
  deriving DecidableEq, Repr

/-- The place behind the closing brackets. -/
def LinkSpan.stop (span : LinkSpan) : Nat := span.closing + 2

def LinkSpan.Covers (span : LinkSpan) (place : Nat) : Prop :=
  span.opening ≤ place ∧ place < span.stop

/-- Two opening brackets, and the first two closing brackets behind them. -/
structure LinkSpan.In (cs : List Char) (span : LinkSpan) : Prop where
  opens : StandsAt ['[', '['] cs span.opening
  closes : IsLeast {place | span.opening + 2 ≤ place ∧ StandsAt [']', ']'] cs place} span.closing

/-- The link spans of a text from a place on: the first one, and those from its end on. -/
inductive SpansFrom (cs : List Char) : Nat → List LinkSpan → Prop
  | nil {place : Nat} (hnone : ∀ span : LinkSpan, span.In cs → span.opening < place) : SpansFrom cs place []
  | cons {place : Nat} {span : LinkSpan} {spans : List LinkSpan} (hin : span.In cs)
      (hplace : place ≤ span.opening)
      (hfirst : ∀ other : LinkSpan, other.In cs → place ≤ other.opening → span.opening ≤ other.opening)
      (hrest : SpansFrom cs span.stop spans) : SpansFrom cs place (span :: spans)

variable {cs sep : List Char} {place : Nat} {span : LinkSpan} {spans : List LinkSpan}

theorem LinkSpan.In.eq_of_opening_eq {other : LinkSpan} (h : span.In cs) (hother : other.In cs)
    (hopening : span.opening = other.opening) : span = other := by
  obtain ⟨opening, closing⟩ := span
  obtain ⟨_, closing'⟩ := other
  obtain rfl : opening = _ := hopening
  obtain rfl : closing = closing' := h.closes.unique hother.closes
  rfl

theorem LinkSpan.In.lt_stop (h : span.In cs) : span.opening < span.stop := by
  have hbehind : span.opening + 2 ≤ span.closing := h.closes.1.1
  rw [stop]
  omega

/-- A link span ends within its text. -/
theorem LinkSpan.In.stop_le (h : span.In cs) : span.stop ≤ cs.length := by
  have hlength : 2 ≤ (cs.drop span.closing).length := h.closes.1.2.length_le
  rw [List.length_drop] at hlength
  rw [stop]
  omega

theorem SpansFrom.unique {others : List LinkSpan} (h : SpansFrom cs place spans)
    (hothers : SpansFrom cs place others) : spans = others := by
  induction h generalizing others with
  | nil hnone =>
    cases hothers with
    | nil => rfl
    | cons hin hplace => exact absurd (hnone _ hin) (Nat.not_lt.mpr hplace)
  | cons hin hplace hfirst _ ih =>
    cases hothers with
    | nil hnone => exact absurd (hnone _ hin) (Nat.not_lt.mpr hplace)
    | cons hin' hplace' hfirst' hrest' =>
      have hopening := Nat.le_antisymm (hfirst _ hin' hplace') (hfirst' _ hin hplace)
      obtain rfl := hin.eq_of_opening_eq hin' hopening
      rw [ih hrest']

theorem exists_spansFrom (cs : List Char) (place : Nat) : ∃ spans, SpansFrom cs place spans := by
  -- The end of the first span is closer to the end of the text.
  induction hleft : cs.length - place using Nat.strong_induction_on generalizing place with
  | h left ih =>
    by_cases hsome : ∃ opening, place ≤ opening ∧ ∃ span : LinkSpan, span.In cs ∧ span.opening = opening
    · classical
      obtain ⟨hplace, span, hin, hopening⟩ := Nat.find_spec hsome
      rw [← hopening] at hplace
      have hlt := hin.lt_stop
      have hle := hin.stop_le
      obtain ⟨spans, hspans⟩ := ih (cs.length - span.stop) (by omega) span.stop rfl
      refine ⟨span :: spans, .cons hin hplace (fun other hother hbehind => ?_) hspans⟩
      rw [hopening]
      exact Nat.find_min' hsome ⟨hbehind, other, hother, rfl⟩
    · refine ⟨[], .nil fun span hin => ?_⟩
      by_contra hbehind
      exact hsome ⟨span.opening, Nat.not_lt.mp hbehind, span, hin, rfl⟩

theorem SpansFrom.le_opening (h : SpansFrom cs place spans) (hspan : span ∈ spans) :
    place ≤ span.opening := by
  induction h with
  | nil => cases hspan
  | cons hin hplace _ _ ih =>
    rcases List.mem_cons.mp hspan with rfl | hmem
    · exact hplace
    · exact Nat.le_trans hplace (Nat.le_trans (Nat.le_of_lt hin.lt_stop) (ih hmem))

theorem SpansFrom.in_of_mem (h : SpansFrom cs place spans) (hspan : span ∈ spans) : span.In cs := by
  induction h with
  | nil => cases hspan
  | cons hin _ _ _ ih =>
    rcases List.mem_cons.mp hspan with rfl | hmem
    · exact hin
    · exact ih hmem

/-- The span at a place is the first one from there on. -/
theorem SpansFrom.exists_cons (h : SpansFrom cs span.opening spans) (hin : span.In cs) :
    ∃ rest, spans = span :: rest ∧ SpansFrom cs span.stop rest := by
  cases h with
  | nil hnone => exact absurd (hnone _ hin) (Nat.lt_irrefl _)
  | cons hin' hplace hfirst hrest =>
    have hopening := Nat.le_antisymm hplace (hfirst _ hin (Nat.le_refl _))
    obtain rfl := hin.eq_of_opening_eq hin' hopening
    exact ⟨_, rfl, hrest⟩

/-- Where no span starts, the spans are those from the next place on. -/
theorem SpansFrom.succ (h : SpansFrom cs place spans)
    (hnone : ∀ span : LinkSpan, span.In cs → span.opening ≠ place) : SpansFrom cs (place + 1) spans := by
  cases h with
  | nil hall => exact .nil fun span hin => Nat.lt_succ_of_lt (hall span hin)
  | cons hin hplace hfirst hrest =>
    refine .cons hin (Nat.lt_of_le_of_ne hplace (hnone _ hin).symm) (fun other hother hbehind => ?_) hrest
    exact hfirst other hother (Nat.le_of_succ_le hbehind)

/-! ## Where a link span is read -/

/-- A reader of link spans finds the one that starts at a place. -/
theorem exists_in_of_linkSpan? {piece : List Char} (h : linkSpan? (cs.drop place) = some piece) :
    ∃ span : LinkSpan, span.In cs ∧ span.opening = place ∧ span.stop = place + piece.length := by
  unfold linkSpan? at h
  split at h
  · next rest hdrop =>
    obtain ⟨⟨inner, after⟩, hcut, rfl⟩ := Option.map_eq_some_iff.mp h
    have hrest : cs.drop (place + 2) = rest := drop_succ_of_drop_eq_cons (drop_succ_of_drop_eq_cons hdrop)
    obtain ⟨hstands, hleast⟩ := isLeast_of_cutAt? hcut
    rw [← hrest] at hstands hleast
    refine ⟨⟨place, place + 2 + inner.length⟩, ⟨?_, ?_, ?_⟩, rfl, ?_⟩
    · rw [StandsAt, hdrop]
      exact List.prefix_append ['[', '['] rest
    · exact ⟨Nat.le_add_right _ _, standsAt_drop_iff.mp hstands⟩
    · rintro other ⟨hbehind, hother⟩
      obtain ⟨n, rfl⟩ := Nat.exists_eq_add_of_le hbehind
      exact Nat.add_le_add_left (hleast (standsAt_drop_iff.mpr hother)) _
    · simp [LinkSpan.stop]
      omega
  · cases h

theorem ne_of_linkSpan?_eq_none (h : linkSpan? (cs.drop place) = none) (hin : span.In cs) :
    span.opening ≠ place := by
  rintro rfl
  obtain ⟨rest, hdrop⟩ := hin.opens
  rw [← hdrop] at h
  have hcut : cutAt? [']', ']'] rest = none := Option.map_eq_none_iff.mp h
  have hrest : cs.drop (span.opening + 2) = rest :=
    drop_succ_of_drop_eq_cons (drop_succ_of_drop_eq_cons hdrop.symm)
  obtain ⟨n, hn⟩ := Nat.exists_eq_add_of_le hin.closes.1.1
  have hstands := hin.closes.1.2
  rw [hn, ← standsAt_drop_iff, hrest] at hstands
  exact not_standsAt_of_cutAt? (List.cons_ne_nil _ _) hcut n hstands

theorem linkSpan?_of_pieceAt? {piece : List Char} (h : pieceAt? sep cs = some piece) (hne : piece ≠ sep) :
    linkSpan? cs = some piece := by
  rw [pieceAt?, Option.or_eq_some_iff] at h
  rcases h with hspan | ⟨-, hsep⟩
  · exact hspan
  · split at hsep
    · exact absurd (Option.some.inj hsep).symm hne
    · cases hsep

/-- A link span starts with a bracket, so it is not the separator. -/
theorem prefix_of_pieceAt? (hbracket : '[' ∉ sep) (h : pieceAt? sep cs = some sep) : sep <+: cs := by
  rw [pieceAt?, Option.or_eq_some_iff] at h
  rcases h with hspan | ⟨-, hsep⟩
  · unfold linkSpan? at hspan
    split at hspan
    · obtain ⟨parts, -, rfl⟩ := Option.map_eq_some_iff.mp hspan
      exact absurd List.mem_cons_self hbracket
    · cases hspan
  · split at hsep
    · next hfront => exact List.isPrefixOf_iff_prefix.mp hfront
    · cases hsep

theorem of_pieceAt?_eq_none (h : pieceAt? sep cs = none) : linkSpan? cs = none ∧ ¬sep <+: cs := by
  rw [pieceAt?, Option.or_eq_none_iff] at h
  refine ⟨h.1, fun hfront => ?_⟩
  rw [if_pos (List.isPrefixOf_iff_prefix.mpr hfront)] at h
  cases h.2

/-! ## Free separators -/

/-- A separator at a place that no link span covers. -/
def IsFree (sep cs : List Char) (spans : List LinkSpan) (place : Nat) : Prop :=
  StandsAt sep cs place ∧ ∀ span ∈ spans, ¬span.Covers place

/-- The places of free separators from some place on. -/
def freePlaces (sep cs : List Char) (spans : List LinkSpan) (start : Nat) : Set Nat :=
  {place | start ≤ place ∧ IsFree sep cs spans place}

theorem freePlaces_eq_empty (hne : sep ≠ []) {start : Nat} (h : cs.length ≤ start) :
    freePlaces sep cs spans start = ∅ := by
  refine Set.eq_empty_of_forall_notMem ?_
  rintro place ⟨hplace, hstands, -⟩
  rw [StandsAt, List.drop_eq_nil_of_le (Nat.le_trans h hplace), List.prefix_nil] at hstands
  exact hne hstands

theorem freePlaces_succ (h : ¬StandsAt sep cs place) :
    freePlaces sep cs spans (place + 1) = freePlaces sep cs spans place := by
  refine Set.ext fun other => and_congr_left fun hfree => ?_
  constructor
  · exact Nat.le_of_succ_le
  · intro hle
    refine Nat.lt_of_le_of_ne hle ?_
    rintro rfl
    exact h hfree.1

/-- A link span covers all places up to its end. -/
theorem freePlaces_stop (hin : span.In cs) :
    freePlaces sep cs spans span.stop = freePlaces sep cs (span :: spans) span.opening := by
  have hlt := hin.lt_stop
  refine Set.ext fun place => ?_
  constructor
  · rintro ⟨hbehind, hstands, huncovered⟩
    refine ⟨by omega, hstands, List.forall_mem_cons.mpr ⟨fun hcovers => ?_, huncovered⟩⟩
    exact Nat.not_lt.mpr hbehind hcovers.2
  · rintro ⟨hplace, hstands, huncovered⟩
    obtain ⟨hspan, hspans⟩ := List.forall_mem_cons.mp huncovered
    refine ⟨?_, hstands, hspans⟩
    by_contra hinside
    exact hspan ⟨hplace, Nat.not_le.mp hinside⟩

/-- A separator does not stand where a link span starts, so the spans from a place on leave it free there. -/
theorem isLeast_freePlaces (hne : sep ≠ []) (hbracket : '[' ∉ sep) (hspans : SpansFrom cs place spans)
    (h : StandsAt sep cs place) : IsLeast (freePlaces sep cs spans place) place := by
  refine ⟨⟨Nat.le_refl _, h, fun span hspan hcovers => ?_⟩, fun other hother => hother.1⟩
  have hopening := Nat.le_antisymm hcovers.1 (hspans.le_opening hspan)
  obtain ⟨c, more, rfl⟩ := List.exists_cons_of_ne_nil hne
  obtain ⟨rest, hrest⟩ := h
  obtain ⟨rest', hrest'⟩ := (hspans.in_of_mem hspan).opens
  rw [hopening, ← hrest] at hrest'
  obtain ⟨rfl, -⟩ := List.cons.inj hrest'
  exact hbracket List.mem_cons_self

/-! ## The cut -/

/-- A cut of the text behind a place falls on the least of some places, and there is none only where there are no
such places. -/
def CutsAtLeast (sep cs : List Char) (places : Set Nat) (place : Nat) : Option (List Char × List Char) → Prop
  | none => places = ∅
  | some (head, tail) => cs.drop place = head ++ sep ++ tail ∧ IsLeast places (place + head.length)

/-- A character that is passed over comes before the cut. -/
theorem CutsAtLeast.cons {places : Set Nat} {result : Option (List Char × List Char)} {c : Char}
    {rest : List Char} (h : CutsAtLeast sep cs places (place + 1) result) (hdrop : cs.drop place = c :: rest) :
    CutsAtLeast sep cs places place (result.map fun (head, tail) => (c :: head, tail)) := by
  cases result with
  | none => exact h
  | some parts =>
    obtain ⟨hparts, hleast⟩ := h
    have hrest : cs.drop (place + 1) = rest := drop_succ_of_drop_eq_cons hdrop
    have hlength : place + 1 + parts.1.length = place + (c :: parts.1).length := by
      rw [List.length_cons]
      omega
    exact ⟨by rw [hdrop, ← hrest, hparts]; rfl, hlength ▸ hleast⟩

theorem cutsAtLeast_cutDescriptionFrom? (hne : sep ≠ []) (hbracket : '[' ∉ sep) {skip : Nat} {rest : List Char}
    (hdrop : cs.drop place = rest) (hspans : SpansFrom cs (place + skip) spans) :
    CutsAtLeast sep cs (freePlaces sep cs spans (place + skip)) place (cutDescriptionFrom? sep skip rest) := by
  -- The spans are those behind what is skipped, so a link that is being passed over is no longer one of them.
  fun_induction cutDescriptionFrom? sep skip rest generalizing place spans with
  | case1 skip hempty => exact absurd (List.isEmpty_iff.mp hempty) hne
  | case2 skip hempty =>
    exact freePlaces_eq_empty hne (Nat.le_trans (List.drop_eq_nil_iff.mp hdrop) (Nat.le_add_right _ _))
  | case3 skip c rest ih =>
    have hrest : cs.drop (place + 1) = rest := drop_succ_of_drop_eq_cons hdrop
    rw [Nat.add_succ, ← Nat.succ_add] at hspans ⊢
    exact (ih hrest hspans).cons hdrop
  | case4 c rest hpiece =>
    rw [← hdrop] at hpiece ⊢
    have hstands : StandsAt sep cs place := prefix_of_pieceAt? hbracket hpiece
    refine ⟨?_, isLeast_freePlaces hne hbracket hspans hstands⟩
    rw [List.nil_append]
    exact List.prefix_iff_eq_append.mp hstands |>.symm
  | case5 c rest piece hpiece hlink ih =>
    have hrest : cs.drop (place + 1) = rest := drop_succ_of_drop_eq_cons hdrop
    rw [← hdrop] at hpiece
    obtain ⟨span, hin, rfl, hstop⟩ := exists_in_of_linkSpan? (linkSpan?_of_pieceAt? hpiece hlink)
    obtain ⟨more, rfl, hmore⟩ := hspans.exists_cons hin
    have hlt := hin.lt_stop
    have hskip : span.opening + 1 + (piece.length - 1) = span.stop := by omega
    rw [← hskip] at hmore
    have hcut := ih hrest hmore
    rw [hskip, freePlaces_stop hin] at hcut
    exact hcut.cons hdrop
  | case6 c rest hpiece ih =>
    have hrest : cs.drop (place + 1) = rest := drop_succ_of_drop_eq_cons hdrop
    rw [← hdrop] at hpiece
    obtain ⟨hlink, hsep⟩ := of_pieceAt?_eq_none hpiece
    have hcut := ih hrest (hspans.succ fun span hin => ne_of_linkSpan?_eq_none hlink hin)
    rw [freePlaces_succ hsep] at hcut
    exact hcut.cons hdrop

/-- The description starts behind the first separator that stands outside of all link spans, nothing else is lost,
and there is none where every separator stands inside of a link span. -/
theorem splitDescription_cutsAtFirstFree (hne : sep ≠ []) (hbracket : '[' ∉ sep) (cs : List Char) :
    ∃ spans, SpansFrom cs 0 spans ∧ (∀ others, SpansFrom cs 0 others → others = spans) ∧
      (splitDescription sep cs = (cs, none) ↔
        ∀ place, StandsAt sep cs place → ∃ span ∈ spans, span.Covers place) ∧
      ((∃ place, StandsAt sep cs place ∧ ∀ span ∈ spans, ¬span.Covers place) →
        ∃ head description, splitDescription sep cs = (head, some description) ∧
          cs = head ++ sep ++ description ∧
          IsLeast {place | StandsAt sep cs place ∧ ∀ span ∈ spans, ¬span.Covers place} head.length) := by
  obtain ⟨spans, hspans⟩ := exists_spansFrom cs 0
  refine ⟨spans, hspans, fun others hothers => hothers.unique hspans, ?_⟩
  have hcut : CutsAtLeast sep cs (freePlaces sep cs spans (0 + 0)) 0 (cutDescriptionFrom? sep 0 cs) :=
    cutsAtLeast_cutDescriptionFrom? hne hbracket List.drop_zero hspans
  have hplaces : freePlaces sep cs spans 0 = {place | IsFree sep cs spans place} :=
    Set.ext fun place => and_iff_right (Nat.zero_le place)
  rw [Nat.zero_add, hplaces] at hcut
  rw [splitDescription]
  cases hresult : cutDescriptionFrom? sep 0 cs with
  | none =>
    rw [hresult] at hcut
    have hcovered : ∀ place, ¬IsFree sep cs spans place := Set.eq_empty_iff_forall_notMem.mp hcut
    refine ⟨⟨fun _ place hstands => ?_, fun _ => rfl⟩, fun ⟨place, hfree⟩ => absurd hfree (hcovered place)⟩
    by_contra hnone
    exact hcovered place ⟨hstands, fun span hspan hcovers => hnone ⟨span, hspan, hcovers⟩⟩
  | some parts =>
    rw [hresult] at hcut
    obtain ⟨hparts, hleast⟩ := hcut
    rw [Nat.zero_add] at hleast
    rw [List.drop_zero] at hparts
    refine ⟨⟨fun hnone => ?_, fun hcovered => ?_⟩, fun _ => ⟨parts.1, parts.2, rfl, hparts, hleast⟩⟩
    · cases hnone
    · obtain ⟨span, hspan, hcovers⟩ := hcovered _ hleast.1.1
      exact absurd hcovers (hleast.1.2 span hspan)

/-- The separator inside of a link is passed over, and the one behind brackets that are never closed is not. -/
theorem splitDescription_cutsAtFirstFree_unclosed :
    splitDescription ['|', '|'] "[[a||b]] [[c||d".toList = ("[[a||b]] [[c".toList, some "d".toList) ∧
      ∃ spans, SpansFrom "[[a||b]] [[c||d".toList 0 spans ∧
        IsLeast {place | StandsAt ['|', '|'] "[[a||b]] [[c||d".toList place ∧
          ∀ span ∈ spans, ¬span.Covers place} 12 := by
  have hvalue : splitDescription ['|', '|'] "[[a||b]] [[c||d".toList =
      ("[[a||b]] [[c".toList, some "d".toList) := by decide +kernel
  have hne : ['|', '|'] ≠ [] := by decide
  have hbracket : '[' ∉ ['|', '|'] := by decide
  obtain ⟨spans, hspans, -, -, hcut⟩ :=
    splitDescription_cutsAtFirstFree hne hbracket "[[a||b]] [[c||d".toList
  have hfree : ∀ span ∈ spans, ¬span.Covers 12 := by
    intro span hspan hcovers
    have hin := hspans.in_of_mem hspan
    -- Closing brackets would have to stand in the last four characters.
    have hclosing : ∀ place < 14, 11 ≤ place → ¬StandsAt [']', ']'] "[[a||b]] [[c||d".toList place := by
      decide +kernel
    have hlength : "[[a||b]] [[c||d".toList.length = 15 := rfl
    have hstop := hin.stop_le
    have hcovered := hcovers.2
    rw [LinkSpan.stop] at hstop hcovered
    exact hclosing span.closing (by omega) (by omega) hin.closes.1.2
  obtain ⟨head, description, hsplit, -, hleast⟩ := hcut ⟨12, by decide +kernel, hfree⟩
  rw [hvalue] at hsplit
  cases hsplit
  exact ⟨hvalue, spans, hspans, hleast⟩

end Chronicle.Script
