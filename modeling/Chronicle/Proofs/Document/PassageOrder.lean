import Chronicle.Proofs.Data.StableSort
import Chronicle.Proofs.Document.FenceLines
import Chronicle.Proofs.Document.Passages
import Mathlib.Data.List.DropRight

/-!
# Passages do not overlap

A passage stands in a document with the piece that it takes up (`StandsIn`): a fenced block is whole lines from its
opening line up to its closing line, and an inline block is a span of code with both of its backticks.

*Of one sort.*  The readers go on behind a passage that they have found, so the passages of one sort are apart
(`pairwise_fencedFrom`, `pairwise_inlineFrom`).

*Of both sorts.*  Only the start of an inline block is looked at when those inside of fenced blocks are left out.
This is enough, because a span that starts before an opening line ends before it (`StandsIn.stop_le_of_inline`).  The
blanks of a span may run over a line end, but a fence is not blank, and the backtick that closes a span has no other
one beside it and does not stand at the start of a line.  So the spans that are left out are those that have a
character in common with a fenced block (`mem_passages_iff`).

*Lines.*  A fenced block has a line feed in it and one behind it, so what comes after is further down
(`StandsIn.line_le`).

The main statement is `passages_apart`.
-/

namespace Chronicle.Document

open Chronicle.Data Chronicle.Text

variable {cs : List Char} {p q : Passage}

/-! ## Pieces of a document -/

/-- A passage with the piece of a document that it takes up. -/
inductive StandsIn (cs : List Char) : Passage → Prop where
  | fenced {before body after : List (List Char)} {opening fence closing : List Char}
      (hlines : lineFeedPieces cs = before ++ opening :: (body ++ closing :: after))
      (hopening : openingFence? opening = some fence) (hbody : ∀ line ∈ body, closesFence fence line = false)
      (hclosing : closesFence fence closing = true) :
      StandsIn cs ⟨(endLines before).length, (endLines (before ++ opening :: body)).length + closing.length,
        ⟨.fenced, String.ofList ((endLines body).rdropWhile (· == '\n')), before.length + 2⟩⟩
  | inline {before rest blanks body after : List Char} (hcs : cs = before ++ rest)
      (hspan : IsInlineSpan rest blanks body after) :
      StandsIn cs ⟨before.length, before.length + (inlineOpening.length + blanks.length + body.length + 1),
        ⟨.inline, String.ofList (trim body), before.count '\n' + 1⟩⟩

theorem FencedBy.standsIn (h : FencedBy (documentLines cs) p) : StandsIn cs p := by
  obtain ⟨front, opening, fence, body, closing, back, hlines, hopening, hbody, hclosing, rfl⟩ := h
  have hpieces : lineFeedPieces cs =
      front.map DocumentLine.text ++ opening.text :: (body.map DocumentLine.text ++
        closing.text :: back.map DocumentLine.text) := by
    rw [← map_text_documentLines, hlines]
    simp
  have hstands := StandsIn.fenced hpieces hopening (List.forall_mem_map.mpr hbody) hclosing
  rwa [List.length_map, ← fencedPassage_of_documentLines hlines] at hstands

theorem InlineBy.standsIn (h : InlineBy cs 0 1 p) : StandsIn cs p := by
  obtain ⟨before, rest, script, length, hcs, hread, rfl⟩ := h
  obtain ⟨blanks, body, after, hspan, rfl, rfl⟩ := exists_isInlineSpan hread
  have hstands := StandsIn.inline hcs hspan
  rwa [Nat.zero_add, Nat.add_comm 1]

theorem exists_append_of_lineFeedPieces {before body after : List (List Char)} {opening closing : List Char}
    (h : lineFeedPieces cs = before ++ opening :: (body ++ closing :: after)) :
    ∃ rest, cs = endLines before ++ (opening ++ '\n' :: (endLines body ++ (closing ++ rest))) ∧
      ∀ c ∈ rest.head?, c = '\n' := by
  obtain ⟨rest, hclosing, hrest⟩ := exists_joinLines_cons closing after
  refine ⟨rest, ?_, hrest⟩
  rw [← joinLines_lineFeedPieces cs, h, joinLines_append before (List.cons_ne_nil _ _),
    joinLines_cons opening (by simp), joinLines_append body (List.cons_ne_nil _ _), hclosing]

theorem StandsIn.start_lt_stop (h : StandsIn cs p) : p.start < p.stop := by
  cases h with
  | @fenced before body after opening fence closing _ _ _ _ =>
    rw [endLines_append, endLines_cons, List.length_append, List.length_append, List.length_cons]
    dsimp only
    omega
  | inline =>
    dsimp only
    omega

theorem StandsIn.stop_le_length (h : StandsIn cs p) : p.stop ≤ cs.length := by
  cases h with
  | fenced hlines =>
    obtain ⟨rest, rfl, -⟩ := exists_append_of_lineFeedPieces hlines
    simp only [endLines_append, endLines_cons, List.length_append, List.length_cons]
    omega
  | inline hcs hspan =>
    rw [hcs, hspan.eq_append]
    simp only [List.length_append, List.length_cons]
    omega

/-- A piece does not start with a line feed. -/
theorem StandsIn.exists_getElem?_start (h : StandsIn cs p) : ∃ c, cs[p.start]? = some c ∧ c ≠ '\n' := by
  cases h with
  | fenced hlines hopening =>
    obtain ⟨rest, rfl, -⟩ := exists_append_of_lineFeedPieces hlines
    obtain ⟨hfence, front, back, -, -, rfl⟩ := openingFence?_eq_some_iff.mp hopening
    obtain ⟨c, more, hc, rfl⟩ := hfence.exists_cons
    refine ⟨c, by simp, ?_⟩
    rintro rfl
    cases hc
  | inline hcs hspan =>
    rw [hcs, hspan.eq_append]
    exact ⟨'\x60', by simp [inlineOpening], by decide⟩

/-! ## Passages of one sort -/

theorem exists_line_of_mem_fencedFrom {skip : Nat} {ls : List DocumentLine} (h : p ∈ fencedFrom skip ls) :
    ∃ line ∈ ls.drop skip, p.start = line.offset := by
  rw [fencedFrom_eq_drop] at h
  obtain ⟨front, opening, fence, body, closing, back, hlines, -, -, -, rfl⟩ := fencedBy_of_mem_fencedFrom h
  exact ⟨opening, by simp [hlines], rfl⟩

/-- The lines of a fenced block are passed over, and the next one opens on a later line. -/
theorem pairwise_fencedFrom {skip : Nat} {ls : List DocumentLine}
    (h : ls.Pairwise fun a b => a.offset + a.text.length < b.offset) :
    (fencedFrom skip ls).Pairwise fun p q => p.stop ≤ q.start := by
  fun_induction fencedFrom skip ls with
  | case1 => exact .nil
  | case2 skip line rest ih => exact ih h.of_cons
  | case3 line rest hopening ih => exact ih h.of_cons
  | case4 line rest fence hopening body hspan ih => exact ih h.of_cons
  | case5 line rest fence hopening body closing back hspan ih =>
    refine .cons (fun q hq => ?_) (ih h.of_cons)
    obtain ⟨other, hother, hstart⟩ := exists_line_of_mem_fencedFrom hq
    obtain ⟨rfl, -, -⟩ := of_span_closesFence hspan
    rw [← List.drop_drop, List.drop_left, List.drop_one, List.tail_cons] at hother
    rw [hstart]
    exact Nat.le_of_lt (List.rel_of_pairwise_cons (List.pairwise_append.mp h.of_cons).2.1 hother)

theorem le_start_of_mem_inlineFrom {afterTick : Bool} {offset line skip : Nat}
    (h : p ∈ inlineFrom afterTick offset line skip cs) : offset + skip ≤ p.start := by
  fun_induction inlineFrom afterTick offset line skip cs with
  | case1 => cases h
  | case2 afterTick offset line skip c rest ih =>
    have hle := ih h
    omega
  | case3 afterTick offset line c rest hread ih =>
    have hle := ih h
    omega
  | case4 afterTick offset line c rest script length hread ih =>
    rcases List.mem_cons.mp h with rfl | hmem
    · exact Nat.le_refl _
    · have hle := ih hmem
      omega

/-- The characters of a span are passed over. -/
theorem pairwise_inlineFrom (afterTick : Bool) (offset line skip : Nat) (cs : List Char) :
    (inlineFrom afterTick offset line skip cs).Pairwise fun p q => p.stop ≤ q.start := by
  fun_induction inlineFrom afterTick offset line skip cs with
  | case1 => exact .nil
  | case2 afterTick offset line skip c rest ih => exact ih
  | case3 afterTick offset line c rest hread ih => exact ih
  | case4 afterTick offset line c rest script length hread ih =>
    refine .cons (fun q hq => ?_) ih
    have hle := le_start_of_mem_inlineFrom hq
    dsimp only
    omega

/-! ## Passages of both sorts -/

/-- A character where two texts meet is in one of them. -/
theorem append_eq_append_cons {a b y z : List Char} {c : Char} (h : a ++ b = y ++ c :: z) :
    (∃ more, a = y ++ c :: more ∧ z = more ++ b) ∨ ∃ more, y = a ++ more ∧ b = more ++ c :: z := by
  rcases List.append_eq_append_iff.mp h with ⟨more, rfl, hb⟩ | ⟨more, rfl, hz⟩
  · exact .inr ⟨more, rfl, hb⟩
  · cases more with
    | nil => exact .inr ⟨[], by simp, hz.symm⟩
    | cons d more =>
      obtain ⟨rfl, rfl⟩ := List.cons.inj hz
      exact .inl ⟨more, rfl, rfl⟩

/-- A line feed in a span is one of its blanks. -/
theorem IsInlineSpan.exists_blanks_of_break {blanks body after front back : List Char}
    (h : IsInlineSpan (front ++ '\n' :: back) blanks body after)
    (hlt : front.length < inlineOpening.length + blanks.length + body.length) :
    ∃ more, (∀ c ∈ more, isBlank c) ∧ back = more ++ (body ++ '\x60' :: after) := by
  have hbody : '\n' ∉ body := fun hbreak => absurd (h.inline _ hbreak) (by decide)
  rcases append_eq_append_cons h.eq_append.symm with ⟨more, hopening, -⟩ | ⟨front, rfl, hblanks⟩
  · have hbreak : '\n' ∈ inlineOpening := by simp [hopening]
    exact absurd hbreak (by decide)
  rcases append_eq_append_cons hblanks with ⟨more, hblanks, hback⟩ | ⟨front, rfl, hspan⟩
  · exact ⟨more, fun c hc => h.blank c (by simp [hblanks, hc]), hback⟩
  rcases append_eq_append_cons hspan with ⟨more, hbreak, -⟩ | ⟨front, rfl, -⟩
  · exact absurd (by simp [hbreak]) hbody
  · simp only [List.length_append] at hlt
    omega

/-- A backtick in an opening line is in its fence. -/
theorem exists_cons_of_tick_mem {line fence : List Char} (h : openingFence? line = some fence)
    (htick : '\x60' ∈ line) :
    ∃ rest, line = '\x60' :: '\x60' :: rest := by
  obtain ⟨hfence, front, back, hfront, hback, rfl⟩ := openingFence?_eq_some_iff.mp h
  have hmem : '\x60' ∈ fence := by
    rcases List.mem_append.mp htick with htick | htick
    · exact htick
    rcases List.mem_append.mp htick with htick | htick
    · exact absurd (hfront _ htick) (by decide)
    rcases List.mem_append.mp htick with htick | htick
    · exact absurd htick (by decide)
    · exact absurd (hback _ htick) (by decide)
  obtain ⟨c, n, -, hn, rfl⟩ := hfence
  obtain rfl := List.eq_of_mem_replicate hmem
  obtain ⟨n, rfl⟩ := Nat.exists_eq_add_of_le' hn
  exact ⟨_, rfl⟩

/-- What is left of a span behind a line feed does not start with an opening line. -/
theorem IsInlineSpan.ne_opening {rest blanks body after more line fence back : List Char}
    (h : IsInlineSpan rest blanks body after) (hopening : openingFence? line = some fence)
    (hmore : ∀ c ∈ more, isBlank c) : line ++ '\n' :: back ≠ more ++ (body ++ '\x60' :: after) := by
  intro heq
  cases more with
  | cons d more =>
    -- A fence does not start with a blank.
    obtain ⟨hfence, pads, others, -, -, rfl⟩ := openingFence?_eq_some_iff.mp hopening
    obtain ⟨c, others, hc, rfl⟩ := hfence.exists_cons
    obtain ⟨rfl, -⟩ := List.cons.inj heq
    have hblank := hmore c List.mem_cons_self
    rcases isFenceChar_iff.mp hc with rfl | rfl <;> exact absurd hblank (by decide)
  | nil =>
    rcases append_eq_append_cons heq with ⟨more, hbody, hafter⟩ | ⟨more, hbody, hmore⟩
    · -- The closing backtick is in the line, so it would start the fence and have another one beside it.
      obtain ⟨others, htick⟩ := exists_cons_of_tick_mem hopening (by simp [hbody])
      rw [htick] at hbody
      cases body with
      | nil =>
        obtain ⟨-, rfl⟩ := List.cons.inj hbody
        rw [hafter] at h
        cases h.not_startsWithTick
      | cons d body =>
        obtain ⟨rfl, -⟩ := List.cons.inj hbody
        cases h.inline _ List.mem_cons_self
    · -- The line ends in the body, which has no line feed.
      cases more with
      | nil => cases (List.cons.inj hmore).1
      | cons d more =>
        obtain ⟨rfl, -⟩ := List.cons.inj hmore
        exact absurd (h.inline '\n' (by rw [hbody]; simp)) (by decide)

/-- A span that starts before an opening line ends before it. -/
theorem StandsIn.stop_le_of_inline (hp : StandsIn cs p) (hq : StandsIn cs q) (hinline : p.block.kind = .inline)
    (hfenced : q.block.kind = .fenced) (hlt : p.start < q.start) : p.stop ≤ q.start := by
  cases hp with
  | fenced => cases hinline
  | @inline before rest blanks body after hcs hspan =>
    cases hq with
    | inline => cases hfenced
    | @fenced lines fencedLines others opening fence closing hlines hopening =>
      obtain ⟨back, htext, -⟩ := exists_append_of_lineFeedPieces hlines
      dsimp only at hlt ⊢
      rcases List.eq_nil_or_concat' lines with rfl | ⟨lines, line, rfl⟩
      · cases hlt
      rw [endLines_concat, List.length_append] at hlt ⊢
      rw [endLines_concat, hcs, List.append_assoc] at htext
      rcases append_eq_append_cons htext with ⟨more, hbefore, -⟩ | ⟨more, hfront, hrest⟩
      · rw [hbefore, List.length_append, List.length_cons, List.length_singleton] at hlt
        omega
      · rw [hrest] at hspan
        rw [hfront, List.length_append, List.length_singleton]
        by_contra hover
        obtain ⟨blanks', hblanks', heq⟩ := hspan.exists_blanks_of_break (by omega)
        exact hspan.ne_opening hopening hblanks' heq

/-! ## Lines of passages -/

/-- The number of line feeds before a place. -/
def breaksBefore (cs : List Char) (place : Nat) : Nat := (cs.take place).count '\n'

theorem breaksBefore_mono {m n : Nat} (h : m ≤ n) : breaksBefore cs m ≤ breaksBefore cs n :=
  (List.take_sublist_take_left h).count_le '\n'

theorem breaksBefore_append (front back : List Char) :
    breaksBefore (front ++ back) front.length = front.count '\n' := by
  rw [breaksBefore, List.take_left]

/-- A line feed stands between a line and a later character that is not a line feed. -/
theorem count_le_breaksBefore {front rest : List Char} (hrest : ∀ c ∈ rest.head?, c = '\n') {place : Nat} {c : Char}
    (hplace : front.length ≤ place) (hc : (front ++ rest)[place]? = some c) (hne : c ≠ '\n') :
    front.count '\n' + 1 ≤ breaksBefore (front ++ rest) place := by
  rw [List.getElem?_append_right hplace] at hc
  cases rest with
  | nil => cases hc
  | cons d rest =>
    obtain rfl : d = '\n' := hrest d rfl
    have hlt : front.length < place := by
      refine Nat.lt_of_le_of_ne hplace fun heq => ?_
      rw [heq, Nat.sub_self] at hc
      exact hne (Option.some.inj hc).symm
    have hbreak := breaksBefore_append (front ++ ['\n']) rest
    rw [List.append_assoc, List.length_append, List.count_append, List.count_singleton_self] at hbreak
    exact hbreak.symm.le.trans (breaksBefore_mono hlt)

theorem StandsIn.line_of_inline (h : StandsIn cs p) (hkind : p.block.kind = .inline) :
    p.block.line = breaksBefore cs p.start + 1 := by
  cases h with
  | fenced => cases hkind
  | inline hcs => rw [hcs, breaksBefore_append]

theorem StandsIn.line_of_fenced (h : StandsIn cs p) (hkind : p.block.kind = .fenced) :
    p.block.line = breaksBefore cs p.start + 2 := by
  cases h with
  | @fenced before _ _ _ _ _ hlines =>
    obtain ⟨rest, hcs, -⟩ := exists_append_of_lineFeedPieces hlines
    have hbefore : ∀ piece ∈ before, '\n' ∉ piece := fun piece hpiece hbreak =>
      (mem_lineFeedPieces (hlines ▸ List.mem_append_left _ hpiece) _ hbreak).2 rfl
    rw [hcs, breaksBefore_append, count_endLines hbefore]
  | inline => cases hkind

theorem StandsIn.kind_eq_or (h : StandsIn cs p) : p.block.kind = .fenced ∨ p.block.kind = .inline := by
  cases h with
  | fenced => exact .inl rfl
  | inline => exact .inr rfl

/-- A fenced block has a line feed in it, and another one behind it if anything else follows. -/
theorem StandsIn.line_le (h : StandsIn cs p) (hkind : p.block.kind = .fenced) {place : Nat} {c : Char}
    (hplace : p.stop ≤ place) (hc : cs[place]? = some c) (hne : c ≠ '\n') : p.block.line ≤ breaksBefore cs place := by
  rw [h.line_of_fenced hkind]
  cases h with
  | inline => cases hkind
  | @fenced before body after opening fence closing hlines =>
    obtain ⟨rest, hcs, hrest⟩ := exists_append_of_lineFeedPieces hlines
    have hstart : breaksBefore cs (endLines before).length = (endLines before).count '\n' := by
      rw [hcs, breaksBefore_append]
    have hpiece : cs = (endLines before ++ (opening ++ '\n' :: endLines body) ++ closing) ++ rest := by simp [hcs]
    dsimp only at hplace ⊢
    rw [endLines_append, endLines_cons, ← List.length_append] at hplace
    rw [hpiece] at hc
    have hbreaks := count_le_breaksBefore hrest hplace hc hne
    rw [← hpiece] at hbreaks
    simp only [List.count_append, List.count_cons_self] at hbreaks
    omega

/-- The lines of passages one behind the other. -/
theorem StandsIn.line_le_line (hp : StandsIn cs p) (hq : StandsIn cs q) (h : p.stop ≤ q.start) :
    p.block.line ≤ q.block.line ∧
      (p.block.kind = .fenced ∨ q.block.kind = .fenced → p.block.line < q.block.line) := by
  obtain ⟨c, hc, hne⟩ := hq.exists_getElem?_start
  have hmono : breaksBefore cs p.start ≤ breaksBefore cs q.start :=
    breaksBefore_mono (Nat.le_trans (Nat.le_of_lt hp.start_lt_stop) h)
  have hlt : breaksBefore cs q.start < q.block.line := by
    rcases hq.kind_eq_or with hkind | hkind
    · rw [hq.line_of_fenced hkind]
      omega
    · rw [hq.line_of_inline hkind]
      omega
  rcases hp.kind_eq_or with hpkind | hpkind
  · have hle := hp.line_le hpkind h hc hne
    exact ⟨by omega, fun _ => by omega⟩
  · rw [hp.line_of_inline hpkind, hpkind]
    refine ⟨by omega, ?_⟩
    rintro (hkind | hkind)
    · cases hkind
    · rw [hq.line_of_fenced hkind]
      omega

/-! ## The passages of a document -/

theorem standsIn_of_mem_passages {markdown : String} (h : p ∈ passages markdown) :
    StandsIn (joinCrLf markdown.toList) p := by
  rcases mem_passages h with hfenced | hinline
  · exact (fencedBy_of_mem_fencedFrom hfenced).standsIn
  · exact (inlineBy_of_mem_inlineFrom hinline).standsIn

/-- Two passages without a common character. -/
def Apart (p q : Passage) : Prop := p.stop ≤ q.start ∨ q.stop ≤ p.start

theorem kind_of_mem_fencedPassages (h : p ∈ fencedPassages cs) : p.block.kind = .fenced := by
  obtain ⟨_, _, _, _, _, _, -, -, -, -, rfl⟩ := fencedBy_of_mem_fencedFrom h
  rfl

theorem kind_of_mem_inlinePassages (h : p ∈ inlinePassages cs) : p.block.kind = .inline := by
  obtain ⟨_, _, _, _, -, -, rfl⟩ := inlineBy_of_mem_inlineFrom h
  rfl

/-- An inline block has no common character with a fenced block if it does not start in it. -/
theorem apart_iff_not_covers (hp : p ∈ fencedPassages cs) (hq : q ∈ inlinePassages cs) :
    Apart p q ↔ p.covers q.start = false := by
  have hpiece : StandsIn cs q := (inlineBy_of_mem_inlineFrom hq).standsIn
  rw [Apart, Passage.covers, Bool.and_eq_false_iff, decide_eq_false_iff_not, decide_eq_false_iff_not, Nat.not_le,
    Nat.not_lt]
  constructor
  · rintro (hbehind | hbefore)
    · exact .inr hbehind
    · exact .inl (Nat.lt_of_lt_of_le hpiece.start_lt_stop hbefore)
  · rintro (hbefore | hbehind)
    · exact .inr (hpiece.stop_le_of_inline (fencedBy_of_mem_fencedFrom hp).standsIn
        (kind_of_mem_inlinePassages hq) (kind_of_mem_fencedPassages hp) hbefore)
    · exact .inl hbehind

/-- The passages are all the fenced blocks, and the inline blocks that have no common character with them. -/
theorem mem_passages_iff {markdown : String} :
    p ∈ passages markdown ↔ p ∈ fencedPassages (joinCrLf markdown.toList) ∨
      p ∈ inlinePassages (joinCrLf markdown.toList) ∧
        ∀ fenced ∈ fencedPassages (joinCrLf markdown.toList), Apart fenced p := by
  rw [passages, (perm_stableSort _ _).mem_iff, List.mem_append, List.mem_filter, Bool.not_eq_true', List.any_eq_false]
  refine or_congr_right (and_congr_right fun hinline => forall₂_congr fun fenced hfenced => ?_)
  rw [apart_iff_not_covers hfenced hinline, Bool.not_eq_true]

theorem pairwise_apart_passages (markdown : String) : (passages markdown).Pairwise Apart := by
  rw [passages, (perm_stableSort _ _).pairwise_iff fun h => h.symm, List.pairwise_append]
  refine ⟨(pairwise_fencedFrom (pairwise_placeLines _ _ _)).imp .inl,
    ((pairwise_inlineFrom _ _ _ _ _).filter _).imp .inl, fun p hp q hq => ?_⟩
  obtain ⟨hq, hcovers⟩ := List.mem_filter.mp hq
  rw [Bool.not_eq_true', List.any_eq_false] at hcovers
  exact (apart_iff_not_covers hp hq).mpr (Bool.eq_false_iff.mpr (hcovers p hp))

theorem pairwise_start_le_passages (markdown : String) :
    (passages markdown).Pairwise fun p q => p.start ≤ q.start := by
  have hranks (ps : List Passage) : Ranks (fun a b => decide (a.start < b.start)) ps := by
    constructor
    · intro a _ b _ hab
      rw [decide_eq_true_eq] at hab
      exact decide_eq_false (Nat.not_lt.mpr (Nat.le_of_lt hab))
    · intro a _ b _ c _ hac
      simp only [decide_eq_true_eq] at hac ⊢
      omega
  have hall (ps : List Passage) : ps.Pairwise fun _ _ => True := List.pairwise_of_forall fun _ _ => trivial
  refine (pairwise_stableSort (hranks _) (hall _)).imp fun hsettled => ?_
  rcases hsettled with hlt | ⟨hge, -⟩
  · exact Nat.le_of_lt (of_decide_eq_true hlt)
  · exact Nat.not_lt.mp (of_decide_eq_false hge)

/-- Every passage ends before the next one starts. -/
theorem pairwise_stop_le_passages (markdown : String) :
    (passages markdown).Pairwise fun p q => p.stop ≤ q.start := by
  refine ((pairwise_apart_passages markdown).and (pairwise_start_le_passages markdown)).imp_of_mem ?_
  rintro p q hp hq ⟨hbefore | hover, hle⟩
  · exact hbefore
  · have hlt := (standsIn_of_mem_passages hq).start_lt_stop
    omega

/-- The blocks of a document are pieces of it without a common character, in the order of their places.  Their
lines follow this order, and a fenced block has no line in common with any other block.  No fenced block is left out,
and no inline block but those that have characters in common with a fenced one. -/
theorem passages_apart (markdown : String) :
    extractBlocks markdown = (passages markdown).map (·.block) ∧
      (∀ p ∈ passages markdown, StandsIn (joinCrLf markdown.toList) p ∧ p.start < p.stop ∧
        p.stop ≤ (joinCrLf markdown.toList).length) ∧
      (passages markdown).Pairwise (fun p q => p.start < q.start ∧ p.stop ≤ q.start) ∧
      ((extractBlocks markdown).Pairwise fun a b =>
        a.line ≤ b.line ∧ (a.kind = .fenced ∨ b.kind = .fenced → a.line < b.line)) ∧
      ∀ p, p ∈ passages markdown ↔ p ∈ fencedPassages (joinCrLf markdown.toList) ∨
        p ∈ inlinePassages (joinCrLf markdown.toList) ∧
          ∀ fenced ∈ fencedPassages (joinCrLf markdown.toList), Apart fenced p := by
  have hstands (p : Passage) (hp : p ∈ passages markdown) := standsIn_of_mem_passages hp
  have hbehind := pairwise_stop_le_passages markdown
  refine ⟨rfl, fun p hp => ⟨hstands p hp, (hstands p hp).start_lt_stop, (hstands p hp).stop_le_length⟩, ?_, ?_,
    fun _ => mem_passages_iff⟩
  · refine hbehind.imp_of_mem fun hp _ hle => ⟨?_, hle⟩
    exact Nat.lt_of_lt_of_le (hstands _ hp).start_lt_stop hle
  · exact List.pairwise_map.mpr
      (hbehind.imp_of_mem fun hp hq hle => (hstands _ hp).line_le_line (hstands _ hq) hle)

end Chronicle.Document
