import Chronicle.Document.Extract
import Chronicle.Proofs.Text.Trim
import Mathlib.Data.List.TakeDrop

/-!
# What a passage is made of

The readers of a document pass over what is no block.  Here it is said what they find and not how they come
there.  A fenced passage has an opening line and a closing line, and its body is all that stands between them
(`FencedBy`).  An inline passage is read at its place (`InlineBy`), where there is a span of code with its parts
(`IsInlineSpan`), and between the opening and the script there is a run of blanks (`exists_of_inlineAt?`).

Without the places this is said of blocks (`FencedIn`, `InlineIn`).  The blocks of a document are of one of these
sorts, which their kind tells (`fencedIn_of_mem_extractBlocks`, `inlineIn_of_mem_extractBlocks`).
-/

namespace Chronicle.Document

open Chronicle.Data Chronicle.Text

variable {b : Block} {p : Passage}

/-! ## Fenced blocks -/

theorem fencedFrom_eq_drop (skip : Nat) (ls : List DocumentLine) :
    fencedFrom skip ls = fencedFrom 0 (ls.drop skip) := by
  induction ls generalizing skip with
  | nil => cases skip <;> rfl
  | cons line rest ih =>
    cases skip with
    | zero => rfl
    | succ skip => rw [fencedFrom, List.drop_succ_cons, ih]

/-- The body of a block ends at the first line that closes its fence. -/
theorem of_span_closesFence {fence : List Char} {ls body back : List DocumentLine} {closing : DocumentLine}
    (h : (ls.span fun line => !closesFence fence line.text) = (body, closing :: back)) :
    ls = body ++ closing :: back ∧ (∀ line ∈ body, closesFence fence line.text = false) ∧
      closesFence fence closing.text = true := by
  rw [List.span_eq_takeWhile_dropWhile] at h
  obtain ⟨rfl, hclosing⟩ := Prod.mk.inj h
  refine ⟨?_, fun line hline => ?_, ?_⟩
  · rw [← hclosing, List.takeWhile_append_dropWhile]
  · simpa using List.mem_takeWhile_imp hline
  · have hstop := List.head?_dropWhile_not (fun line => !closesFence fence line.text) ls
    simpa [hclosing] using hstop

/-- A passage of some lines, from an opening line up to the first line behind it that closes its fence. -/
def FencedBy (ls : List DocumentLine) (p : Passage) : Prop :=
  ∃ front opening fence body closing back, ls = front ++ opening :: (body ++ closing :: back) ∧
    openingFence? opening.text = some fence ∧ (∀ line ∈ body, closesFence fence line.text = false) ∧
    closesFence fence closing.text = true ∧ p = fencedPassage opening closing body

theorem FencedBy.cons {ls : List DocumentLine} (h : FencedBy ls p) (line : DocumentLine) :
    FencedBy (line :: ls) p := by
  obtain ⟨front, opening, fence, body, closing, back, rfl, hpassage⟩ := h
  exact ⟨line :: front, opening, fence, body, closing, back, rfl, hpassage⟩

theorem fencedBy_of_mem_fencedFrom {skip : Nat} {ls : List DocumentLine} (h : p ∈ fencedFrom skip ls) :
    FencedBy ls p := by
  fun_induction fencedFrom skip ls with
  | case1 => cases h
  | case2 skip line rest ih => exact (ih h).cons line
  | case3 line rest hopening ih => exact (ih h).cons line
  | case4 line rest fence hopening body hspan ih => exact (ih h).cons line
  | case5 line rest fence hopening body closing back hspan ih =>
    rcases List.mem_cons.mp h with rfl | hmem
    · obtain ⟨rfl, hbody, hclosing⟩ := of_span_closesFence hspan
      exact ⟨[], line, fence, body, closing, back, rfl, hopening, hbody, hclosing, rfl⟩
    · exact (ih hmem).cons line

/-- A block of some lines, from a line behind its opening line up to its closing line. -/
def FencedIn (ls : List DocumentLine) (b : Block) : Prop :=
  ∃ front opening body closing back, ls = front ++ opening :: (body ++ closing :: back) ∧
    b = ⟨.fenced, fencedSource body, opening.number + 1⟩

theorem FencedBy.fencedIn {ls : List DocumentLine} (h : FencedBy ls p) : FencedIn ls p.block := by
  obtain ⟨front, opening, _, body, closing, back, hlines, -, -, -, rfl⟩ := h
  exact ⟨front, opening, body, closing, back, hlines, rfl⟩

/-! ## Inline blocks -/

/-- A passage of a text whose first character has a place and a line. -/
def InlineBy (cs : List Char) (offset line : Nat) (p : Passage) : Prop :=
  ∃ before rest script length, cs = before ++ rest ∧ inlineAt? rest = some (script, length) ∧
    p = ⟨offset + before.length, offset + before.length + length,
      ⟨.inline, String.ofList script, line + before.count '\n'⟩⟩

theorem InlineBy.cons {c : Char} {rest : List Char} {offset line : Nat}
    (h : InlineBy rest (offset + 1) (lineAfter line c) p) : InlineBy (c :: rest) offset line p := by
  obtain ⟨before, more, script, length, rfl, hread, rfl⟩ := h
  have hline : lineAfter line c + before.count '\n' = line + (c :: before).count '\n' := by
    by_cases hc : c = '\n'
    · rw [lineAfter, if_pos hc, hc, List.count_cons_self]
      omega
    · rw [lineAfter, if_neg hc, List.count_cons_of_ne hc]
  have hplace : offset + 1 + before.length = offset + (c :: before).length := by
    rw [List.length_cons]
    omega
  exact ⟨c :: before, more, script, length, rfl, hread, by rw [hline, hplace]⟩

theorem inlineBy_of_mem_inlineFrom {afterTick : Bool} {offset line skip : Nat} {cs : List Char}
    (h : p ∈ inlineFrom afterTick offset line skip cs) : InlineBy cs offset line p := by
  fun_induction inlineFrom afterTick offset line skip cs with
  | case1 => cases h
  | case2 afterTick offset line skip c rest ih => exact (ih h).cons
  | case3 afterTick offset line c rest hread ih => exact (ih h).cons
  | case4 afterTick offset line c rest script length hread ih =>
    rcases List.mem_cons.mp h with rfl | hmem
    · split at hread
      · cases hread
      · exact ⟨[], c :: rest, script, length, rfl, hread, rfl⟩
    · exact (ih hmem).cons

/-- A block of a text whose first character is on a line. -/
def InlineIn (cs : List Char) (line : Nat) (b : Block) : Prop :=
  ∃ before rest script length, cs = before ++ rest ∧ inlineAt? rest = some (script, length) ∧
    b = ⟨.inline, String.ofList script, line + before.count '\n'⟩

theorem InlineBy.inlineIn {cs : List Char} {offset line : Nat} (h : InlineBy cs offset line p) :
    InlineIn cs line p.block := by
  obtain ⟨before, rest, script, length, hcs, hread, rfl⟩ := h
  exact ⟨before, rest, script, length, hcs, hread, rfl⟩

/-- A text starts with an inline span of these parts: blanks behind the language word, a body on one line, and the
closing backtick. -/
structure IsInlineSpan (cs blanks body after : List Char) : Prop where
  eq_append : cs = inlineOpening ++ (blanks ++ (body ++ '\x60' :: after))
  blanks_ne_nil : blanks ≠ []
  blank : ∀ c ∈ blanks, isBlank c
  startsSolid : StartsSolid body
  inline : ∀ c ∈ body, isInlineChar c
  not_startsWithTick : startsWithTick after = false

theorem exists_isInlineSpan {cs script : List Char} {length : Nat} (h : inlineAt? cs = some (script, length)) :
    ∃ blanks body after, IsInlineSpan cs blanks body after ∧ script = trim body ∧
      length = inlineOpening.length + blanks.length + body.length + 1 := by
  rw [inlineAt?] at h
  split at h
  · cases h
  · next rest hopening =>
    rw [dropFront?_eq_some_iff] at hopening
    dsimp only at h
    split at h
    · cases h
    · next closing after hclosing =>
      split at h
      · next hspan =>
        simp only [Bool.and_eq_true, Bool.not_eq_true', List.isEmpty_eq_false_iff, beq_iff_eq] at hspan
        obtain ⟨⟨⟨rfl, hafter⟩, hne⟩, -⟩ := hspan
        cases h
        have hsplit := List.takeWhile_append_dropWhile (p := isInlineChar) (l := rest.dropWhile isBlank)
        have hsolid : StartsSolid (rest.dropWhile isBlank) := startsSolid_trimStart rest
        rw [← hsplit] at hsolid
        refine ⟨_, _, after, ⟨?_, hne, fun _ => List.mem_takeWhile_imp, hsolid.of_append,
          fun _ => List.mem_takeWhile_imp, hafter⟩, rfl, rfl⟩
        rw [← hclosing, hsplit, List.takeWhile_append_dropWhile]
        exact hopening
      · cases h

theorem InlineBy.getElem?_start {cs : List Char} {line : Nat} (h : InlineBy cs 0 line p) :
    cs[p.start]? = some '\x60' := by
  obtain ⟨before, rest, script, length, rfl, hread, rfl⟩ := h
  obtain ⟨blanks, body, after, hspan, -, -⟩ := exists_isInlineSpan hread
  simp [hspan.eq_append, inlineOpening]

/-- The script of an inline block stands behind the opening and some blanks, and has no line feed. -/
theorem exists_of_inlineAt? {cs script : List Char} {length : Nat} (h : inlineAt? cs = some (script, length)) :
    ∃ blanks after, cs = inlineOpening ++ blanks ++ script ++ after ∧ blanks ≠ [] ∧
      (∀ c ∈ blanks, isBlank c) ∧ '\n' ∉ script := by
  obtain ⟨blanks, body, after, hspan, rfl, -⟩ := exists_isInlineSpan h
  obtain ⟨back, hback⟩ := prefix_trim hspan.startsSolid
  refine ⟨blanks, back ++ '\x60' :: after, ?_, hspan.blanks_ne_nil, hspan.blank, fun hbreak => ?_⟩
  · rw [List.append_assoc _ (trim _), ← List.append_assoc (trim _), hback, List.append_assoc]
    exact hspan.eq_append
  · exact absurd (hspan.inline _ ((infix_trim body).subset hbreak)) (by decide)

/-! ## The blocks of a document -/

theorem mem_passages {markdown : String} (h : p ∈ passages markdown) :
    p ∈ fencedPassages (joinCrLf markdown.toList) ∨ p ∈ inlinePassages (joinCrLf markdown.toList) := by
  have hmem := (perm_stableSort _ _).mem_iff.mp h
  rcases List.mem_append.mp hmem with hfenced | hinline
  · exact .inl hfenced
  · exact .inr (List.mem_of_mem_filter hinline)

theorem fencedIn_of_mem_extractBlocks {markdown : String} (h : b ∈ extractBlocks markdown)
    (hkind : b.kind = .fenced) : FencedIn (documentLines (joinCrLf markdown.toList)) b := by
  obtain ⟨p, hp, rfl⟩ := List.mem_map.mp h
  rcases mem_passages hp with hfenced | hinline
  · exact (fencedBy_of_mem_fencedFrom hfenced).fencedIn
  · obtain ⟨_, _, _, _, -, -, hblock⟩ := (inlineBy_of_mem_inlineFrom hinline).inlineIn
    rw [hblock] at hkind
    cases hkind

theorem inlineIn_of_mem_extractBlocks {markdown : String} (h : b ∈ extractBlocks markdown)
    (hkind : b.kind = .inline) : InlineIn (joinCrLf markdown.toList) 1 b := by
  obtain ⟨p, hp, rfl⟩ := List.mem_map.mp h
  rcases mem_passages hp with hfenced | hinline
  · obtain ⟨_, _, _, _, _, -, hblock⟩ := (fencedBy_of_mem_fencedFrom hfenced).fencedIn
    rw [hblock] at hkind
    cases hkind
  · exact (inlineBy_of_mem_inlineFrom hinline).inlineIn

end Chronicle.Document
