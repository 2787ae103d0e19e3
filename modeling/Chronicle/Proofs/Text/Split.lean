import Chronicle.Text.Cut
import Mathlib.Data.List.Infix

/-!
# Texts in pieces

`splitAll` cuts a text at every occurrence of a separator.  There is always a piece (`splitAll_ne_nil`), and no
piece has the separator in it (`not_infix_of_mem_splitAll`), so a text in which it does not occur is its own only
piece (`splitAll_eq_singleton`).

Texts that are put together with separators between them are cut where they were joined, but only if no text ends
with the beginning of a separator: a cut falls on the first occurrence, and that may start too early.  Texts that
*end apart* from the separator keep their own pieces (`splitAll_append`).
-/

namespace Chronicle.Text

variable {sep cs : List Char}

/-! ## Pieces -/

theorem consFirst_ne_nil (c : Char) (pieces : List (List Char)) : consFirst c pieces ≠ [] := by
  cases pieces <;> simp [consFirst]

theorem splitFrom_ne_nil (sep : List Char) (skip : Nat) (cs : List Char) : splitFrom sep skip cs ≠ [] := by
  induction cs generalizing skip with
  | nil => cases skip <;> simp [splitFrom]
  | cons c rest ih =>
    cases skip with
    | succ skip => exact ih skip
    | zero =>
      rw [splitFrom]
      split
      · exact List.cons_ne_nil _ _
      · exact consFirst_ne_nil c _

theorem splitAll_ne_nil (sep cs : List Char) : splitAll sep cs ≠ [] := splitFrom_ne_nil sep 0 cs

/-- A text starts with the separator, which ends an empty piece, or its first character belongs to its first piece. -/
theorem splitFrom_cons_cases (sep : List Char) (c : Char) (rest : List Char) :
    (sep <+: c :: rest ∧ splitFrom sep 0 (c :: rest) = [] :: splitFrom sep (sep.length - 1) rest) ∨
      ¬sep <+: c :: rest ∧ ∃ piece pieces, splitFrom sep 0 rest = piece :: pieces ∧
        splitFrom sep 0 (c :: rest) = (c :: piece) :: pieces := by
  rw [splitFrom]
  by_cases hstart : sep <+: c :: rest
  · exact .inl ⟨hstart, if_pos (List.isPrefixOf_iff_prefix.mpr hstart)⟩
  · obtain ⟨piece, pieces, hpieces⟩ := List.exists_cons_of_ne_nil (splitFrom_ne_nil sep 0 rest)
    refine .inr ⟨hstart, piece, pieces, hpieces, ?_⟩
    rw [if_neg (mt List.isPrefixOf_iff_prefix.mp hstart), hpieces]
    rfl

theorem eq_nil_of_mem_splitFrom_nil {skip : Nat} {piece : List Char} (h : piece ∈ splitFrom sep skip []) :
    piece = [] := by
  cases skip <;> exact List.mem_singleton.mp h

/-- The first piece is the beginning of the text. -/
theorem prefix_of_splitFrom_eq_cons {piece : List Char} {pieces : List (List Char)}
    (h : splitFrom sep 0 cs = piece :: pieces) : piece <+: cs := by
  induction cs generalizing piece pieces with
  | nil =>
    cases h
    exact List.prefix_rfl
  | cons c rest ih =>
    rcases splitFrom_cons_cases sep c rest with ⟨-, heq⟩ | ⟨-, front, others, hrest, heq⟩
    · rw [heq] at h
      cases h
      exact List.nil_prefix
    · rw [heq] at h
      cases h
      exact List.cons_prefix_cons.mpr ⟨rfl, ih hrest⟩

/-- Every piece is a part of the text. -/
theorem infix_of_mem_splitFrom {skip : Nat} {piece : List Char} (h : piece ∈ splitFrom sep skip cs) :
    piece <:+: cs := by
  induction cs generalizing skip piece with
  | nil => rw [eq_nil_of_mem_splitFrom_nil h]
  | cons c rest ih =>
    cases skip with
    | succ skip => exact List.infix_cons (ih h)
    | zero =>
      rcases splitFrom_cons_cases sep c rest with ⟨-, heq⟩ | ⟨-, front, others, hrest, heq⟩
      · rw [heq] at h
        rcases List.mem_cons.mp h with rfl | hlater
        · exact List.nil_infix
        · exact List.infix_cons (ih hlater)
      · rw [heq] at h
        rcases List.mem_cons.mp h with rfl | hlater
        · exact (List.cons_prefix_cons.mpr ⟨rfl, prefix_of_splitFrom_eq_cons hrest⟩).isInfix
        · exact List.infix_cons (ih (hrest ▸ List.mem_cons_of_mem _ hlater))

theorem infix_of_mem_splitAll {piece : List Char} (h : piece ∈ splitAll sep cs) : piece <:+: cs :=
  infix_of_mem_splitFrom h

/-- No piece has the separator in it, wherever the cutting starts. -/
theorem not_infix_of_mem_splitFrom (hsep : sep ≠ []) {skip : Nat} {piece : List Char}
    (h : piece ∈ splitFrom sep skip cs) : ¬sep <:+: piece := by
  have hempty : ¬sep <:+: [] := fun hinfix => hsep (List.infix_nil.mp hinfix)
  induction cs generalizing skip piece with
  | nil =>
    rw [eq_nil_of_mem_splitFrom_nil h]
    exact hempty
  | cons c rest ih =>
    cases skip with
    | succ skip => exact ih h
    | zero =>
      rcases splitFrom_cons_cases sep c rest with ⟨-, heq⟩ | ⟨hstart, front, others, hrest, heq⟩
      · rw [heq] at h
        rcases List.mem_cons.mp h with rfl | hlater
        · exact hempty
        · exact ih hlater
      · rw [heq] at h
        rcases List.mem_cons.mp h with rfl | hlater
        · have hfront : front ∈ splitFrom sep 0 rest := hrest ▸ List.mem_cons_self
          -- The first piece begins the text, so a separator at its front would have been cut.
          have hpiece : c :: front <+: c :: rest :=
            List.cons_prefix_cons.mpr ⟨rfl, prefix_of_splitFrom_eq_cons hrest⟩
          rw [List.infix_cons_iff, not_or]
          exact ⟨fun hstarts => hstart (hstarts.trans hpiece), ih hfront⟩
        · exact ih (hrest ▸ List.mem_cons_of_mem _ hlater)

theorem not_infix_of_mem_splitAll (hsep : sep ≠ []) {piece : List Char} (h : piece ∈ splitAll sep cs) :
    ¬sep <:+: piece :=
  not_infix_of_mem_splitFrom hsep h

theorem splitAll_eq_singleton (h : ¬sep <:+: cs) : splitAll sep cs = [cs] := by
  induction cs with
  | nil => rfl
  | cons c text ih =>
    rw [List.infix_cons_iff, not_or] at h
    obtain ⟨hstart, htext⟩ := h
    have hpieces : splitFrom sep 0 text = [text] := ih htext
    rcases splitFrom_cons_cases sep c text with ⟨hstarts, -⟩ | ⟨-, piece, pieces, hrest, heq⟩
    · exact absurd hstarts hstart
    · rw [hpieces] at hrest
      cases hrest
      exact heq

/-! ## Pieces of joined texts -/

/-- A text that does not end with the beginning of a separator: an occurrence that starts in the text is in it. -/
def EndsApart (sep text : List Char) : Prop :=
  ∀ tail, tail <:+ text → tail ≠ [] → ∀ after, sep <+: tail ++ after → sep <+: tail

theorem EndsApart.of_cons {c : Char} (h : EndsApart sep (c :: cs)) : EndsApart sep cs :=
  fun tail htail => h tail (htail.trans (List.suffix_cons c cs))

/-- A text that does not end with a character ends apart from two of these in a row. -/
theorem endsApart_pair {c : Char} (h : c ∉ cs.getLast?) : EndsApart [c, c] cs := by
  intro tail htail hne after hstart
  cases tail with
  | nil => exact absurd rfl hne
  | cons first more =>
    cases more with
    | cons second others =>
      rw [List.cons_append, List.cons_append, List.cons_prefix_cons, List.cons_prefix_cons] at hstart
      obtain ⟨rfl, rfl, -⟩ := hstart
      exact ⟨others, rfl⟩
    | nil =>
      rw [List.cons_append, List.cons_prefix_cons] at hstart
      obtain ⟨rfl, -⟩ := hstart
      obtain ⟨front, rfl⟩ := htail
      exact absurd (Option.mem_def.mpr List.getLast?_concat) h

theorem splitFrom_append_of_length (sep skipped rest : List Char) :
    splitFrom sep skipped.length (skipped ++ rest) = splitFrom sep 0 rest := by
  induction skipped with
  | nil => rfl
  | cons c more ih => exact ih

theorem splitFrom_append (hsep : sep ≠ []) (h : EndsApart sep cs) (rest : List Char) {skip : Nat}
    (hskip : skip ≤ cs.length) :
    splitFrom sep skip (cs ++ (sep ++ rest)) = splitFrom sep skip cs ++ splitFrom sep 0 rest := by
  induction cs generalizing skip with
  | nil =>
    obtain rfl : skip = 0 := Nat.le_zero.mp hskip
    obtain ⟨c, tail, rfl⟩ := List.exists_cons_of_ne_nil hsep
    rcases splitFrom_cons_cases (c :: tail) c (tail ++ rest) with ⟨-, heq⟩ | ⟨hstart, -⟩
    · show splitFrom (c :: tail) 0 (c :: (tail ++ rest)) = [] :: splitFrom (c :: tail) 0 rest
      rw [heq]
      exact congrArg ([] :: ·) (splitFrom_append_of_length (c :: tail) tail rest)
    · exact absurd ⟨rest, rfl⟩ hstart
  | cons c text ih =>
    cases skip with
    | succ skip => exact ih h.of_cons (Nat.le_of_succ_le_succ hskip)
    | zero =>
      -- What follows the text does not change whether the separator starts here.
      have hsame : sep <+: c :: (text ++ (sep ++ rest)) ↔ sep <+: c :: text :=
        ⟨h (c :: text) List.suffix_rfl (List.cons_ne_nil c text) _, fun hstarts => hstarts.trans ⟨sep ++ rest, rfl⟩⟩
      rw [List.cons_append]
      rcases splitFrom_cons_cases sep c (text ++ (sep ++ rest)) with
        ⟨hstart, heq⟩ | ⟨hstart, piece, pieces, hrest, heq⟩
      · have hlength : sep.length - 1 ≤ text.length := by
          have hle := (hsame.mp hstart).length_le
          rw [List.length_cons] at hle
          omega
        rcases splitFrom_cons_cases sep c text with ⟨-, htext⟩ | ⟨hnot, -⟩
        · rw [heq, htext, ih h.of_cons hlength, List.cons_append]
        · exact absurd (hsame.mp hstart) hnot
      · rcases splitFrom_cons_cases sep c text with ⟨hstarts, -⟩ | ⟨-, front, others, hfront, htext⟩
        · exact absurd (hsame.mpr hstarts) hstart
        · rw [ih h.of_cons (Nat.zero_le _), hfront, List.cons_append] at hrest
          cases hrest
          rw [heq, htext, List.cons_append]

/-- A text that ends apart from the separator keeps its pieces when others are joined to it. -/
theorem splitAll_append (hsep : sep ≠ []) (h : EndsApart sep cs) (rest : List Char) :
    splitAll sep (cs ++ (sep ++ rest)) = splitAll sep cs ++ splitAll sep rest :=
  splitFrom_append hsep h rest (Nat.zero_le _)

/-- The pieces of joined texts are the pieces of each. -/
theorem splitAll_intercalate (hsep : sep ≠ []) {texts : List (List Char)} (hne : texts ≠ [])
    (h : ∀ text ∈ texts, EndsApart sep text) :
    splitAll sep (sep.intercalate texts) = texts.flatMap (splitAll sep) := by
  induction texts with
  | nil => exact absurd rfl hne
  | cons text rest ih =>
    obtain ⟨htext, hrest⟩ := List.forall_mem_cons.mp h
    cases rest with
    | nil => simp [List.intercalate]
    | cons next more =>
      have hjoin : sep.intercalate (text :: next :: more) = text ++ (sep ++ sep.intercalate (next :: more)) := by
        simp [List.intercalate]
      rw [hjoin, splitAll_append hsep htext, ih (List.cons_ne_nil next more) hrest]
      exact List.flatMap_cons.symm

/-- Joined texts are got back just when the separator occurs in none of them. -/
theorem splitAll_intercalate_eq_iff (hsep : sep ≠ []) {texts : List (List Char)} (hne : texts ≠ [])
    (h : ∀ text ∈ texts, EndsApart sep text) :
    splitAll sep (sep.intercalate texts) = texts ↔ ∀ text ∈ texts, ¬sep <:+: text := by
  constructor
  · intro heq text htext
    rw [← heq] at htext
    exact not_infix_of_mem_splitAll hsep htext
  · intro hfree
    have hpieces : texts.flatMap (splitAll sep) = texts.flatMap fun text => [text] :=
      List.flatMap_congr fun text htext => splitAll_eq_singleton (hfree text htext)
    rw [splitAll_intercalate hsep hne h, hpieces, List.flatMap_singleton']

end Chronicle.Text
