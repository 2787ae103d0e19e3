import Chronicle.Proofs.Text.Lines

/-!
# Lines by their numbers

What stands on which line of a text is told by the line feeds before it.  A part of a text without a line feed
lies on one line, and the number of this line is the number of line feeds before it
(`exists_lineFeedPiece_of_append`), counted from 0 here and from 1 in `sourceLines`.

The breaks of a text are *plain* when each of its carriage returns stands before a line feed.  Its lines are then
the pieces between the line feeds (`lines_of_plainBreaks`).
-/

namespace Chronicle.Text

variable {cs : List Char}

/-! ## Pieces by their places -/

/-- A text without a line feed stands at the front of the first piece. -/
theorem exists_lineFeedPieces_append {text : List Char} (h : '\n' ∉ text) (after : List Char) :
    ∃ piece more, lineFeedPieces (text ++ after) = (text ++ piece) :: more := by
  induction text with
  | nil =>
    obtain ⟨piece, more, hpieces⟩ := List.exists_cons_of_ne_nil (lineFeedPieces_ne_nil after)
    exact ⟨piece, more, hpieces⟩
  | cons c rest ih =>
    rw [List.mem_cons, not_or] at h
    obtain ⟨hc, hrest⟩ := h
    obtain ⟨piece, more, hpieces⟩ := ih hrest
    refine ⟨piece, more, ?_⟩
    rw [List.cons_append, lineFeedPieces, if_neg (Ne.symm hc), hpieces]
    rfl

theorem exists_lineFeedPiece_of_append {text : List Char} (h : '\n' ∉ text) (before after : List Char) :
    ∃ piece, (lineFeedPieces (before ++ (text ++ after)))[before.count '\n']? = some piece ∧ text <:+: piece := by
  induction before with
  | nil =>
    obtain ⟨piece, more, hpieces⟩ := exists_lineFeedPieces_append h after
    refine ⟨text ++ piece, ?_, (List.prefix_append text piece).isInfix⟩
    rw [List.nil_append, hpieces]
    rfl
  | cons c rest ih =>
    obtain ⟨piece, hpiece, htext⟩ := ih
    rw [List.cons_append, lineFeedPieces]
    by_cases hc : c = '\n'
    · refine ⟨piece, ?_, htext⟩
      rw [if_pos hc, hc, List.count_cons_self, List.getElem?_cons_succ]
      exact hpiece
    · rw [if_neg hc, List.count_cons_of_ne hc]
      obtain ⟨first, more, hpieces⟩ :=
        List.exists_cons_of_ne_nil (lineFeedPieces_ne_nil (rest ++ (text ++ after)))
      rw [hpieces] at hpiece ⊢
      rw [consFirst]
      cases hcount : rest.count '\n' with
      | zero =>
        rw [hcount] at hpiece
        cases hpiece
        exact ⟨c :: piece, rfl, htext.trans (List.suffix_cons c piece).isInfix⟩
      | succ n =>
        rw [hcount] at hpiece
        exact ⟨piece, hpiece, htext⟩

/-! ## Plain breaks -/

/-- Every carriage return stands before a line feed. -/
def PlainBreaks (cs : List Char) : Prop :=
  ∀ before after, cs = before ++ '\r' :: after → after.head? = some '\n'

theorem plainBreaks_cons_iff {c : Char} :
    PlainBreaks (c :: cs) ↔ (c = '\r' → cs.head? = some '\n') ∧ PlainBreaks cs := by
  constructor
  · intro h
    refine ⟨?_, ?_⟩
    · rintro rfl
      exact h [] cs rfl
    · rintro before after rfl
      exact h (c :: before) after rfl
  · rintro ⟨hc, hrest⟩ before after hcs
    cases before with
    | nil =>
      obtain ⟨rfl, rfl⟩ := List.cons.inj hcs
      exact hc rfl
    | cons d before =>
      obtain ⟨rfl, rfl⟩ := List.cons.inj hcs
      exact hrest before after rfl

instance PlainBreaks.decide : (cs : List Char) → Decidable (PlainBreaks cs)
  | [] => .isTrue fun _ _ h => by simp at h
  | _ :: cs =>
    have := PlainBreaks.decide cs
    decidable_of_iff _ plainBreaks_cons_iff.symm

theorem PlainBreaks.not_mem_joinCrLf (h : PlainBreaks cs) : '\r' ∉ joinCrLf cs := by
  fun_induction joinCrLf cs with
  | case1 => exact List.not_mem_nil
  | case2 c =>
    rw [List.mem_singleton]
    rintro rfl
    cases (plainBreaks_cons_iff.mp h).1 rfl
  | case3 c d rest hbreak ih => exact ih (plainBreaks_cons_iff.mp h).2
  | case4 c d rest hbreak ih =>
    obtain ⟨hc, hrest⟩ := plainBreaks_cons_iff.mp h
    rw [List.mem_cons, not_or]
    refine ⟨?_, ih hrest⟩
    rintro rfl
    exact hbreak ⟨rfl, Option.some.inj (hc rfl)⟩

/-- The lines of a text with plain breaks are its pieces between line feeds, where a carriage return before a line
feed does not count. -/
theorem lines_of_plainBreaks (h : PlainBreaks cs) : lines cs = lineFeedPieces (joinCrLf cs) := by
  have hunified : (joinCrLf cs).map (fun c => if c = '\r' then '\n' else c) = joinCrLf cs := by
    refine (List.map_congr_left fun c hc => ?_).trans (List.map_id _)
    exact if_neg fun (heq : c = '\r') => h.not_mem_joinCrLf (heq ▸ hc)
  rw [lines, unifyBreaks, hunified]

/-! ## Numbered lines -/

theorem mem_sourceLines_iff {source : String} {line : SourceLine} :
    line ∈ sourceLines source ↔
      ∃ i text, (lines source.toList)[i]? = some text ∧ line = ⟨i + 1, String.ofList text⟩ := by
  rw [List.mem_iff_getElem?]
  refine exists_congr fun i => ?_
  rw [getElem?_sourceLines, Option.map_eq_some_iff]
  exact exists_congr fun text => and_congr_right fun _ => eq_comm

end Chronicle.Text
