import Chronicle.Command.Run
import Chronicle.Proofs.Document.FenceLines
import Chronicle.Proofs.Document.Passages
import Chronicle.Proofs.Script.LineNumbers
import Chronicle.Proofs.Text.LinePlaces

/-!
# Blocks and the lines of their document

A block carries the line of the document that it starts on, so that a line of its script can be found in the
document again.

*Fenced blocks.*  The script of a fenced block is the lines of its body, without the empty ones at the end
(`lines_fencedSource`).  They stand in the document one below the other from the line of the block on, and an issue
is shown with the line of the document that it was found on (`fencedBlock_lines`).

*Inline blocks.*  The script of an inline block is on one line, but the line of the block is the line of its
opening.  Each line feed among the blanks between them puts the script one line further down
(`inlineBlock_line`), so the line of a block is that of its script as long as there is none.
-/

namespace Chronicle.Document

open Chronicle.Command Chronicle.Script Chronicle.Text Chronicle.Timeline

variable {b : Block}

/-! ## The lines of a document -/

theorem isPlainLine_of_mem_documentLines {cs : List Char} (hcs : '\r' ∉ cs) {line : DocumentLine}
    (h : line ∈ documentLines cs) : IsPlainLine line.text := by
  have hpiece : line.text ∈ lineFeedPieces cs := map_text_documentLines cs ▸ List.mem_map_of_mem h
  exact ⟨fun hmem => (mem_lineFeedPieces hpiece _ hmem).2 rfl,
    fun hmem => hcs (mem_lineFeedPieces hpiece _ hmem).1⟩

/-! ## The lines of a fenced block -/

/-- Without its line feeds at the end a text of lines has the same lines up to some place, and those behind it were
empty. -/
theorem exists_rdropWhile_endLines {texts : List (List Char)} (h : ∀ text ∈ texts, '\n' ∉ text) :
    ∃ kept, kept <+: texts ∧ (endLines texts).rdropWhile (· == '\n') = joinLines kept := by
  -- The line feeds are taken off the end, so the last line comes first.
  induction texts using List.reverseRecOn with
  | nil => exact ⟨[], List.prefix_rfl, rfl⟩
  | append_singleton front text ih =>
    rw [endLines_concat, List.rdropWhile_concat_pos (· == '\n') _ _ rfl]
    rcases List.eq_nil_or_concat' text with rfl | ⟨start, c, rfl⟩
    · obtain ⟨kept, hkept, heq⟩ := ih fun text htext => h text (List.mem_append_left _ htext)
      exact ⟨kept, hkept.trans (List.prefix_append _ _), by rw [List.append_nil, heq]⟩
    · have hc : c ≠ '\n' := by
        rintro rfl
        exact h (start ++ ['\n']) (by simp) (by simp)
      refine ⟨front ++ [start ++ [c]], List.prefix_rfl, ?_⟩
      rw [← List.append_assoc, List.rdropWhile_concat_neg (· == '\n') _ _ (by simpa using hc),
        joinLines_append front (List.cons_ne_nil _ _), joinLines, List.intercalate_singleton, List.append_assoc]

theorem lines_fencedSource {body : List DocumentLine} (hplain : ∀ line ∈ body, IsPlainLine line.text)
    (hne : fencedSource body ≠ "") : lines (fencedSource body).toList <+: body.map DocumentLine.text := by
  have htexts : ∀ text ∈ body.map DocumentLine.text, IsPlainLine text := List.forall_mem_map.mpr hplain
  obtain ⟨kept, hkept, heq⟩ := exists_rdropWhile_endLines fun text htext => (htexts text htext).1
  have hsource : fencedSource body = String.ofList (joinLines kept) := by rw [fencedSource_eq, heq]
  have hsome : kept ≠ [] := by
    rintro rfl
    exact hne hsource
  rw [hsource, String.toList_ofList, lines_joinLines hsome fun text htext => htexts text (hkept.subset htext)]
  exact hkept

/-- The lines of a fenced block stand in the document from the line of the block on. -/
theorem FencedIn.exists_getElem? {cs : List Char} (hcs : '\r' ∉ cs) (h : FencedIn (documentLines cs) b)
    (hsource : b.source ≠ "") :
    ∃ n, b.line = n + 1 ∧
      ∀ i text, (lines b.source.toList)[i]? = some text → (lineFeedPieces cs)[n + i]? = some text := by
  obtain ⟨front, opening, body, closing, back, hlines, rfl⟩ := h
  obtain ⟨-, hnumber⟩ := of_documentLines_eq_append hlines
  have hplain : ∀ line ∈ body, IsPlainLine line.text := fun line hline =>
    isPlainLine_of_mem_documentLines hcs (by simp [hlines, hline])
  refine ⟨front.length + 1, by rw [hnumber], fun i text htext => ?_⟩
  obtain ⟨rest, hrest⟩ := lines_fencedSource hplain hsource
  have hbody : (body.map DocumentLine.text)[i]? = some text := by
    rw [← hrest, List.getElem?_append_left (List.getElem?_eq_some_iff.mp htext).1]
    exact htext
  rw [List.getElem?_map] at hbody
  obtain ⟨line, hline, rfl⟩ := Option.map_eq_some_iff.mp hbody
  have hplace : (documentLines cs)[front.length + (i + 1)]? = some line := by
    rw [hlines, List.getElem?_append_right (Nat.le_add_right _ _), Nat.add_sub_cancel_left,
      List.getElem?_cons_succ, List.getElem?_append_left (List.getElem?_eq_some_iff.mp hline).1]
    exact hline
  rw [Nat.add_assoc, Nat.add_comm 1, ← map_text_documentLines, List.getElem?_map, hplace]
  rfl

theorem exists_readLine_of_mem_issues {d : Dialect} {source : String} {issue : Issue}
    (h : issue ∈ (scan d source).issues) :
    ∃ line ∈ sourceLines source, line.number = issue.line ∧
      readLine d line.text.toList = .error (.line issue.error) := by
  rw [scan, Progress.issues_run] at h
  obtain ⟨line, hline, hissue⟩ := List.mem_filterMap.mp h
  rw [issueAt?] at hissue
  split at hissue
  · next error hread =>
    cases hissue
    exact ⟨line, hline, rfl, hread⟩
  · cases hissue

/-- Each line of a fenced block is the line of the document as many lines below the start of the block, where the
lines of both are counted from 1.  So the line that is shown with an issue is the line of the document that is
wrong. -/
theorem fencedBlock_lines {markdown : String} (hbreaks : PlainBreaks markdown.toList)
    (hblock : b ∈ extractBlocks markdown) (hkind : b.kind = .fenced) (hsource : b.source ≠ "") :
    (∀ k, 1 ≤ k → k ≤ (LineCursor.ofSource b.source).drain.length →
      ∃ text, (LineCursor.ofSource b.source).drain[k - 1]? = some ⟨k, text⟩ ∧
        ⟨b.line + k - 1, text⟩ ∈ sourceLines markdown) ∧
      ∀ (d : Dialect) (locale : String) (options : Options) (r : Report),
        parse d b.source locale options = .error (.wrongLines r) → ∀ issue ∈ r.issues,
          ∃ text, ⟨issue.line, text⟩ ∈ sourceLines b.source ∧
            readLine d text.toList = .error (.line issue.error) ∧
            ⟨documentLine b issue, text⟩ ∈ sourceLines markdown := by
  obtain ⟨n, hn, hlines⟩ :=
    (fencedIn_of_mem_extractBlocks hblock hkind).exists_getElem? hbreaks.not_mem_joinCrLf hsource
  rw [← lines_of_plainBreaks hbreaks] at hlines
  have hdocument (line : SourceLine) (hline : line ∈ sourceLines b.source) :
      ⟨b.line + line.number - 1, line.text⟩ ∈ sourceLines markdown := by
    obtain ⟨i, text, htext, rfl⟩ := mem_sourceLines_iff.mp hline
    have hnumber : b.line + (i + 1) - 1 = n + i + 1 := by omega
    exact mem_sourceLines_iff.mpr ⟨n + i, text, hlines i text htext, by rw [hnumber]⟩
  refine ⟨fun k hk hle => ?_, fun d locale options r hparse issue hissue => ?_⟩
  · rw [LineCursor.drain_ofSource] at hle ⊢
    have hlt : k - 1 < (lines b.source.toList).length := by
      rw [← length_sourceLines]
      omega
    have hline : (sourceLines b.source)[k - 1]? = some ⟨k, String.ofList (lines b.source.toList)[k - 1]⟩ := by
      rw [getElem?_sourceLines, List.getElem?_eq_getElem hlt, Nat.sub_add_cancel hk]
      rfl
    exact ⟨_, hline, hdocument _ (List.mem_of_getElem? hline)⟩
  · obtain ⟨hcompile, -⟩ := parse_eq_wrongLines_iff.mp hparse
    obtain ⟨-, rfl⟩ := compile_eq_ok_iff.mp hcompile
    obtain ⟨⟨number, text⟩, hline, rfl, hread⟩ := exists_readLine_of_mem_issues hissue
    exact ⟨text, hline, hread, hdocument _ hline⟩

/-- An issue on the second line of a block, below an empty line and with other line ends. -/
theorem fencedBlock_lines_wrongMonth :
    (⟨.fenced, "\n- [2020-13] x", 3⟩ : Block) ∈
        extractBlocks "# T\r\n```chronos\r\n\r\n- [2020-13] x\r\n\r\n```\r\n" ∧
      ∃ r : Report, parse .standard "\n- [2020-13] x" = .error (.wrongLines r) ∧
        ∀ issue ∈ r.issues, ∃ text,
          ⟨documentLine ⟨.fenced, "\n- [2020-13] x", 3⟩ issue, text⟩ ∈
              sourceLines "# T\r\n```chronos\r\n\r\n- [2020-13] x\r\n\r\n```\r\n" ∧
            documentLine ⟨.fenced, "\n- [2020-13] x", 3⟩ issue = 4 := by
  have hbreaks : PlainBreaks "# T\r\n```chronos\r\n\r\n- [2020-13] x\r\n\r\n```\r\n".toList := by decide +kernel
  have hblock : (⟨.fenced, "\n- [2020-13] x", 3⟩ : Block) ∈
      extractBlocks "# T\r\n```chronos\r\n\r\n- [2020-13] x\r\n\r\n```\r\n" := by decide +kernel
  have hparse : parse .standard "\n- [2020-13] x" = .error (.wrongLines ⟨{}, [⟨2, .date (.month 13)⟩]⟩) := by
    decide +kernel
  refine ⟨hblock, _, hparse, fun issue hissue => ?_⟩
  obtain ⟨text, -, -, htext⟩ := (fencedBlock_lines hbreaks hblock rfl (by decide)).2 _ _ _ _ hparse issue hissue
  obtain rfl := List.mem_singleton.mp hissue
  exact ⟨text, htext, rfl⟩

/-! ## The line of an inline block -/

/-- The script of an inline block stands on the line of its opening, or as many lines further down as there are line
feeds among the blanks between them.  So the line of a block is that of its script if there are none. -/
theorem inlineBlock_line {markdown : String} (hbreaks : PlainBreaks markdown.toList)
    (hblock : b ∈ extractBlocks markdown) (hkind : b.kind = .inline) :
    ∃ before blanks after,
      joinCrLf markdown.toList = before ++ (inlineOpening ++ blanks ++ b.source.toList ++ after) ∧
      blanks ≠ [] ∧ (∀ c ∈ blanks, isBlank c) ∧ b.line = before.count '\n' + 1 ∧
      (∃ text, ⟨b.line + blanks.count '\n', text⟩ ∈ sourceLines markdown ∧
        b.source.toList <:+: text.toList) ∧
      ('\n' ∉ blanks → ∃ text, ⟨b.line, text⟩ ∈ sourceLines markdown ∧ b.source.toList <:+: text.toList) := by
  obtain ⟨before, rest, script, length, hcs, hread, rfl⟩ := inlineIn_of_mem_extractBlocks hblock hkind
  obtain ⟨blanks, after, rfl, hne, hblanks, hscript⟩ := exists_of_inlineAt? hread
  have hline : ∃ text, ⟨1 + before.count '\n' + blanks.count '\n', text⟩ ∈ sourceLines markdown ∧
      script <:+: text.toList := by
    obtain ⟨piece, hpiece, hinfix⟩ :=
      exists_lineFeedPiece_of_append hscript (before ++ (inlineOpening ++ blanks)) after
    have hopening : inlineOpening.count '\n' = 0 := by decide
    have hparts : before ++ (inlineOpening ++ blanks) ++ (script ++ after) = joinCrLf markdown.toList := by
      simp [hcs]
    rw [hparts, ← lines_of_plainBreaks hbreaks, List.count_append, List.count_append, hopening,
      Nat.zero_add] at hpiece
    refine ⟨String.ofList piece, mem_sourceLines_iff.mpr ⟨_, piece, hpiece, ?_⟩, by simpa using hinfix⟩
    rw [Nat.add_assoc, Nat.add_comm 1]
  rw [String.toList_ofList]
  refine ⟨before, blanks, after, hcs, hne, hblanks, Nat.add_comm _ _, hline, fun hnone => ?_⟩
  rw [List.count_eq_zero.mpr hnone] at hline
  exact hline

/-- A script two lines below its opening. -/
theorem inlineBlock_line_twoBreaks :
    (⟨.inline, "[2021] Party", 2⟩ : Block) ∈ extractBlocks "Next:\r\n`chronos \r\n\r\n [2021] Party`." ∧
      ∃ blanks : List Char, blanks ≠ [] ∧ (∀ c ∈ blanks, isBlank c) ∧
        ∃ text, ⟨2 + blanks.count '\n', text⟩ ∈ sourceLines "Next:\r\n`chronos \r\n\r\n [2021] Party`." ∧
          "[2021] Party".toList <:+: text.toList := by
  have hbreaks : PlainBreaks "Next:\r\n`chronos \r\n\r\n [2021] Party`.".toList := by decide +kernel
  have hblock : (⟨.inline, "[2021] Party", 2⟩ : Block) ∈
      extractBlocks "Next:\r\n`chronos \r\n\r\n [2021] Party`." := by decide +kernel
  obtain ⟨before, blanks, after, -, hne, hblanks, -, htext, -⟩ := inlineBlock_line hbreaks hblock rfl
  exact ⟨hblock, blanks, hne, hblanks, htext⟩

/-- A line feed behind the language word puts the script below the line that its block carries. -/
theorem inlineBlock_line_wrapped :
    PlainBreaks "`chronos\n[2020] Event`".toList ∧
      (⟨.inline, "[2020] Event", 1⟩ : Block) ∈ extractBlocks "`chronos\n[2020] Event`" ∧
      ¬∃ text, ⟨1, text⟩ ∈ sourceLines "`chronos\n[2020] Event`" ∧ "[2020] Event".toList <:+: text.toList := by
  refine ⟨by decide +kernel, by decide +kernel, ?_⟩
  rintro ⟨text, htext, hinfix⟩
  have hlines : sourceLines "`chronos\n[2020] Event`" = [⟨1, "`chronos"⟩, ⟨2, "[2020] Event`"⟩] := by decide +kernel
  rw [hlines] at htext
  have hfirst : text = "`chronos" := by simpa using htext
  rw [hfirst] at hinfix
  exact absurd hinfix.length_le (by decide)

end Chronicle.Document
