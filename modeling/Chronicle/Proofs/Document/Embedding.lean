import Chronicle.Proofs.Document.FenceLines
import Chronicle.Proofs.Document.Passages

/-!
# A script put into a document

A `FencedScript` is a document with one fenced block, made of a script, its fence, and the texts before and behind
it.  The parts say what keeps them apart.  The texts around the block are whole lines without a character of a fence,
and no line of the script closes the fence.  What else stands in the script does not matter: other fences, openings of
blocks and inline spans are part of it.

*The fenced block.*  No line before the block opens one, and the opening line reads the fence that it was given.  The
lines of the script do not close it, so the first line that does is the one behind the script
(`fencedPassages_chars`).

*Inline spans.*  A span starts with a backtick, and there is none outside of the block (`covers_of_tick`).

So the script is read back (`extractBlocks_chars`).
-/

namespace Chronicle.Document

open Chronicle.Data Chronicle.Text

/-- A script, its fence, and the texts before and behind its block. -/
structure FencedScript where
  before : List Char
  fence : List Char
  script : List Char
  after : List Char
  isFence : IsFence fence
  /-- No line of the script is the fence, with spaces and tabs behind it or without. -/
  script_open : ∀ line ∈ lineFeedPieces script, ¬∃ pads, (∀ c ∈ pads, isPad c) ∧ line = fence ++ pads
  before_ended : ∀ c ∈ before.getLast?, c = '\n'
  after_apart : ∀ c ∈ after.head?, c = '\n'
  before_unfenced : ∀ c ∈ before, isFenceChar c = false
  after_unfenced : ∀ c ∈ after, isFenceChar c = false
  before_plain : '\r' ∉ before
  script_plain : '\r' ∉ script
  after_plain : '\r' ∉ after

/-! ## Reading lines -/

theorem fencedFrom_append {front : List DocumentLine} (h : ∀ line ∈ front, openingFence? line.text = none)
    (back : List DocumentLine) : fencedFrom 0 (front ++ back) = fencedFrom 0 back := by
  induction front with
  | nil => rfl
  | cons line rest ih =>
    obtain ⟨hline, hrest⟩ := List.forall_mem_cons.mp h
    rw [List.cons_append, fencedFrom, hline]
    exact ih hrest

theorem fencedFrom_block {opening closing : DocumentLine} {body : List DocumentLine} {fence : List Char}
    (hopening : openingFence? opening.text = some fence) (hbody : ∀ line ∈ body, closesFence fence line.text = false)
    (hclosing : closesFence fence closing.text = true) (back : List DocumentLine) :
    fencedFrom 0 (opening :: (body ++ closing :: back)) =
      fencedPassage opening closing body :: fencedFrom 0 back := by
  have hspan : (body ++ closing :: back).span (fun line => !closesFence fence line.text) =
      (body, closing :: back) := by
    have hall : ∀ line ∈ body, (!closesFence fence line.text) = true := fun line hline => by
      rw [hbody line hline, Bool.not_false]
    have hstop : (!closesFence fence closing.text) = false := by rw [hclosing, Bool.not_true]
    obtain ⟨htake, hdrop⟩ := span_append_cons closing hall hstop back
    rw [List.span_eq_takeWhile_dropWhile, htake, hdrop]
  rw [fencedFrom, hopening]
  dsimp only
  rw [hspan]
  dsimp only
  rw [fencedFrom_eq_drop, ← List.drop_drop, List.drop_left, List.drop_one, List.tail_cons]

/-- A line without a character of a fence opens no block. -/
theorem openingFence?_of_unfenced {line : List Char} (h : ∀ c ∈ line, isFenceChar c = false) :
    openingFence? line = none := by
  cases hopening : openingFence? line with
  | none => rfl
  | some fence =>
    obtain ⟨hfence, front, back, -, -, rfl⟩ := openingFence?_eq_some_iff.mp hopening
    obtain ⟨c, rest, hc, rfl⟩ := hfence.exists_cons
    rw [h c List.mem_cons_self] at hc
    cases hc

namespace FencedScript

variable (e : FencedScript)

/-- The line that opens the block. -/
def opening : List Char := e.fence ++ languageWord

/-- The block from its opening line to its closing line. -/
def block : List Char := e.opening ++ '\n' :: (e.script ++ '\n' :: e.fence)

def chars : List Char := e.before ++ (e.block ++ e.after)

/-- The passage of the block. -/
def passage : Passage :=
  ⟨e.before.length, e.before.length + e.block.length,
    ⟨.fenced, String.ofList (e.script.rdropWhile (· == '\n')), e.before.count '\n' + 2⟩⟩

variable {e}

/-! ## The lines of the document -/

theorem not_mem_fence {c : Char} (hc : isFenceChar c = false) : c ∉ e.fence := by
  intro hmem
  rw [e.isFence.isFenceChar_of_mem hmem] at hc
  cases hc

theorem not_mem_opening {c : Char} (hc : isFenceChar c = false) (hword : c ∉ languageWord) : c ∉ e.opening := by
  rw [opening, List.mem_append, not_or]
  exact ⟨not_mem_fence hc, hword⟩

theorem joinCrLf_chars : joinCrLf e.chars = e.chars := by
  refine joinCrLf_of_not_mem ?_
  simp only [chars, block, List.mem_append, List.mem_cons, not_or]
  exact ⟨e.before_plain, ⟨not_mem_opening (by decide) (by decide), by decide, e.script_plain, by decide,
    not_mem_fence (by decide)⟩, e.after_plain⟩

theorem openingFence?_opening : openingFence? e.opening = some e.fence :=
  openingFence?_eq_some_iff.mpr ⟨e.isFence, [], [], by simp, by simp, by simp [opening]⟩

theorem closesFence_fence : closesFence e.fence e.fence = true :=
  closesFence_iff.mpr ⟨[], by simp, by simp⟩

theorem closesFence_of_mem_script {line : List Char} (h : line ∈ lineFeedPieces e.script) :
    closesFence e.fence line = false := by
  rw [Bool.eq_false_iff, Ne, closesFence_iff]
  exact e.script_open line h

/-- The lines of the document, where those around the block open none. -/
theorem exists_lineFeedPieces_chars : ∃ front back : List (List Char),
    lineFeedPieces e.chars = front ++ e.opening :: (lineFeedPieces e.script ++ e.fence :: back) ∧
      e.before = endLines front ∧ (∀ line ∈ front, '\n' ∉ line) ∧ (∀ line ∈ front, openingFence? line = none) ∧
      ∀ line ∈ back, openingFence? line = none := by
  obtain ⟨front, hbefore, hfront⟩ := exists_endLines e.before_ended
  obtain ⟨back, hafter, hback⟩ :=
    exists_lineFeedPieces_cons (not_mem_fence (e := e) (c := '\n') (by decide)) e.after_apart
  have hplain : ∀ line ∈ front, '\n' ∉ line := fun line hline hbreak => (hfront line hline _ hbreak).2 rfl
  refine ⟨front, back, ?_, hbefore, hplain, fun line hline => ?_, fun line hline => ?_⟩
  · have hchars : e.chars = endLines front ++ (e.opening ++ '\n' :: (e.script ++ '\n' :: (e.fence ++ e.after))) := by
      simp [chars, block, hbefore]
    rw [hchars, lineFeedPieces_endLines_append hplain,
      lineFeedPieces_append (not_mem_opening (by decide) (by decide)), lineFeedPieces_append_lineFeed, hafter]
  · exact openingFence?_of_unfenced fun c hc => e.before_unfenced c (hfront line hline c hc).1
  · exact openingFence?_of_unfenced fun c hc => e.after_unfenced c (hback line hline c hc)

/-! ## The blocks of the document -/

theorem passage_eq {front : List (List Char)} (hbefore : e.before = endLines front)
    (hfront : ∀ line ∈ front, '\n' ∉ line) :
    e.passage =
      ⟨(endLines front).length, (endLines (front ++ e.opening :: lineFeedPieces e.script)).length + e.fence.length,
        ⟨.fenced, String.ofList ((endLines (lineFeedPieces e.script)).rdropWhile (· == '\n')),
          front.length + 2⟩⟩ := by
  have hscript : endLines (lineFeedPieces e.script) = e.script ++ ['\n'] := by
    rw [endLines_of_ne_nil (lineFeedPieces_ne_nil _), joinLines_lineFeedPieces]
  have hstop : (endLines (front ++ e.opening :: lineFeedPieces e.script)).length + e.fence.length =
      (endLines front).length + e.block.length := by
    rw [endLines_append, endLines_cons, hscript, block]
    simp only [List.length_append, List.length_cons, List.length_nil]
    omega
  rw [hstop, hscript, List.rdropWhile_concat_pos _ _ _ rfl, passage, hbefore, count_endLines hfront]

theorem fencedPassages_chars : fencedPassages e.chars = [e.passage] := by
  obtain ⟨front, back, hpieces, hbefore, hplain, hfront, hback⟩ := exists_lineFeedPieces_chars (e := e)
  rw [← map_text_documentLines] at hpieces
  obtain ⟨front, rest, hlines, rfl, hrest⟩ := List.map_eq_append_iff.mp hpieces
  obtain ⟨opening, rest, rfl, hopening, hrest⟩ := List.map_eq_cons_iff.mp hrest
  obtain ⟨body, rest, rfl, hbody, hrest⟩ := List.map_eq_append_iff.mp hrest
  obtain ⟨closing, back, rfl, hclosing, rfl⟩ := List.map_eq_cons_iff.mp hrest
  have hopens : openingFence? opening.text = some e.fence := by rw [hopening, openingFence?_opening]
  have hopen : ∀ line ∈ body, closesFence e.fence line.text = false := fun line hline =>
    closesFence_of_mem_script (hbody ▸ List.mem_map_of_mem hline)
  have hcloses : closesFence e.fence closing.text = true := by rw [hclosing, closesFence_fence]
  have hbehind : fencedFrom 0 back = [] := by
    rw [← List.append_nil back, fencedFrom_append (List.forall_mem_map.mp hback)]
    rfl
  rw [fencedPassages, hlines, fencedFrom_append (List.forall_mem_map.mp hfront),
    fencedFrom_block hopens hopen hcloses, hbehind, fencedPassage_of_documentLines hlines, hopening, hbody,
    hclosing, passage_eq hbefore hplain, List.length_map]

/-- A backtick of the document stands in the block. -/
theorem covers_of_tick {place : Nat} (h : e.chars[place]? = some '\x60') : e.passage.covers place = true := by
  rw [Passage.covers, Bool.and_eq_true, decide_eq_true_eq, decide_eq_true_eq, passage]
  refine ⟨Nat.not_lt.mp fun hlt => ?_, Nat.not_le.mp fun hle => ?_⟩
  · rw [chars, List.getElem?_append_left hlt] at h
    exact absurd (e.before_unfenced _ (List.mem_of_getElem? h)) (by decide)
  · rw [chars, ← List.append_assoc, List.getElem?_append_right (by rwa [List.length_append])] at h
    exact absurd (e.after_unfenced _ (List.mem_of_getElem? h)) (by decide)

/-- The block of a script in a fence is the one block of the document, and its text is the script without the line
feeds at the end. -/
theorem extractBlocks_chars (e : FencedScript) :
    extractBlocks (String.ofList e.chars) =
      [⟨.fenced, String.ofList (e.script.rdropWhile (· == '\n')), e.before.count '\n' + 2⟩] := by
  have hinline : (inlinePassages e.chars).filter (fun p => !e.passage.covers p.start) = [] := by
    rw [List.filter_eq_nil_iff]
    intro p hp
    rw [covers_of_tick (inlineBy_of_mem_inlineFrom hp).getElem?_start]
    simp
  rw [extractBlocks, passages, String.toList_ofList, joinCrLf_chars, fencedPassages_chars]
  simp only [List.any_cons, List.any_nil, Bool.or_false, hinline]
  rfl

/-- A script with an inline span in it, other fences, and the opening of another block with the same fence. -/
def lookalikes : FencedScript where
  before := "# Notes\n".toList
  fence := "~~~~".toList
  script := "- [2020] `chronos [2021] x`\n~~~\n~~~~~\n```chronos\n~~~~chronos\n\n".toList
  after := "\nEnd\n".toList
  isFence := ⟨'~', 4, by decide, by decide, rfl⟩
  script_open := by
    simp only [← closesFence_iff, Bool.not_eq_true]
    decide +kernel
  before_ended := by
    rintro c ⟨⟩
    rfl
  after_apart := by
    rintro c ⟨⟩
    rfl
  before_unfenced := by simp [isFenceChar]
  after_unfenced := by simp [isFenceChar]
  before_plain := by decide +kernel
  script_plain := by decide +kernel
  after_plain := by decide +kernel

theorem extractBlocks_chars_lookalikes :
    extractBlocks ("# Notes\n~~~~chronos\n" ++
        "- [2020] `chronos [2021] x`\n~~~\n~~~~~\n```chronos\n~~~~chronos\n\n" ++ "\n~~~~\nEnd\n") =
      [⟨.fenced, "- [2020] `chronos [2021] x`\n~~~\n~~~~~\n```chronos\n~~~~chronos", 3⟩] :=
  extractBlocks_chars lookalikes

end FencedScript

end Chronicle.Document
