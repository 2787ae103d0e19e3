import Chronicle.Document.Fence
import Chronicle.Proofs.Text.Lines
import Mathlib.Data.List.DropRight
import Mathlib.Data.List.TakeWhile

/-!
# The lines of a document and its fences

*Places.*  A line of a document starts behind the lines before it, each with its line feed
(`of_documentLines_eq_append`), so the places of lines increase (`pairwise_placeLines`).  A fenced block between two
lines takes up the text from the one to the other (`fencedPassage_of_documentLines`).

*Fences.*  An opening line is a fence and the language word, with spaces and tabs where they may stand
(`openingFence?_eq_some_iff`), and a closing line is the fence alone (`closesFence_iff`).  Neither the word nor a
space can be part of a fence, so there is one way to read an opening line.
-/

namespace Chronicle.Document

open Chronicle.Text

/-! ## Places of lines -/

theorem map_text_placeLines (offset number : Nat) (pieces : List (List Char)) :
    (placeLines offset number pieces).map DocumentLine.text = pieces := by
  induction pieces generalizing offset number with
  | nil => rfl
  | cons piece rest ih => rw [placeLines, List.map_cons, ih]

theorem of_placeLines_eq_append {offset number : Nat} {pieces : List (List Char)} {front back : List DocumentLine}
    {line : DocumentLine} (h : placeLines offset number pieces = front ++ line :: back) :
    line.offset = offset + (endLines (front.map DocumentLine.text)).length ∧ line.number = number + front.length := by
  induction front generalizing offset number pieces with
  | nil =>
    cases pieces with
    | nil => cases h
    | cons piece rest =>
      cases h
      exact ⟨rfl, rfl⟩
  | cons first front ih =>
    cases pieces with
    | nil => cases h
    | cons piece rest =>
      obtain ⟨rfl, hrest⟩ := List.cons.inj h
      obtain ⟨hoffset, hnumber⟩ := ih hrest
      rw [List.map_cons, endLines_cons, List.length_append, List.length_cons, List.length_cons, hoffset, hnumber]
      exact ⟨by dsimp only; omega, by omega⟩

theorem le_offset_of_mem_placeLines {offset number : Nat} {pieces : List (List Char)} {line : DocumentLine}
    (h : line ∈ placeLines offset number pieces) : offset ≤ line.offset := by
  obtain ⟨front, back, hlines⟩ := List.append_of_mem h
  rw [(of_placeLines_eq_append hlines).1]
  exact Nat.le_add_right _ _

/-- A line starts behind the end of every line before it. -/
theorem pairwise_placeLines (offset number : Nat) (pieces : List (List Char)) :
    (placeLines offset number pieces).Pairwise fun a b => a.offset + a.text.length < b.offset := by
  induction pieces generalizing offset number with
  | nil => exact .nil
  | cons piece rest ih => exact .cons (fun line hline => le_offset_of_mem_placeLines hline) (ih _ _)

theorem map_text_documentLines (cs : List Char) :
    (documentLines cs).map DocumentLine.text = lineFeedPieces cs :=
  map_text_placeLines 0 1 (lineFeedPieces cs)

theorem of_documentLines_eq_append {cs : List Char} {front back : List DocumentLine} {line : DocumentLine}
    (h : documentLines cs = front ++ line :: back) :
    line.offset = (endLines (front.map DocumentLine.text)).length ∧ line.number = front.length + 1 := by
  obtain ⟨hoffset, hnumber⟩ := of_placeLines_eq_append h
  rw [Nat.zero_add] at hoffset
  exact ⟨hoffset, hnumber.trans (Nat.add_comm _ _)⟩

/-- The text of a fenced block is that of its lines, without the line feeds at the end. -/
theorem fencedSource_eq (body : List DocumentLine) :
    fencedSource body = String.ofList ((endLines (body.map DocumentLine.text)).rdropWhile (· == '\n')) := by
  rw [endLines, List.flatMap_map]
  rfl

/-- A fenced block takes up whole lines. -/
theorem fencedPassage_of_documentLines {cs : List Char} {front body back : List DocumentLine}
    {opening closing : DocumentLine} (h : documentLines cs = front ++ opening :: (body ++ closing :: back)) :
    fencedPassage opening closing body =
      ⟨(endLines (front.map DocumentLine.text)).length,
        (endLines (front.map DocumentLine.text ++ opening.text :: body.map DocumentLine.text)).length +
          closing.text.length,
        ⟨.fenced, String.ofList ((endLines (body.map DocumentLine.text)).rdropWhile (· == '\n')),
          front.length + 2⟩⟩ := by
  obtain ⟨hstart, hnumber⟩ := of_documentLines_eq_append h
  have hlines : documentLines cs = (front ++ opening :: body) ++ closing :: back := by simp [h]
  obtain ⟨hstop, -⟩ := of_documentLines_eq_append hlines
  rw [List.map_append, List.map_cons] at hstop
  rw [fencedPassage, hstart, hstop, hnumber, fencedSource_eq]

/-! ## Fences -/

/-- Three or more backticks, or three or more tildes. -/
def IsFence (fence : List Char) : Prop := ∃ c n, isFenceChar c ∧ 3 ≤ n ∧ fence = List.replicate n c

variable {fence line : List Char}

theorem isFenceChar_iff {c : Char} : isFenceChar c = true ↔ c = '\x60' ∨ c = '~' := by
  simp [isFenceChar]

theorem isPad_iff {c : Char} : isPad c = true ↔ c = ' ' ∨ c = '\t' := by
  simp [isPad]

theorem IsFence.isFenceChar_of_mem (h : IsFence fence) {c : Char} (hc : c ∈ fence) : isFenceChar c = true := by
  obtain ⟨d, n, hd, -, rfl⟩ := h
  rwa [List.eq_of_mem_replicate hc]

theorem IsFence.exists_cons (h : IsFence fence) : ∃ c rest, isFenceChar c ∧ fence = c :: c :: c :: rest := by
  obtain ⟨c, n, hc, hn, rfl⟩ := h
  obtain ⟨n, rfl⟩ := Nat.exists_eq_add_of_le hn
  exact ⟨c, List.replicate n c, hc, by rw [Nat.add_comm]; rfl⟩

/-- Behind a fence stands a character that cannot be part of it. -/
theorem exists_cons_of_pads {front : List Char} (hfront : ∀ c ∈ front, isPad c) (back : List Char) :
    ∃ c rest, isFenceChar c = false ∧ front ++ (languageWord ++ back) = c :: rest := by
  cases front with
  | nil => exact ⟨'c', _, rfl, rfl⟩
  | cons c rest =>
    refine ⟨c, _, ?_, rfl⟩
    rcases isPad_iff.mp (hfront c List.mem_cons_self) with rfl | rfl <;> rfl

theorem isFence_of_openingFence? (h : openingFence? line = some fence) :
    IsFence fence ∧ ∃ front back, (∀ c ∈ front, isPad c) ∧ (∀ c ∈ back, isPad c) ∧
      line = fence ++ (front ++ (languageWord ++ back)) := by
  unfold openingFence? at h
  split at h
  · cases h
  · next c rest =>
    dsimp only at h
    split at h
    · next hfence =>
      rw [Bool.and_eq_true, decide_eq_true_eq] at hfence
      split at h
      · next back hback =>
        rw [dropFront?_eq_some_iff] at hback
        split at h
        · next hpads =>
          cases h
          refine ⟨⟨c, _, hfence.1, hfence.2, List.eq_replicate_iff.mpr ⟨rfl, fun d hd => ?_⟩⟩,
            ((c :: rest).dropWhile (· == c)).takeWhile isPad, back, fun d => List.mem_takeWhile_imp,
            List.all_eq_true.mp hpads, ?_⟩
          · exact beq_iff_eq.mp (List.mem_takeWhile_imp (p := (· == c)) hd)
          · rw [← hback, List.takeWhile_append_dropWhile, List.takeWhile_append_dropWhile]
        · cases h
      · cases h
    · cases h

theorem openingFence?_append (h : IsFence fence) {front back : List Char} (hfront : ∀ c ∈ front, isPad c)
    (hback : ∀ c ∈ back, isPad c) : openingFence? (fence ++ (front ++ (languageWord ++ back))) = some fence := by
  obtain ⟨c, n, hc, hn, rfl⟩ := h
  have hall : ∀ d ∈ List.replicate n c, (d == c) = true := fun d hd =>
    beq_iff_eq.mpr (List.eq_of_mem_replicate hd)
  obtain ⟨d, rest, hd, hbehind⟩ := exists_cons_of_pads hfront back
  have hne : d ≠ c := by
    rintro rfl
    rw [hd] at hc
    cases hc
  have hspan := span_append_cons d hall (beq_eq_false_iff_ne.mpr hne) rest
  rw [← hbehind] at hspan
  obtain ⟨hfence, hrest⟩ := hspan
  have hword : (front ++ (languageWord ++ back)).dropWhile isPad = languageWord ++ back :=
    List.dropWhile_append_of_pos hfront
  obtain ⟨more, hcons⟩ : ∃ more, List.replicate n c ++ (front ++ (languageWord ++ back)) = c :: more := by
    obtain ⟨n, rfl⟩ := Nat.exists_eq_add_of_le' hn
    exact ⟨_, rfl⟩
  rw [hcons] at hfence hrest ⊢
  unfold openingFence?
  dsimp only
  rw [hfence, hrest, hword, dropFront?_eq_some_iff.mpr rfl]
  simp [hc, hn, List.all_eq_true.mpr hback]

/-- An opening line is a fence and the language word, with spaces and tabs between them and at the end. -/
theorem openingFence?_eq_some_iff :
    openingFence? line = some fence ↔
      IsFence fence ∧ ∃ front back, (∀ c ∈ front, isPad c) ∧ (∀ c ∈ back, isPad c) ∧
        line = fence ++ (front ++ (languageWord ++ back)) := by
  constructor
  · exact isFence_of_openingFence?
  · rintro ⟨hfence, front, back, hfront, hback, rfl⟩
    exact openingFence?_append hfence hfront hback

/-- A closing line is the fence alone, perhaps with spaces and tabs behind it. -/
theorem closesFence_iff : closesFence fence line = true ↔ ∃ back, (∀ c ∈ back, isPad c) ∧ line = fence ++ back := by
  rw [closesFence]
  constructor
  · intro h
    split at h
    · next back hback => exact ⟨back, List.all_eq_true.mp h, dropFront?_eq_some_iff.mp hback⟩
    · cases h
  · rintro ⟨back, hback, rfl⟩
    rw [dropFront?_eq_some_iff.mpr rfl]
    exact List.all_eq_true.mpr hback

end Chronicle.Document
