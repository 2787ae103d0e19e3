import Chronicle.Text.Sorted
import Mathlib.Data.List.Sort
import Mathlib.Data.String.Basic

/-!
# What sorting makes of texts

Sorting leaves out repetitions and nothing else (`mem_sortedTexts_iff`), and what comes out increases strictly by code
points (`pairwise_sortedTexts`).  There is only one such list of the same texts, so lists of the same texts are sorted
alike (`sortedTexts_eq_of_mem_iff`), however often and in whichever order they have them.
-/

namespace Chronicle.Text

variable {s t : String} {texts more : List String}

theorem mem_insertSorted_iff : t ∈ insertSorted s texts ↔ t = s ∨ t ∈ texts := by
  induction texts with
  | nil => simp [insertSorted]
  | cons first rest ih =>
    rw [insertSorted]
    split
    · next hsame => simp [hsame]
    · split
      · exact List.mem_cons
      · rw [List.mem_cons, ih, List.mem_cons, or_left_comm]

theorem pairwise_insertSorted (h : texts.Pairwise (· < ·)) (s : String) : (insertSorted s texts).Pairwise (· < ·) := by
  induction texts with
  | nil => exact List.pairwise_singleton _ s
  | cons first rest ih =>
    obtain ⟨hfirst, hrest⟩ := List.pairwise_cons.mp h
    rw [insertSorted]
    split
    · exact h
    · next hne =>
      split
      · next hlt =>
        refine List.pairwise_cons.mpr ⟨fun t ht => ?_, h⟩
        rcases List.mem_cons.mp ht with rfl | ht
        · exact hlt
        · exact hlt.trans (hfirst t ht)
      · next hnot =>
        have hlt : first < s := lt_of_le_of_ne (not_lt.mp hnot) (Ne.symm hne)
        refine List.pairwise_cons.mpr ⟨fun t ht => ?_, ih hrest⟩
        rcases mem_insertSorted_iff.mp ht with rfl | ht
        · exact hlt
        · exact hfirst t ht

theorem mem_sortedTexts_iff : t ∈ sortedTexts texts ↔ t ∈ texts := by
  induction texts with
  | nil => rfl
  | cons s rest ih =>
    have hinsert : t ∈ sortedTexts (s :: rest) ↔ t = s ∨ t ∈ sortedTexts rest := mem_insertSorted_iff
    rw [hinsert, ih, List.mem_cons]

theorem pairwise_sortedTexts (texts : List String) : (sortedTexts texts).Pairwise (· < ·) := by
  induction texts with
  | nil => exact .nil
  | cons s rest ih => exact pairwise_insertSorted ih s

/-- The same texts are sorted alike. -/
theorem sortedTexts_eq_of_mem_iff (h : ∀ t, t ∈ texts ↔ t ∈ more) : sortedTexts texts = sortedTexts more := by
  refine (pairwise_sortedTexts texts).eq_of_mem_iff (pairwise_sortedTexts more) fun t => ?_
  rw [mem_sortedTexts_iff, mem_sortedTexts_iff]
  exact h t

end Chronicle.Text
