/-!
# Cutting texts at a separator

`cutAt? sep cs` cuts at the first occurrence of `sep`, and `splitAll sep cs` at every one, reading
from the left and never letting two occurrences overlap.  A separator is not empty where these are
used: a caller refuses an empty one first.

A run of characters of one kind is cut off where another kind follows (`span_append`).
-/

namespace Chronicle.Text

/-- The texts before and after the first occurrence of a separator. -/
def cutAt? (sep : List Char) : List Char → Option (List Char × List Char)
  | [] => if sep.isEmpty then some ([], []) else none
  | c :: rest =>
    if sep.isPrefixOf (c :: rest) then some ([], (c :: rest).drop sep.length)
    else (cutAt? sep rest).map fun (before, after) => (c :: before, after)

/-- A cut loses nothing but the separator that it falls on. -/
theorem eq_of_cutAt? {sep cs before after : List Char} (h : cutAt? sep cs = some (before, after)) :
    cs = before ++ sep ++ after := by
  induction cs generalizing before with
  | nil =>
    simp only [cutAt?] at h
    split at h
    · next hs => simp_all
    · simp at h
  | cons c rest ih =>
    simp only [cutAt?] at h
    split at h
    · next hp =>
      simp only [Option.some.injEq, Prod.mk.injEq] at h
      rw [← h.1, ← h.2]
      exact List.prefix_iff_eq_append.mp (List.isPrefixOf_iff_prefix.mp hp) |>.symm
    · obtain ⟨⟨front, back⟩, hcut, heq⟩ := Option.map_eq_some_iff.mp h
      obtain ⟨rfl, rfl⟩ := Prod.mk.inj heq
      rw [ih hcut]
      simp

/-- Adds a character to the front of the first piece. -/
def consFirst (c : Char) : List (List Char) → List (List Char)
  | [] => [[c]]
  | piece :: pieces => (c :: piece) :: pieces

/-- The pieces of a text whose first `skip` characters end an occurrence of the separator. -/
def splitFrom (sep : List Char) : (skip : Nat) → List Char → List (List Char)
  | _, [] => [[]]
  | skip + 1, _ :: rest => splitFrom sep skip rest
  | 0, c :: rest =>
    if sep.isPrefixOf (c :: rest) then [] :: splitFrom sep (sep.length - 1) rest
    else consFirst c (splitFrom sep 0 rest)

/-- The pieces of a text between the occurrences of a separator. -/
def splitAll (sep cs : List Char) : List (List Char) := splitFrom sep 0 cs

/-- The text without `front`, when it starts with it. -/
def dropFront? (front cs : List Char) : Option (List Char) :=
  if front.isPrefixOf cs then some (cs.drop front.length) else none

theorem dropFront?_eq_some_iff {front cs rest : List Char} :
    dropFront? front cs = some rest ↔ cs = front ++ rest := by
  unfold dropFront?
  constructor
  · intro h
    split at h
    · next hp =>
      obtain ⟨t, rfl⟩ := List.isPrefixOf_iff_prefix.mp hp
      simp only [List.drop_left, Option.some.injEq] at h
      rw [h]
    · simp at h
  · rintro rfl
    simp

theorem dropFront?_eq_none_iff {front cs : List Char} : dropFront? front cs = none ↔ ¬front <+: cs := by
  simp [dropFront?, List.isPrefixOf_iff_prefix]

/-! ## Runs -/

section
variable {α : Type} {p : α → Bool} {front : List α}

/-- A run ends where an element of another kind follows, or nothing. -/
theorem span_append {rest : List α} (hfront : ∀ a ∈ front, p a = true) (hrest : ∀ a ∈ rest.head?, p a = false) :
    (front ++ rest).takeWhile p = front ∧ (front ++ rest).dropWhile p = rest := by
  rw [List.takeWhile_append_of_pos hfront, List.dropWhile_append_of_pos hfront]
  cases rest with
  | nil => simp
  | cons a rest => simp [hrest a rfl]

theorem span_append_cons (stop : α) (hfront : ∀ a ∈ front, p a = true) (hstop : p stop = false) (rest : List α) :
    (front ++ stop :: rest).takeWhile p = front ∧ (front ++ stop :: rest).dropWhile p = stop :: rest := by
  refine span_append hfront ?_
  rintro a ⟨⟩
  exact hstop

end

end Chronicle.Text
