/-!
# Stable sorting

`stableSort before` puts a list into the order of a comparison.  An element moves only where it has to:
two elements that need no order between them keep the one they have.  The result holds the same elements,
`perm_stableSort`.

`tryStableSort` is the same sort by a comparison that may fail, and fails with the comparison.
-/

namespace Chronicle.Data

/-- Puts an element in front of the first one that does not have to come before it. -/
def insertBy {α : Type} (before : α → α → Bool) (a : α) : List α → List α
  | [] => [a]
  | b :: rest => if before b a then b :: insertBy before a rest else a :: b :: rest

/-- Sorts a list.  Elements that need no order between them keep the one they have. -/
def stableSort {α : Type} (before : α → α → Bool) (as : List α) : List α :=
  as.foldr (insertBy before) []

/-- Puts an element in front of the first one that does not have to come before it, if they can be compared. -/
def tryInsertBy {ε α : Type} (before : α → α → Except ε Bool) (a : α) : List α → Except ε (List α)
  | [] => .ok [a]
  | b :: rest => do
    if ← before b a then return b :: (← tryInsertBy before a rest) else return a :: b :: rest

/-- Sorts a list whose elements may not all be comparable. -/
def tryStableSort {ε α : Type} (before : α → α → Except ε Bool) : List α → Except ε (List α)
  | [] => .ok []
  | a :: rest => do tryInsertBy before a (← tryStableSort before rest)

theorem perm_insertBy {α : Type} (before : α → α → Bool) (a : α) (as : List α) :
    (insertBy before a as).Perm (a :: as) := by
  induction as with
  | nil => exact .refl _
  | cons b rest ih =>
    simp only [insertBy]
    split
    · exact (ih.cons b).trans (.swap a b rest)
    · exact .refl _

theorem perm_stableSort {α : Type} (before : α → α → Bool) (as : List α) :
    (stableSort before as).Perm as := by
  induction as with
  | nil => exact .refl _
  | cons a rest ih => exact (perm_insertBy before a _).trans (ih.cons a)

end Chronicle.Data
