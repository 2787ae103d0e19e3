/-!
# Runs of code points

A property of characters is a list of *spans*, runs of consecutive code points with both ends
included.  A character has the property when some span holds it.  The tables of the library are
written in increasing order and their spans never touch, so no character is listed twice.
-/

namespace Chronicle.Text

/-- The code points from `first` to `last`, both included. -/
structure Span where
  first : Nat
  last : Nat
  deriving DecidableEq, Repr

/-- Whether a character lies in the run. -/
def Span.contains (s : Span) (c : Char) : Bool :=
  s.first ≤ c.toNat && c.toNat ≤ s.last

def inSpans (table : List Span) (c : Char) : Bool :=
  table.any (·.contains c)

theorem inSpans_iff {table : List Span} {c : Char} :
    inSpans table c = true ↔ ∃ s ∈ table, s.first ≤ c.toNat ∧ c.toNat ≤ s.last := by
  simp [inSpans, Span.contains]

end Chronicle.Text
