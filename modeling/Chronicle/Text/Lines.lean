import Chronicle.Text.Cut

/-!
# Lines

A line ends at a line feed, a carriage return, or a carriage return followed by a line feed, which
counts once.  A text has one line more than it has line ends.

`LineCursor` hands the lines of a text out one at a time with their numbers, counted from 1.
-/

namespace Chronicle.Text

/-- The text with every carriage return before a line feed removed. -/
def joinCrLf : List Char → List Char
  | [] => []
  | [c] => [c]
  | c :: d :: rest =>
    if c = '\r' ∧ d = '\n' then joinCrLf (d :: rest) else c :: joinCrLf (d :: rest)

/-- The text with every line end written as one line feed. -/
def unifyBreaks (cs : List Char) : List Char :=
  (joinCrLf cs).map fun c => if c = '\r' then '\n' else c

/-- The pieces of a text between its line feeds. -/
def lineFeedPieces : List Char → List (List Char)
  | [] => [[]]
  | c :: rest => if c = '\n' then [] :: lineFeedPieces rest else consFirst c (lineFeedPieces rest)

/-- The lines of a text, whichever line ends it uses. -/
def lines (cs : List Char) : List (List Char) := lineFeedPieces (unifyBreaks cs)

structure SourceLine where
  /-- The number of the line, counted from 1. -/
  number : Nat
  text : String
  deriving DecidableEq, Repr

/-- The lines of a source text with their numbers. -/
def sourceLines (source : String) : List SourceLine :=
  (lines source.toList).zipIdx.map fun (text, i) => ⟨i + 1, String.ofList text⟩

/-- A reading position in a source text. -/
structure LineCursor where
  /-- The lines not yet handed out. -/
  rest : List String
  /-- The number of lines handed out so far. -/
  position : Nat := 0
  deriving DecidableEq, Repr

/-- The cursor at the start of a source text. -/
def LineCursor.ofSource (source : String) : LineCursor :=
  ⟨(lines source.toList).map String.ofList, 0⟩

/-- The next line and the cursor after it, until the lines are used up. -/
def LineCursor.next? (cursor : LineCursor) : Option (SourceLine × LineCursor) :=
  match cursor.rest with
  | [] => none
  | text :: rest => some (⟨cursor.position + 1, text⟩, ⟨rest, cursor.position + 1⟩)

end Chronicle.Text
