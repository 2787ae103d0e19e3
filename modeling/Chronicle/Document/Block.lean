/-!
# Blocks of a document

Scripts are found inside Markdown documents.  A `Block` is one script with the line of the document that it
starts on.  A `Passage` is a block with the stretch of the document that it takes up, its fences or quotes
included.
-/

namespace Chronicle.Document

/-- How a script stands in a document. -/
inductive BlockKind where
  | fenced
  | inline
  | document
  deriving DecidableEq, Repr

/-- The word for the way in which a script stands in a document. -/
def BlockKind.name : BlockKind → String
  | .fenced => "fenced"
  | .inline => "inline"
  | .document => "document"

/-- A script in a document. -/
structure Block where
  kind : BlockKind
  source : String
  /-- The line of the document that the script starts on, from 1. -/
  line : Nat
  deriving DecidableEq, Repr

/-- A block with its place in the document. -/
structure Passage where
  /-- The number of characters before it. -/
  start : Nat
  /-- The number of characters up to its end. -/
  stop : Nat
  block : Block
  deriving DecidableEq, Repr

/-- The word that marks code as a script. -/
def languageWord : List Char := "chronos".toList

end Chronicle.Document
