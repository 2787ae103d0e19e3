import Chronicle.Data.StableSort
import Chronicle.Document.Fence
import Chronicle.Document.InlineSpan

/-!
# Scripts in a document

The scripts of a Markdown document are its fenced and its inline blocks, in document order.  What starts
inside a fenced block is no inline block.  A carriage return before a line feed does not count.
-/

namespace Chronicle.Document

open Chronicle.Data Chronicle.Text

/-- Whether a place lies inside a passage. -/
def Passage.covers (p : Passage) (offset : Nat) : Bool := p.start ≤ offset && offset < p.stop

/-- The blocks of a document with their places, in order. -/
def passages (markdown : String) : List Passage :=
  let cs := joinCrLf markdown.toList
  let fenced := fencedPassages cs
  let inline := (inlinePassages cs).filter fun p => !fenced.any (·.covers p.start)
  stableSort (fun a b => a.start < b.start) (fenced ++ inline)

/-- The scripts of a document, in order. -/
def extractBlocks (markdown : String) : List Block := (passages markdown).map (·.block)

end Chronicle.Document
