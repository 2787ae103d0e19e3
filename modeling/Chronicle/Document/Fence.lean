import Chronicle.Document.Block
import Chronicle.Text.Lines

/-!
# Fenced blocks

A fence is a run of three or more backticks or tildes at the start of a line.  The opening line has the
language word after the fence, and the closing line has the same fence and nothing else.  Spaces and tabs
may stand between and at the end.  The block ends at the first closing line, and a fence that is never
closed opens nothing.
-/

namespace Chronicle.Document

open Chronicle.Text

structure DocumentLine where
  /-- The number of characters before the line. -/
  offset : Nat
  /-- The number of the line, from 1. -/
  number : Nat
  text : List Char
  deriving DecidableEq, Repr

/-- Gives lines their places, the first one at the given place. -/
def placeLines (offset number : Nat) : List (List Char) → List DocumentLine
  | [] => []
  | text :: rest =>
    ⟨offset, number, text⟩ :: placeLines (offset + text.length + 1) (number + 1) rest

def documentLines (cs : List Char) : List DocumentLine := placeLines 0 1 (lineFeedPieces cs)

/-! ## Fences -/

/-- Whether a character is a space or a tab. -/
def isPad (c : Char) : Bool := c == ' ' || c == '\t'

/-- Whether a character can make up a fence. -/
def isFenceChar (c : Char) : Bool := c == '\x60' || c == '~'

def openingFence? (line : List Char) : Option (List Char) :=
  match line with
  | [] => none
  | c :: _ =>
    let fence := line.takeWhile (· == c)
    if isFenceChar c && 3 ≤ fence.length then
      match dropFront? languageWord ((line.dropWhile (· == c)).dropWhile isPad) with
      | some rest => if rest.all isPad then some fence else none
      | none => none
    else none

def closesFence (fence line : List Char) : Bool :=
  match dropFront? fence line with
  | some rest => rest.all isPad
  | none => false

/-! ## Blocks -/

/-- The text of a block: its lines, without the empty ones at the end. -/
def fencedSource (body : List DocumentLine) : String :=
  String.ofList
    ((body.flatMap fun line => line.text ++ ['\n']).reverse.dropWhile (· == '\n')).reverse

/-- The block between an opening line and a closing line. -/
def fencedPassage (opening closing : DocumentLine) (body : List DocumentLine) : Passage :=
  ⟨opening.offset, closing.offset + closing.text.length,
    ⟨.fenced, fencedSource body, opening.number + 1⟩⟩

/-- The fenced blocks of lines.  The first `skip` lines belong to a block that was found before. -/
def fencedFrom : (skip : Nat) → List DocumentLine → List Passage
  | _, [] => []
  | skip + 1, _ :: rest => fencedFrom skip rest
  | 0, line :: rest =>
    match openingFence? line.text with
    | none => fencedFrom 0 rest
    | some fence =>
      match rest.span fun other => !closesFence fence other.text with
      | (_, []) => fencedFrom 0 rest
      | (body, closing :: _) =>
        fencedPassage line closing body :: fencedFrom (body.length + 1) rest

/-- The fenced blocks of a document, in order. -/
def fencedPassages (cs : List Char) : List Passage := fencedFrom 0 (documentLines cs)

end Chronicle.Document
