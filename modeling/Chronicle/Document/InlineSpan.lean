import Chronicle.Document.Block
import Chronicle.Text.Blank
import Chronicle.Text.Cut

/-!
# Inline blocks

An inline block is a span of code between single backticks that starts with the language word and at least
one blank.  The rest of the span is the script, without the blanks around it.  The script stays on one
line, but there may be line ends among the blanks before it.
-/

namespace Chronicle.Document

open Chronicle.Text

/-- What an inline block starts with. -/
def inlineOpening : List Char := '\x60' :: languageWord

/-- Whether a character can be in the script of an inline block. -/
def isInlineChar (c : Char) : Bool := c != '\x60' && c != '\n'

/-- Whether a text starts with a backtick. -/
def startsWithTick : List Char → Bool
  | [] => false
  | c :: _ => c == '\x60'

/-- Whether a span may consist of these blanks only: one of them divides it from the word, and another,
on the line of the closing backtick, is its script. -/
def blanksSuffice (blanks : List Char) : Bool :=
  2 ≤ blanks.length && blanks.getLast? != some '\n'

/-- The script of the inline block that a text starts with, and the length of the whole span. -/
def inlineAt? (cs : List Char) : Option (List Char × Nat) :=
  match dropFront? inlineOpening cs with
  | none => none
  | some rest =>
    let blanks := rest.takeWhile isBlank
    let body := (rest.dropWhile isBlank).takeWhile isInlineChar
    match (rest.dropWhile isBlank).dropWhile isInlineChar with
    | [] => none
    | closing :: after =>
      if closing == '\x60' && !startsWithTick after && !blanks.isEmpty &&
          (!body.isEmpty || blanksSuffice blanks) then
        some (trim body, inlineOpening.length + blanks.length + body.length + 1)
      else none

def lineAfter (line : Nat) (c : Char) : Nat := if c = '\n' then line + 1 else line

/-- The inline blocks of a text at a place in a document.  The first `skip` characters belong to a block
that was found before.  `afterTick` tells that a backtick stands before the text. -/
def inlineFrom (afterTick : Bool) (offset line : Nat) : (skip : Nat) → List Char → List Passage
  | _, [] => []
  | skip + 1, c :: rest => inlineFrom (c == '\x60') (offset + 1) (lineAfter line c) skip rest
  | 0, c :: rest =>
    match if afterTick then none else inlineAt? (c :: rest) with
    | none => inlineFrom (c == '\x60') (offset + 1) (lineAfter line c) 0 rest
    | some (script, length) =>
      ⟨offset, offset + length, ⟨.inline, String.ofList script, line⟩⟩ ::
        inlineFrom (c == '\x60') (offset + 1) (lineAfter line c) (length - 1) rest

/-- The inline blocks of a document, in order. -/
def inlinePassages (cs : List Char) : List Passage := inlineFrom false 0 1 0 cs

end Chronicle.Document
