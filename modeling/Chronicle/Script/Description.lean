import Chronicle.Text.Cut

/-!
# Where the description starts

The text after the dates is cut at the first separator, and what follows is the description.  The
separator may also occur inside a link, as in `[[Note|Alias]]`, and is passed over there.  For this
purpose a *link span* is a text from `[[` to the next `]]`, whatever stands between.

The text is read from left to right.  Where a link span starts, the reading goes on behind it.
-/

namespace Chronicle.Script

open Chronicle.Text

/-- The link span that a text starts with. -/
def linkSpan? : List Char → Option (List Char)
  | '[' :: '[' :: rest =>
    (cutAt? [']', ']'] rest).map fun (inner, _) => '[' :: '[' :: inner ++ [']', ']']
  | _ => none

/-- The text that a cut may fall on here: a link span, or else the separator. -/
def pieceAt? (separator cs : List Char) : Option (List Char) :=
  (linkSpan? cs).or (if separator.isPrefixOf cs then some separator else none)

/-- Cuts at the first separator that is not inside a link span.  The first `skip` characters belong to
a link span and are passed over. -/
def cutDescriptionFrom? (separator : List Char) :
    (skip : Nat) → List Char → Option (List Char × List Char)
  | _, [] => if separator.isEmpty then some ([], []) else none
  | skip + 1, c :: rest =>
    (cutDescriptionFrom? separator skip rest).map fun (head, tail) => (c :: head, tail)
  | 0, c :: rest =>
    match pieceAt? separator (c :: rest) with
    | some piece =>
      if piece = separator then some ([], (c :: rest).drop separator.length)
      else (cutDescriptionFrom? separator (piece.length - 1) rest).map
        fun (head, tail) => (c :: head, tail)
    | none => (cutDescriptionFrom? separator 0 rest).map fun (head, tail) => (c :: head, tail)

/-- The text before the description, and the description if there is one. -/
def splitDescription (separator cs : List Char) : List Char × Option (List Char) :=
  match cutDescriptionFrom? separator 0 cs with
  | some (head, tail) => (head, some tail)
  | none => (cs, none)

end Chronicle.Script
