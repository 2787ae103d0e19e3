import Chronicle.Text.Blank
import Chronicle.Text.Cut

/-!
# Links

A description can hold links of two forms.  A *wiki link* is a name in double brackets, with no bracket
in the name.  A *web link* starts with `http://` or `https://` and runs on to the next blank.
`firstLink?` finds the link that starts furthest to the left.
-/

namespace Chronicle.Script

open Chronicle.Text

/-- Whether a character can be in the name of a wiki link. -/
def isLinkNameChar (c : Char) : Bool := c != '[' && c != ']'

/-- The wiki link that a text starts with. -/
def wikiLink? : List Char → Option (List Char)
  | '[' :: '[' :: rest =>
    let name := rest.takeWhile isLinkNameChar
    match rest.dropWhile isLinkNameChar with
    | ']' :: ']' :: _ => if name.isEmpty then none else some ('[' :: '[' :: name ++ [']', ']'])
    | _ => none
  | _ => none

/-- The web link with a given front that a text starts with. -/
def webLinkWith? (front cs : List Char) : Option (List Char) :=
  match dropFront? front cs with
  | none => none
  | some rest =>
    let address := rest.takeWhile fun c => !isBlank c
    if address.isEmpty then none else some (front ++ address)

/-- The web link that a text starts with. -/
def webLink? (cs : List Char) : Option (List Char) :=
  (webLinkWith? "http://".toList cs).or (webLinkWith? "https://".toList cs)

/-- The link that a text starts with. -/
def linkAt? (cs : List Char) : Option (List Char) := (wikiLink? cs).or (webLink? cs)

/-- The link of a text that starts furthest to the left. -/
def firstLink? : List Char → Option (List Char)
  | [] => none
  | c :: rest => (linkAt? (c :: rest)).or (firstLink? rest)

end Chronicle.Script
