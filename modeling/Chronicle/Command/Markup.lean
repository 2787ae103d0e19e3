import Chronicle.Text.Cut

/-!
# Console markup

The console reads tags in brackets, such as `[bold]`.  `escapeMarkup` writes a text so that it shows as it
is.  Only brackets that would be read as a tag are escaped, each with a backslash, and the backslashes in
front of one are doubled.  A text may not end in a single backslash, since it could escape what follows.
-/

namespace Chronicle.Command

/-- Whether a character can be the first one in a tag. -/
def startsTag (c : Char) : Bool := ('a' ≤ c && c ≤ 'z') || c == '#' || c == '/' || c == '@'

/-- Whether a text, behind an opening bracket, goes on as a tag. -/
def isTagBody : List Char → Bool
  | [] => false
  | c :: rest =>
    startsTag c &&
      match rest.dropWhile fun c => c != '[' && c != ']' with
      | ']' :: _ => true
      | _ => false

/-- Escapes the tags of a text that has some backslashes in front. -/
def escapeTags (slashes : Nat) : List Char → List Char
  | [] => List.replicate slashes '\\'
  | c :: rest =>
    if c = '\\' then escapeTags (slashes + 1) rest
    else if c = '[' ∧ isTagBody rest then
      List.replicate (2 * slashes + 1) '\\' ++ c :: escapeTags 0 rest
    else List.replicate slashes '\\' ++ c :: escapeTags 0 rest

/-- Doubles a single backslash at the end of a text. -/
def closeBackslash (cs : List Char) : List Char :=
  match cs.reverse with
  | ['\\'] => cs ++ ['\\']
  | '\\' :: c :: _ => if c = '\\' then cs else cs ++ ['\\']
  | _ => cs

/-- A text in markup that shows it as it is. -/
def escapeMarkup (s : String) : String :=
  String.ofList (closeBackslash (escapeTags 0 s.toList))

end Chronicle.Command
