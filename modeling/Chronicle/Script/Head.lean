import Chronicle.Text.Blank
import Chronicle.Text.Word

/-!
# Tags and lanes around the content

The content of an entity can have *tokens* at both ends: tags such as `#red`, which name its color, and
lanes such as `{Europe}`.  A tag is a run of word characters and hyphens, and stands apart from the
content by a blank.  A lane needs no blank.

`splitHead` takes tokens off the front as long as there are any, then off the end.  The first tag and the
first lane that is not blank count, where those at the front come before those at the end, and those at
the end are read from the outside in.
-/

namespace Chronicle.Script

open Chronicle.Text

/-! ## Tokens -/

/-- A token at an end of the content. -/
inductive HeadToken where
  | tag (name : List Char)
  | lane (label : List Char)
  deriving DecidableEq, Repr

def isTagChar (c : Char) : Bool := isWord c || c == '-'

/-- Whether a character can be in the name of a lane. -/
def isLabelChar (c : Char) : Bool := c != '\x7b' && c != '\x7d'

/-- Whether a text is empty or starts with a blank. -/
def startsBlank : List Char → Bool
  | [] => true
  | c :: _ => isBlank c

/-- The token that a text starts with, and the text after it and the blanks that follow. -/
def leadingToken? : List Char → Option (HeadToken × List Char)
  | [] => none
  | c :: rest =>
    if c = '#' then
      let name := rest.takeWhile isTagChar
      let after := rest.dropWhile isTagChar
      if !name.isEmpty && startsBlank after then some (.tag name, trimStart after) else none
    else if c = '\x7b' then
      match rest.dropWhile isLabelChar with
      | '\x7d' :: after => some (.lane (rest.takeWhile isLabelChar), trimStart after)
      | _ => none
    else none

/-- The token that a text ends with, and the text before it and the blanks that precede.  Both texts are
written backwards. -/
def trailingToken? (reversed : List Char) : Option (HeadToken × List Char) :=
  match reversed with
  | '\x7d' :: rest =>
    match rest.dropWhile isLabelChar with
    | '\x7b' :: before => some (.lane (rest.takeWhile isLabelChar).reverse, trimStart before)
    | _ => none
  | _ =>
    let name := reversed.takeWhile isTagChar
    match reversed.dropWhile isTagChar with
    | '#' :: before =>
      if !name.isEmpty && startsBlank before then some (.tag name.reverse, trimStart before)
      else none
    | _ => none

/-! ## Taking tokens off -/

/-- A text gets shorter when a token is taken off its front. -/
theorem length_lt_of_leadingToken? {cs rest : List Char} {token : HeadToken}
    (h : leadingToken? cs = some (token, rest)) : rest.length < cs.length := by
  cases cs with
  | nil => simp [leadingToken?] at h
  | cons c tail =>
    simp only [leadingToken?] at h
    split at h
    · split at h
      · simp only [Option.some.injEq, Prod.mk.injEq] at h
        rw [← h.2]
        have h₁ := (List.dropWhile_suffix isBlank (l := tail.dropWhile isTagChar)).length_le
        have h₂ := (List.dropWhile_suffix isTagChar (l := tail)).length_le
        simp only [trimStart, List.length_cons]
        omega
      · simp at h
    · split at h
      · split at h
        · next after heq =>
          simp only [Option.some.injEq, Prod.mk.injEq] at h
          rw [← h.2]
          have h₁ := (List.dropWhile_suffix isBlank (l := after)).length_le
          have h₂ := (List.dropWhile_suffix isLabelChar (l := tail)).length_le
          rw [heq] at h₂
          simp only [trimStart, List.length_cons] at h₂ ⊢
          omega
        · simp at h
      · simp at h

/-- A text gets shorter when a token is taken off its end. -/
theorem length_lt_of_trailingToken? {reversed rest : List Char} {token : HeadToken}
    (h : trailingToken? reversed = some (token, rest)) : rest.length < reversed.length := by
  unfold trailingToken? at h
  split at h
  · next tail =>
    split at h
    · next before heq =>
      simp only [Option.some.injEq, Prod.mk.injEq] at h
      rw [← h.2]
      have h₁ := (List.dropWhile_suffix isBlank (l := before)).length_le
      have h₂ := (List.dropWhile_suffix isLabelChar (l := tail)).length_le
      rw [heq] at h₂
      simp only [trimStart, List.length_cons] at h₂ ⊢
      omega
    · simp at h
  · split at h
    · next before heq =>
      dsimp only at h
      split at h
      · simp only [Option.some.injEq, Prod.mk.injEq] at h
        rw [← h.2]
        have h₁ := (List.dropWhile_suffix isBlank (l := before)).length_le
        have h₂ := (List.dropWhile_suffix isTagChar (l := reversed)).length_le
        rw [heq] at h₂
        simp only [trimStart, List.length_cons] at h₂ ⊢
        omega
      · simp at h
    · simp at h

/-- The tokens at the front of a text, and the text after them. -/
def peelFront (cs : List Char) : List HeadToken × List Char :=
  match _h : leadingToken? cs with
  | none => ([], cs)
  | some (token, rest) =>
    let (tokens, content) := peelFront rest
    (token :: tokens, content)
termination_by cs.length
decreasing_by exact length_lt_of_leadingToken? _h

/-- The tokens at the end of a text, last first, and the text before them.  The text is written
backwards. -/
def peelBack (reversed : List Char) : List HeadToken × List Char :=
  match _h : trailingToken? reversed with
  | none => ([], reversed)
  | some (token, rest) =>
    let (tokens, content) := peelBack rest
    (token :: tokens, content)
termination_by reversed.length
decreasing_by exact length_lt_of_trailingToken? _h

/-! ## The head of an entity -/

/-- What stands between the dates and the description of an entity. -/
structure Head where
  content : List Char
  color : Option (List Char)
  lane : Option (List Char)
  deriving DecidableEq, Repr

def HeadToken.tagName? : HeadToken → Option (List Char)
  | .tag name => some name
  | .lane _ => none

/-- The name of a lane without blanks around it, if it is not blank. -/
def HeadToken.laneLabel? : HeadToken → Option (List Char)
  | .tag _ => none
  | .lane label => if (trim label).isEmpty then none else some (trim label)

/-- Splits a text into its content and what its tokens say. -/
def splitHead (cs : List Char) : Head :=
  let (front, afterFront) := peelFront (trim cs)
  let (back, reversed) := peelBack afterFront.reverse
  let tokens := front ++ back
  ⟨trim reversed.reverse, tokens.findSome? HeadToken.tagName?,
    tokens.findSome? HeadToken.laneLabel?⟩

end Chronicle.Script
