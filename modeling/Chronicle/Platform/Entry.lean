import Chronicle.Text.Blank
import Chronicle.Text.Cut
import Chronicle.Text.Lines

/-!
# Entries of a settings file

An entry is a name, an equals sign and a value, with blanks around each of them and the word `export` in
front if need be.  It may end in a comment.

* A name is bare or in single quotes.  A name alone is an entry too.  It takes the value away.
* A value in quotes may go over several lines.  Between single quotes a backslash escapes a quote and a
  backslash, between double quotes some letters as well.
* A bare value goes to the end of its line, or to the first `#` that follows a blank.

What is no entry is passed over, up to the end of the line where reading stopped.  So a quote that is
never closed costs its own line only.
-/

namespace Chronicle.Platform

open Chronicle.Text

/-- A name in a settings file with the value that is set, if there is one. -/
structure Entry where
  name : String
  value : Option String
  deriving DecidableEq, Repr

/-! ## Lines and blanks -/

/-- Whether a character is blank and does not end a line. -/
def isInlineBlank (c : Char) : Bool := isBlank c && c != '\n'

/-- The text without the blanks that it starts with, up to the end of its line. -/
def skipInline (cs : List Char) : List Char := cs.dropWhile isInlineBlank

/-- The text behind its first line. -/
def afterLine (cs : List Char) : List Char := (cs.dropWhile (· != '\n')).drop 1

/-- Whether a line has nothing left but blanks and a comment. -/
def isLineDone (cs : List Char) : Bool :=
  match skipInline cs with
  | [] => true
  | c :: _ => c == '\n' || c == '#'

/-! ## Names -/

/-- The text without the word `export` and the blanks that have to follow it. -/
def skipExport (cs : List Char) : List Char :=
  match dropFront? "export".toList cs with
  | some (c :: rest) => if isInlineBlank c then skipInline rest else cs
  | _ => cs

/-- Whether a character can be part of a bare name. -/
def isNameChar (c : Char) : Bool := !isBlank c && c != '=' && c != '#'

/-- The name that a text starts with, and what follows it. -/
def readName? (cs : List Char) : Option (List Char × List Char) :=
  let (name, rest) : List Char × List Char :=
    match cs with
    | '\'' :: quoted =>
      match quoted.dropWhile (· != '\'') with
      | _ :: after => (quoted.takeWhile (· != '\''), after)
      | [] => ([], cs)
    | _ => (cs.takeWhile isNameChar, cs.dropWhile isNameChar)
  if name.isEmpty then none else some (name, rest)

/-! ## Values -/

/-- The text before the quote that closes it, and the text behind.  What follows a backslash does not
close. -/
def closeQuote? (quote : Char) : List Char → Option (List Char × List Char)
  | [] => none
  | '\\' :: c :: rest =>
    (closeQuote? quote rest).map fun (inner, after) => ('\\' :: c :: inner, after)
  | c :: rest =>
    if c = quote then some ([], rest)
    else (closeQuote? quote rest).map fun (inner, after) => (c :: inner, after)

/-- What a backslash escapes between single quotes. -/
def singleQuoteEscapes : List (Char × Char) := [('\\', '\\'), ('\'', '\'')]

/-- What a backslash escapes between double quotes. -/
def doubleQuoteEscapes : List (Char × Char) :=
  singleQuoteEscapes ++
    [('"', '"'), ('a', '\x07'), ('b', '\x08'), ('f', '\x0c'), ('n', '\n'), ('r', '\r'), ('t', '\t'),
      ('v', '\x0b')]

/-- The text with its escapes resolved.  A backslash that escapes nothing stays. -/
def unescape (escapes : List (Char × Char)) : List Char → List Char
  | [] => []
  | '\\' :: c :: rest =>
    match escapes.lookup c with
    | some d => d :: unescape escapes rest
    | none => '\\' :: unescape escapes (c :: rest)
  | c :: rest => c :: unescape escapes rest

/-- The text before the first `#` that follows a blank. -/
def beforeComment : List Char → List Char
  | [] => []
  | c :: '#' :: rest => if isBlank c then [] else c :: beforeComment ('#' :: rest)
  | c :: rest => c :: beforeComment rest

/-- The value behind an equals sign, and what follows it.  A blank in front of a bare value counts for the
comment that it may start, so a value can be empty in front of a comment. -/
def readValue? (cs : List Char) : Option (List Char × List Char) :=
  match skipInline cs with
  | '\'' :: quoted =>
    (closeQuote? '\'' quoted).map fun (inner, after) => (unescape singleQuoteEscapes inner, after)
  | '"' :: quoted =>
    (closeQuote? '"' quoted).map fun (inner, after) => (unescape doubleQuoteEscapes inner, after)
  | _ => some (trim (beforeComment (cs.takeWhile (· != '\n'))), cs.dropWhile (· != '\n'))

/-! ## Entries -/

/-- An entry, if its line is done behind it. -/
def entryBefore? (name : List Char) (value : Option (List Char)) (rest : List Char) : Option Entry :=
  if isLineDone rest then some ⟨String.ofList name, value.map String.ofList⟩ else none

/-- The entry that a text starts with, if there is one, and the text from where reading it stopped. -/
def readEntry (cs : List Char) : Option Entry × List Char :=
  let start := skipExport cs
  match readName? start with
  | none => (none, start)
  | some (name, afterName) =>
    match skipInline afterName with
    | '=' :: behind =>
      match readValue? behind with
      | none => (none, behind)
      | some (value, rest) => (entryBefore? name (some value) rest, rest)
    | rest => (entryBefore? name none rest, rest)

theorem length_skipInline_le (cs : List Char) : (skipInline cs).length ≤ cs.length :=
  (List.dropWhile_sublist _).length_le

theorem length_skipExport_le (cs : List Char) : (skipExport cs).length ≤ cs.length := by
  unfold skipExport
  split
  · next c rest h =>
    have hcs := dropFront?_eq_some_iff.mp h
    split
    · have hrest := length_skipInline_le rest
      simp only [hcs, List.length_append, List.length_cons]
      omega
    · exact Nat.le_refl _
  · exact Nat.le_refl _

theorem length_closeQuote?_le {quote : Char} {cs inner rest : List Char}
    (h : closeQuote? quote cs = some (inner, rest)) : rest.length ≤ cs.length := by
  fun_induction closeQuote? quote cs generalizing inner rest with grind [Option.map_eq_some_iff]

theorem length_readName?_le {cs name rest : List Char} (h : readName? cs = some (name, rest)) :
    rest.length ≤ cs.length := by
  unfold readName? at h
  split at h
  next front back hsplit =>
    have hback : back.length ≤ cs.length := by
      split at hsplit
      · next quoted =>
        split at hsplit
        · next after hafter =>
          obtain ⟨_, rfl⟩ := Prod.mk.inj hsplit
          have hlen := (List.dropWhile_sublist (l := quoted) (· != '\'')).length_le
          simp only [hafter, List.length_cons] at hlen ⊢
          omega
        · obtain ⟨_, rfl⟩ := Prod.mk.inj hsplit
          exact Nat.le_refl _
      · obtain ⟨_, rfl⟩ := Prod.mk.inj hsplit
        exact (List.dropWhile_sublist _).length_le
    split at h
    · simp at h
    · obtain ⟨_, rfl⟩ := Prod.mk.inj (Option.some.inj h)
      exact hback

theorem length_readValue?_le {cs value rest : List Char} (h : readValue? cs = some (value, rest)) :
    rest.length ≤ cs.length := by
  have hskip := length_skipInline_le cs
  unfold readValue? at h
  split at h
  · next quoted hquoted =>
    obtain ⟨⟨inner, after⟩, hclose, heq⟩ := Option.map_eq_some_iff.mp h
    obtain ⟨_, rfl⟩ := Prod.mk.inj heq
    rw [hquoted, List.length_cons] at hskip
    exact Nat.le_trans (length_closeQuote?_le hclose) (Nat.le_of_succ_le hskip)
  · next quoted hquoted =>
    obtain ⟨⟨inner, after⟩, hclose, heq⟩ := Option.map_eq_some_iff.mp h
    obtain ⟨_, rfl⟩ := Prod.mk.inj heq
    rw [hquoted, List.length_cons] at hskip
    exact Nat.le_trans (length_closeQuote?_le hclose) (Nat.le_of_succ_le hskip)
  · obtain ⟨_, rfl⟩ := Prod.mk.inj (Option.some.inj h)
    exact (List.dropWhile_sublist _).length_le

/-- Reading an entry only goes forward. -/
theorem length_readEntry_le (cs : List Char) : (readEntry cs).2.length ≤ cs.length := by
  have hstart := length_skipExport_le cs
  unfold readEntry
  simp only
  split
  · exact hstart
  · next name afterName hname =>
    have hafter := Nat.le_trans (length_readName?_le hname) hstart
    have hskip := Nat.le_trans (length_skipInline_le afterName) hafter
    split
    · next behind hbehind =>
      rw [hbehind, List.length_cons] at hskip
      have hlen := Nat.le_of_succ_le hskip
      split
      · exact hlen
      · next value rest hvalue => exact Nat.le_trans (length_readValue?_le hvalue) hlen
    · exact hskip

theorem length_afterLine_lt {cs : List Char} (h : cs ≠ []) : (afterLine cs).length < cs.length := by
  have hlen := (List.dropWhile_sublist (l := cs) (· != '\n')).length_le
  have hpos := List.length_pos_iff.mpr h
  simp only [afterLine, List.length_drop]
  omega

/-- The entries of a text whose lines end in line feeds. -/
def readEntries (cs : List Char) : List Entry :=
  match cs with
  | [] => []
  | c :: rest =>
    if isBlank c then readEntries rest
    else (readEntry (c :: rest)).1.toList ++ readEntries (afterLine (readEntry (c :: rest)).2)
termination_by cs.length
decreasing_by
  · simp
  · have hread := length_readEntry_le (c :: rest)
    by_cases hnil : (readEntry (c :: rest)).2 = []
    · simp [hnil, afterLine]
    · exact Nat.lt_of_lt_of_le (length_afterLine_lt hnil) hread

end Chronicle.Platform
