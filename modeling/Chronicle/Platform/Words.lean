import Chronicle.Command.Run

/-!
# The words of a command line

The first word names a command, the others are its arguments and options in any order.  A word of two or
more characters that starts with a hyphen is an option.  The locale takes a value, which may follow as a
word of its own, behind an equals sign, or right behind the short option.  After `--` every word is an
argument.

`requestOfWords?` has no answer for words that do not make up a command.
-/

namespace Chronicle.Platform

open Chronicle.Command

/-- Words sorted into arguments and options. -/
structure Words where
  arguments : List String := []
  /-- The locale given last. -/
  locale : Option String := none
  switches : List String := []
  deriving DecidableEq, Repr

structure OptionSet where
  locale : Bool := false
  switches : List String := []
  deriving DecidableEq, Repr

def isOption (word : String) : Bool :=
  match word.toList with
  | '-' :: _ :: _ => true
  | _ => false

/-- The value of a locale that stands in one word with its option. -/
def attachedLocale? (word : String) : Option String :=
  match word.toList with
  | '-' :: 'l' :: value => some (String.ofList value)
  | cs =>
    if "--locale=".toList.isPrefixOf cs then some (String.ofList (cs.drop "--locale=".length))
    else none

/-- Sorts words into arguments and options. -/
def Words.read? (options : OptionSet) (words : Words) : List String → Option Words
  | [] => some words
  | word :: rest =>
    if word = "--" then some { words with arguments := words.arguments ++ rest }
    else if !isOption word then
      read? options { words with arguments := words.arguments ++ [word] } rest
    else if options.switches.contains word then
      read? options { words with switches := word :: words.switches } rest
    else if !options.locale then none
    else if word = "-l" ∨ word = "--locale" then
      match rest with
      | [] => none
      | value :: rest => read? options { words with locale := some value } rest
    else
      match attachedLocale? word with
      | some value => read? options { words with locale := some value } rest
      | none => none

def requestOf? (command : String) (rest : List String) : Option Request :=
  match command with
  | "parse" => do
    let words ← Words.read? ⟨true, ["--json", "--round-ranges"]⟩ {} rest
    match words.arguments with
    | [file] =>
      some (.compile file words.locale (words.switches.contains "--json")
        (words.switches.contains "--round-ranges"))
    | _ => none
  | "normalize" => do
    let words ← Words.read? {} {} rest
    match words.arguments with
    | [date] => some (.normalize date)
    | _ => none
  | "format" => do
    let words ← Words.read? ⟨true, []⟩ {} rest
    match words.arguments with
    | [start] => some (.format start none words.locale)
    | [start, stop] => some (.format start (some stop) words.locale)
    | _ => none
  | "locales" => do
    let words ← Words.read? {} {} rest
    if words.arguments.isEmpty then some .locales else none
  | "cheatsheet" => do
    let words ← Words.read? {} {} rest
    if words.arguments.isEmpty then some .cheatSheet else none
  | _ => none

/-- What the words of a command line ask for. -/
def requestOfWords? : List String → Option Request
  | "--" :: command :: rest => requestOf? command rest
  | command :: rest => requestOf? command rest
  | [] => none

end Chronicle.Platform
