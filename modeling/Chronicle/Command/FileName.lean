import Chronicle.Text.Case
import Chronicle.Text.Cut

/-!
# File names

The name of a file is the last part of its path.  Its suffix starts at the last point of the name, unless
that point is the first or the last character.
-/

namespace Chronicle.Command

open Chronicle.Text

def fileName (path : String) : String :=
  let parts := (splitAll ['/'] path.toList).filter fun part => part != [] && part != ['.']
  String.ofList (parts.getLast?.getD [])

/-- The suffix of a file name, with its point. -/
def suffix (name : String) : String :=
  let cs := name.toList
  let ending := (cs.reverse.takeWhile (· != '.')).reverse
  if ending.isEmpty || cs.length ≤ ending.length + 1 then "" else String.ofList ('.' :: ending)

/-- The suffixes of Markdown files, in lower case. -/
def markdownSuffixes : List String := [".md", ".markdown"]

/-- Whether the file at a path is a Markdown file. -/
def isMarkdown (path : String) : Bool :=
  markdownSuffixes.contains (String.ofList (lower (suffix (fileName path)).toList))

end Chronicle.Command
