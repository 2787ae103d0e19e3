/-!
# Sorted texts

Lists of texts in code point order and without repetition.
-/

namespace Chronicle.Text

/-- Puts a text into its place in a sorted list.  A text that is there already is not repeated. -/
def insertSorted (s : String) : List String → List String
  | [] => [s]
  | first :: rest =>
    if s = first then first :: rest
    else if s < first then s :: first :: rest
    else first :: insertSorted s rest

/-- The texts of a list in code point order, each once. -/
def sortedTexts (texts : List String) : List String := texts.foldr insertSorted []

end Chronicle.Text
