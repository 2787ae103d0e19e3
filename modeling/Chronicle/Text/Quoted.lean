import Chronicle.Text.Printable

/-!
# Quoted text

A text inside a message stands between quotes, on one line and in printable characters only.  Single
quotes are used, unless the text holds a single quote and no double one.  The backslash and the
quote in use get a backslash, tabs and line breaks are named, and any other character that is not
printable becomes its code point in hexadecimal digits, two, four or eight of them, the fewest that
hold it.
-/

namespace Chronicle.Text

/-- A code point in lower-case hexadecimal digits, filled up with zeros to a width. -/
def hexDigits : (width : Nat) → (n : Nat) → List Char
  | 0, _ => []
  | w + 1, n => hexDigits w (n / 16) ++ [Nat.digitChar (n % 16)]

def escaped (quote c : Char) : List Char :=
  if c = quote ∨ c = '\\' then ['\\', c]
  else if c = '\t' then ['\\', 't']
  else if c = '\n' then ['\\', 'n']
  else if c = '\r' then ['\\', 'r']
  else if isPrintable c then [c]
  else if c.toNat < 0x100 then '\\' :: 'x' :: hexDigits 2 c.toNat
  else if c.toNat < 0x10000 then '\\' :: 'u' :: hexDigits 4 c.toNat
  else '\\' :: 'U' :: hexDigits 8 c.toNat

/-- The quote that a text is put between. -/
def quoteFor (cs : List Char) : Char :=
  if cs.contains '\x27' && !cs.contains '\x22' then '\x22' else '\x27'

/-- A text between quotes. -/
def quoted (cs : List Char) : List Char :=
  quoteFor cs :: (cs.flatMap (escaped (quoteFor cs)) ++ [quoteFor cs])

def quote (s : String) : String := String.ofList (quoted s.toList)

@[simp] theorem toList_quote (s : String) : (quote s).toList = quoted s.toList := by
  simp [quote]

end Chronicle.Text
