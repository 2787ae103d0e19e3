import Chronicle.Text.PrintableSpans

/-!
# Printable characters

A printable character can be shown as it is.  Controls, format characters, surrogates, private use,
unassigned code points, and the separators other than the plain space are not printable.
-/

namespace Chronicle.Text

/-- Whether a character can be shown as it is. -/
def isPrintable (c : Char) : Bool :=
  if c.toNat < 0x80 then 0x20 ≤ c.toNat && c.toNat < 0x7f else inSpans printableSpans c

/-- In ASCII the printable characters are those from the space to the tilde. -/
theorem isPrintable_of_ascii {c : Char} (lo : 0x20 ≤ c.toNat) (hi : c.toNat < 0x7f) :
    isPrintable c = true := by
  have : c.toNat < 0x80 := by omega
  simp [isPrintable, this, lo, hi]

end Chronicle.Text
