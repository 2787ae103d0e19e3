/-!
# Decimal numbers as text

An integer has its decimal digits, the fewest that write it, with a minus sign in front of a negative one.  A width
asks for leading zeros, and the minus sign counts towards it.

Conversions between numbers and strings go up to `digitLimit` digits.  An integer with more digits is not `Writable`:
`showInt?` has no string for it, and a message that should hold it is not made.
-/

namespace Chronicle.Text

/-! ## Digits -/

/-- A natural number in decimal digits. -/
def natText (n : Nat) : List Char := Nat.toDigits 10 n

/-- A natural number in at least `width` decimal digits. -/
def paddedNat (width n : Nat) : List Char :=
  List.replicate (width - (natText n).length) '0' ++ natText n

/-- An integer in decimal digits. -/
def intText (n : Int) : List Char :=
  if n < 0 then '-' :: natText n.natAbs else natText n.natAbs

/-- An integer in at least `width` characters, filled up with zeros behind the sign. -/
def paddedInt (width : Nat) (n : Int) : List Char :=
  if n < 0 then '-' :: paddedNat (width - 1) n.natAbs else paddedNat width n.natAbs

/-- The number that a run of decimal digits writes. -/
def digitsValue (cs : List Char) : Nat := Nat.ofDigitChars 10 cs 0

theorem digitsValue_natText (n : Nat) : digitsValue (natText n) = n :=
  Nat.ofDigitChars_toDigits (by decide) (by decide)

/-! ## Strings -/

/-- The most digits that a number is converted with, from a string or to one. -/
def digitLimit : Nat := 4300

/-- An integer with no more digits than are converted. -/
def Writable (n : Int) : Prop := (natText n.natAbs).length ≤ digitLimit

instance (n : Int) : Decidable (Writable n) := by unfold Writable; infer_instance

/-- The digits of an integer as a string, however many they are. -/
def numeral (n : Int) : String := String.ofList (intText n)

/-- An integer as a string, if it can be written. -/
def showInt? (n : Int) : Option String := if Writable n then some (numeral n) else none

/-- A natural number as a string.  It is one that counts something, and has few digits. -/
def showNat (n : Nat) : String := String.ofList (natText n)

/-- The digits of an integer as a string of at least `width` characters. -/
def paddedNumeral (width : Nat) (n : Int) : String := String.ofList (paddedInt width n)

@[simp] theorem toList_numeral (n : Int) : (numeral n).toList = intText n := by simp [numeral]

@[simp] theorem toList_showNat (n : Nat) : (showNat n).toList = natText n := by simp [showNat]

@[simp] theorem toList_paddedNumeral (width : Nat) (n : Int) :
    (paddedNumeral width n).toList = paddedInt width n := by simp [paddedNumeral]

theorem showInt?_of_writable {n : Int} (h : Writable n) : showInt? n = some (numeral n) := if_pos h

theorem showInt?_of_not_writable {n : Int} (h : ¬Writable n) : showInt? n = none := if_neg h

end Chronicle.Text
