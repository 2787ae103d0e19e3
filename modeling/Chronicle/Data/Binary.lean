/-!
# Binary numbers

A number with a decimal point stands for the number with 53 binary digits that is nearest to it.  Of two
that are equally near, it is the one with the even last digit.  The exponent is not below -1074, so a
number that is nearer to zero than to the least of these is zero.

`Binary.ofDecimal` rounds, and `Binary.whole?` tells whether what it rounds to is an integer.
-/

namespace Chronicle.Data

/-- The number `mantissa * 2 ^ exponent`. -/
structure Binary where
  mantissa : Int
  /-- The power of two that the digits count. -/
  exponent : Int
  deriving DecidableEq, Repr

/-- The quotient rounded to the nearest integer, and to the even one when two are equally near. -/
def roundedQuotient (a b : Nat) : Nat :=
  let quotient := a / b
  let twice := 2 * (a % b)
  if twice < b ∨ (twice = b ∧ quotient % 2 = 0) then quotient else quotient + 1

/-- The rounded quotient is off by at most one half. -/
theorem roundedQuotient_near {a b : Nat} (hb : 0 < b) :
    2 * a ≤ 2 * (roundedQuotient a b * b) + b ∧ 2 * (roundedQuotient a b * b) ≤ 2 * a + b := by
  have hsplit : a / b * b + a % b = a := by rw [Nat.mul_comm]; exact Nat.div_add_mod a b
  have hrest : a % b < b := Nat.mod_lt a hb
  simp only [roundedQuotient]
  split
  · omega
  · rw [Nat.add_mul]
    omega

/-- The exponent of the greatest power of two that is at most a quotient. -/
def quotientLog (a b : Nat) : Int :=
  let guess : Int := (a.log2 : Int) - b.log2
  let reached : Bool :=
    if guess < 0 then decide (b ≤ a * Nat.pow 2 guess.natAbs)
    else decide (b * Nat.pow 2 guess.toNat ≤ a)
  if reached then guess else guess - 1

namespace Binary

/-- The number nearest to `a / b`, where `b` is not zero. -/
def ofQuotient (a b : Nat) : Binary :=
  let exponent := max (-1074) (quotientLog a b - 52)
  if exponent < 0 then ⟨roundedQuotient (a * Nat.pow 2 exponent.natAbs) b, exponent⟩
  else ⟨roundedQuotient a (b * Nat.pow 2 exponent.toNat), exponent⟩

/-- The number nearest to a decimal number with some digits behind its point. -/
def ofDecimal (mantissa : Int) (places : Nat) : Binary :=
  let size := ofQuotient mantissa.natAbs (Nat.pow 10 places)
  if mantissa < 0 then ⟨-size.mantissa, size.exponent⟩ else size

/-- The integer that the number is, if it is one. -/
def whole? (x : Binary) : Option Int :=
  if x.exponent < 0 then
    let unit : Int := Nat.pow 2 x.exponent.natAbs
    if x.mantissa % unit = 0 then some (x.mantissa / unit) else none
  else some (x.mantissa * Nat.pow 2 x.exponent.toNat)

end Binary

end Chronicle.Data
