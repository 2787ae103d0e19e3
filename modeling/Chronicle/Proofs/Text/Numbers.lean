import Chronicle.Proofs.Text.Decimal

/-!
# Numbers in a text

`numbersIn` reads the integers that stand in a text, from left to right, and passes over all else.  A hyphen is the
sign of the digits behind it, unless it stands right behind other digits: `1-20` holds 1 and 20, and `3 - -2` holds
3 and -2.

An integer that was written is read back, if no further digit comes behind it (`numbersIn_intText_append`).  A
character that is no digit and no hyphen divides a text into parts that are read on their own
(`numbersIn_append_mark`).
-/

namespace Chronicle.Text

/-- The integer whose sign and digits are read. -/
def signed (negative : Bool) (size : Nat) : Int := if negative then -size else size

/-- The integers from a place in a text on.  Inside a number `size` is what its digits so far write, and `negative`
tells whether a sign stands before the digits that come next or came last. -/
def numbersFrom : (negative : Bool) → (size : Option Nat) → List Char → List Int
  | negative, size, [] => size.toList.map (signed negative)
  | negative, size, c :: rest =>
    if c.isDigit then numbersFrom negative (some (Nat.ofDigitChars 10 [c] (size.getD 0))) rest
    else size.toList.map (signed negative) ++ numbersFrom (c == '-' && size.isNone) none rest

/-- The integers that stand in a text. -/
def numbersIn (cs : List Char) : List Int := numbersFrom false none cs

/-- A character that is no part of a number and no sign. -/
def IsMark (c : Char) : Prop := c.isDigit = false ∧ c ≠ '-'

instance (c : Char) : Decidable (IsMark c) := by unfold IsMark; infer_instance

variable {negative : Bool} {size : Option Nat} {cs rest : List Char} {c : Char}

/-! ## Parts of a text -/

theorem numbersFrom_append_mark (h : IsMark c) :
    numbersFrom negative size (cs ++ c :: rest) = numbersFrom negative size cs ++ numbersIn rest := by
  induction cs generalizing negative size with
  | nil => simp [numbersFrom, numbersIn, h.1, beq_eq_false_iff_ne.mpr h.2]
  | cons d cs ih =>
    rw [List.cons_append, numbersFrom, numbersFrom]
    split
    · exact ih
    · rw [ih, List.append_assoc]

theorem numbersIn_append_mark (h : IsMark c) : numbersIn (cs ++ c :: rest) = numbersIn cs ++ numbersIn rest :=
  numbersFrom_append_mark h

@[simp] theorem numbersIn_nil : numbersIn [] = [] := rfl

theorem numbersIn_cons_mark (h : IsMark c) : numbersIn (c :: rest) = numbersIn rest :=
  @numbersIn_append_mark [] rest c h

theorem numbersIn_append_of_marks (h : ∀ c ∈ cs, IsMark c) : numbersIn (cs ++ rest) = numbersIn rest := by
  induction cs with
  | nil => rfl
  | cons c cs ih =>
    obtain ⟨hc, hcs⟩ := List.forall_mem_cons.mp h
    rw [List.cons_append, numbersIn_cons_mark hc, ih hcs]

/-! ## Numbers that were written -/

theorem numbersFrom_digits {n : Nat} (h : ∀ c ∈ cs, c.isDigit = true) :
    numbersFrom negative (some n) (cs ++ rest) =
      numbersFrom negative (some (Nat.ofDigitChars 10 cs n)) rest := by
  induction cs generalizing n with
  | nil => rfl
  | cons c cs ih =>
    obtain ⟨hc, hcs⟩ := List.forall_mem_cons.mp h
    rw [List.cons_append, numbersFrom, if_pos hc, ih hcs]
    rfl

theorem numbersFrom_natText (n : Nat) :
    numbersFrom negative none (natText n ++ rest) = numbersFrom negative (some n) rest := by
  have hdigits : ∀ c ∈ natText n, c.isDigit = true := fun c => isDigit_of_mem_natText
  cases htext : natText n with
  | nil => exact absurd htext (Nat.toDigits_ne_nil)
  | cons c cs =>
    rw [htext] at hdigits
    obtain ⟨hc, hcs⟩ := List.forall_mem_cons.mp hdigits
    have hvalue : Nat.ofDigitChars 10 cs (Nat.ofDigitChars 10 [c] 0) = n := by
      rw [← digitsValue_natText n, htext]
      rfl
    rw [List.cons_append, numbersFrom, if_pos hc, numbersFrom_digits hcs, Option.getD_none, hvalue]

theorem isAlpha_of_isDigit (h : c.isDigit = true) : c.isAlpha = false := by
  have hbounds := Char.isDigit_iff_toNat.mp h
  delta Char.isAlpha Char.isUpper Char.isLower
  simp [UInt32.le_iff_toNat_le] at *
  omega

/-- A number that was written has no letters. -/
@[simp] theorem filter_isAlpha_intText (n : Int) : (intText n).filter Char.isAlpha = [] := by
  have hdigits : ∀ c ∈ natText n.natAbs, ¬c.isAlpha = true := fun c hc =>
    Bool.eq_false_iff.mp (isAlpha_of_isDigit (isDigit_of_mem_natText hc))
  rw [List.filter_eq_nil_iff, intText]
  split
  · exact List.forall_mem_cons.mpr ⟨by decide, hdigits⟩
  · exact hdigits

/-- An integer is read up to its last digit. -/
theorem numbersIn_intText_eq (n : Int) :
    numbersIn (intText n ++ rest) = numbersFrom (decide (n < 0)) (some n.natAbs) rest := by
  rw [numbersIn, intText]
  split
  · next hneg =>
    rw [List.cons_append, numbersFrom, decide_eq_true hneg]
    exact numbersFrom_natText n.natAbs
  · next hneg =>
    rw [decide_eq_false hneg]
    exact numbersFrom_natText n.natAbs

theorem signed_natAbs (n : Int) : signed (decide (n < 0)) n.natAbs = n := by
  simp only [signed, decide_eq_true_iff]
  split <;> omega

@[simp] theorem numbersIn_intText (n : Int) : numbersIn (intText n) = [n] := by
  have hread := @numbersIn_intText_eq [] n
  rw [List.append_nil] at hread
  rw [hread, numbersFrom, Option.toList_some, List.map_singleton, signed_natAbs]

/-- Any other character ends a number, also a hyphen, which is no sign there. -/
theorem numbersIn_intText_append (n : Int) (h : c.isDigit = false) :
    numbersIn (intText n ++ c :: rest) = n :: numbersIn rest := by
  rw [numbersIn_intText_eq, numbersFrom, if_neg (Bool.eq_false_iff.mp h), Option.toList_some, List.map_singleton,
    signed_natAbs, Option.isNone_some, Bool.and_false]
  rfl

end Chronicle.Text
