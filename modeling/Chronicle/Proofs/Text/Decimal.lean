import Chronicle.Text.Decimal
import Mathlib.Data.List.Induction
import Mathlib.Data.Nat.Digits.Defs

/-!
# Decimal digits and what they write

Padding puts zeros in front of a number and nothing else.  So a padded number consists of digits, they write
the same number (`digitsValue_paddedNat`), and there are as many of them as the width asks for or the number
needs (`length_paddedNat`).  In the other direction, digits write a number that is bounded by how many they
are (`digitsValue_lt`).

An integer can be written exactly when it is smaller in size than the first number with too many digits
(`writable_iff`).
-/

namespace Chronicle.Text

/-! ## Digits of a number -/

theorem isDigit_of_mem_natText {n : Nat} {c : Char} (h : c ∈ natText n) : c.isDigit = true :=
  Nat.isDigit_of_mem_toDigits (by decide) (by decide) h

theorem isDigit_of_mem_paddedNat {width n : Nat} {c : Char} (h : c ∈ paddedNat width n) :
    c.isDigit = true := by
  rcases List.mem_append.mp h with hzero | hdigit
  · rw [List.eq_of_mem_replicate hzero]
    decide
  · exact isDigit_of_mem_natText hdigit

theorem length_paddedNat (width n : Nat) :
    (paddedNat width n).length = max width (natText n).length := by
  rw [paddedNat, List.length_append, List.length_replicate]
  omega

/-- A number takes up no more room than a width when it has no more digits. -/
theorem length_paddedNat_le_iff {width n most : Nat} (hwidth : width ≤ most) (hpos : 0 < most) :
    (paddedNat width n).length ≤ most ↔ n < 10 ^ most := by
  rw [length_paddedNat, max_le_iff, natText, Nat.length_toDigits_le_iff (by decide) hpos]
  exact and_iff_right hwidth

/-! ## Integers that can be written -/

theorem numeral_eq_toString (n : Int) : numeral n = toString n := by
  cases n with
  | ofNat m => rfl
  | negSucc m =>
    have htext : (toString (Int.negSucc m)).toList = "-".toList ++ (Nat.repr (m + 1)).toList := String.toList_append
    rw [← String.toList_inj, toList_numeral, htext, Nat.repr]
    simp [intText, natText]

theorem eq_numeral_of_showInt? {n : Int} {text : String} (h : showInt? n = some text) : text = numeral n := by
  rw [showInt?] at h
  split at h
  · exact (Option.some.inj h).symm
  · cases h

theorem isSome_showInt?_iff {n : Int} : (showInt? n).isSome = true ↔ Writable n := by
  rw [showInt?]
  split
  · next h => simp [h]
  · next h => simp [h]

theorem writable_iff {n : Int} : Writable n ↔ n.natAbs < 10 ^ digitLimit := by
  rw [Writable, natText, Nat.length_toDigits_le_iff (by decide) (by decide)]

/-- A number with nine digits can be written. -/
theorem writable_of_natAbs_le {n : Int} (h : n.natAbs ≤ 999999999) : Writable n := by
  have hpow : 10 ^ 9 ≤ 10 ^ digitLimit := Nat.pow_le_pow_right (by decide) (by decide)
  exact writable_iff.mpr (Nat.lt_of_lt_of_le (Nat.lt_succ_of_le h) hpow)

theorem not_writable_iff {n : Int} : ¬Writable n ↔ 10 ^ digitLimit ≤ n.natAbs := by
  rw [writable_iff, Nat.not_lt]

/-- The smallest number that cannot be written. -/
theorem not_writable_pow : ¬Writable (10 ^ digitLimit) := by
  have hten : (10 : Int).natAbs = 10 := rfl
  rw [not_writable_iff, Int.natAbs_pow, hten]

/-! ## Values of digits -/

theorem digitsValue_replicate_zero_append (zeros : Nat) (cs : List Char) :
    digitsValue (List.replicate zeros '0' ++ cs) = digitsValue cs := by
  induction zeros with
  | zero => rfl
  | succ zeros ih =>
    rw [List.replicate_succ, List.cons_append, digitsValue, Nat.ofDigitChars_cons]
    exact ih

@[simp] theorem digitsValue_paddedNat (width n : Nat) : digitsValue (paddedNat width n) = n := by
  rw [paddedNat, digitsValue_replicate_zero_append, digitsValue_natText]

theorem digit_lt_ten {c : Char} (h : c.isDigit = true) : c.toNat - '0'.toNat < 10 := by
  have hnine : c.toNat ≤ '9'.toNat := (Char.isDigit_iff_toNat.mp h).2
  have hvalue : '9'.toNat = 57 ∧ '0'.toNat = 48 := ⟨rfl, rfl⟩
  omega

theorem digitsValue_lt {cs : List Char} (h : ∀ c ∈ cs, c.isDigit = true) :
    digitsValue cs < 10 ^ cs.length := by
  induction cs using List.reverseRecOn with
  | nil => decide
  | append_singleton cs c ih =>
    have hfront := ih fun d hd => h d (List.mem_append_left _ hd)
    have hlast := digit_lt_ten (h c (by simp))
    rw [digitsValue, Nat.ofDigitChars_append, Nat.ofDigitChars_cons, Nat.ofDigitChars_nil,
      List.length_append, List.length_singleton, Nat.pow_succ]
    rw [digitsValue] at hfront
    omega

end Chronicle.Text
