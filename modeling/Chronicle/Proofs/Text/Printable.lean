import Chronicle.Proofs.Text.Quoted
import Chronicle.Proofs.Text.Trim
import Mathlib.Data.Nat.Basic

/-!
# Quotations are printable

Quoting writes printable characters only, whatever the text is (`isPrintable_of_mem_quoted`).  What is not printable
goes into an escape, and escapes are made of a backslash, letters and digits.

A printable character is no line end, and the only printable blank is the plain space
(`eq_space_of_isPrintable`).
-/

namespace Chronicle.Text

variable {c d : Char}

/-! ## Printable characters -/

theorem isPrintable_of_isDigit (h : c.isDigit = true) : isPrintable c = true := by
  have hbounds : 48 ≤ c.toNat ∧ c.toNat ≤ 57 := Char.isDigit_iff_toNat.mp h
  exact isPrintable_of_ascii (by omega) (by omega)

/-- The code points of a run of blanks are not printable, but for the plain space. -/
theorem isPrintable_blankSpans : ∀ s ∈ blankSpans, ∀ i < s.last + 1 - s.first,
    s.first + i = 0x20 ∨ isPrintable (Char.ofNat (s.first + i)) = false := by
  decide +kernel

theorem eq_space_of_isPrintable (h : isPrintable c = true) (hblank : isBlank c = true) : c = ' ' := by
  obtain ⟨s, hs, hfirst, hlast⟩ := inSpans_iff.mp hblank
  have hplace : s.first + (c.toNat - s.first) = c.toNat := by omega
  have hrun := isPrintable_blankSpans s hs (c.toNat - s.first) (by omega)
  rw [hplace, Char.ofNat_toNat, h] at hrun
  rcases hrun with hspace | hnot
  · exact Char.toNat_inj.mp hspace
  · cases hnot

/-! ## Escapes and quotations -/

theorem isPrintable_of_mem_hexDigits {width n : Nat} (h : d ∈ hexDigits width n) : isPrintable d = true := by
  have hdigit : ∀ k < 16, isPrintable (Nat.digitChar k) = true := by decide
  induction width generalizing n with
  | zero => cases h
  | succ width ih =>
    rcases List.mem_append.mp h with hfront | hlast
    · exact ih hfront
    · obtain rfl := List.mem_singleton.mp hlast
      exact hdigit _ (Nat.mod_lt n (by decide))

/-- Behind the backslash and the letter of an escape there are hexadecimal digits or nothing. -/
theorem isPrintable_of_mem_escape {letter : Char} (hletter : isPrintable letter = true) (width n : Nat)
    (h : d ∈ '\\' :: letter :: hexDigits width n) : isPrintable d = true := by
  rcases List.mem_cons.mp h with rfl | h
  · decide
  · rcases List.mem_cons.mp h with rfl | h
    · exact hletter
    · exact isPrintable_of_mem_hexDigits h

theorem isPrintable_of_mem_escaped {quote : Char} (hquote : isPrintable quote = true) (h : d ∈ escaped quote c) :
    isPrintable d = true := by
  rw [escaped] at h
  split at h
  · next hmark =>
    have hc : isPrintable c = true := by
      rcases hmark with rfl | rfl
      · exact hquote
      · decide
    exact isPrintable_of_mem_escape hc 0 0 h
  · split at h
    · exact isPrintable_of_mem_escape (by decide) 0 0 h
    · split at h
      · exact isPrintable_of_mem_escape (by decide) 0 0 h
      · split at h
        · exact isPrintable_of_mem_escape (by decide) 0 0 h
        · split at h
          · next hc =>
            obtain rfl := List.mem_singleton.mp h
            exact hc
          · split at h
            · exact isPrintable_of_mem_escape (by decide) 2 _ h
            · split at h
              · exact isPrintable_of_mem_escape (by decide) 4 _ h
              · exact isPrintable_of_mem_escape (by decide) 8 _ h

theorem isPrintable_of_mem_quoted {cs : List Char} (h : d ∈ quoted cs) : isPrintable d = true := by
  have hquote : isPrintable (quoteFor cs) = true := by
    rcases quoteFor_eq_or cs with heq | heq
    · rw [heq]
      decide
    · rw [heq]
      decide
  rcases List.mem_cons.mp h with rfl | h
  · exact hquote
  · rcases List.mem_append.mp h with htext | hlast
    · obtain ⟨c, -, hc⟩ := List.mem_flatMap.mp htext
      exact isPrintable_of_mem_escaped hquote hc
    · obtain rfl := List.mem_singleton.mp hlast
      exact hquote

/-- A character that is not printable is in no message that does not use it in its own words. -/
theorem Quotes.not_mem {x : Char} {message : String} {cited : Option String} (hx : isPrintable x = false)
    (h : Quotes x message cited) : x ∉ message.toList := by
  cases h with
  | plain hmessage => exact hmessage
  | text text hfront hback =>
    rw [String.toList_append, String.toList_append, toList_quote, List.mem_append, List.mem_append, not_or, not_or]
    refine ⟨⟨hfront, fun hmem => ?_⟩, hback⟩
    rw [isPrintable_of_mem_quoted hmem] at hx
    cases hx

end Chronicle.Text
