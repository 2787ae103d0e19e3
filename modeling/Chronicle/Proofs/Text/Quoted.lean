import Chronicle.Text.Quoted
import Mathlib.Data.List.Infix

/-!
# Pairs in quoted texts

A *pair* is a character twice in a row.  Text around a text brings no pair into it unless it has the character
itself (`pair_infix_append_left_iff`, `pair_infix_append_right_iff`), and neither does writing characters out in
another way, as long as only the character itself is written with it (`pair_infix_flatMap_iff`).

Quoting is such a way for every `PlainMark`, a mark that is shown as it is and that no escape is written with.
So a quoted text has a pair of these just when the text has it (`pair_infix_quoted_iff`), and so has a message
that *quotes* the text and does not use the mark in its own words (`Quotes.pair_infix_iff`).
-/

namespace Chronicle.Text

variable {x : Char} {cs : List Char}

/-! ## Pairs -/

theorem pair_infix_append_left_iff {front : List Char} (h : x ∉ front) :
    [x, x] <:+: front ++ cs ↔ [x, x] <:+: cs := by
  induction front with
  | nil => rfl
  | cons c rest ih =>
    rw [List.mem_cons, not_or] at h
    obtain ⟨hc, hrest⟩ := h
    rw [List.cons_append, List.infix_cons_iff, ih hrest, or_iff_right]
    intro hstart
    exact hc (List.cons_prefix_cons.mp hstart).1

theorem pair_infix_append_right_iff {back : List Char} (h : x ∉ back) :
    [x, x] <:+: cs ++ back ↔ [x, x] <:+: cs := by
  have hback : x ∉ back.reverse := fun hmem => h (List.mem_reverse.mp hmem)
  have hreverse (text : List Char) : [x, x].reverse <:+: text.reverse ↔ [x, x] <:+: text := List.reverse_infix
  rw [← hreverse, List.reverse_append]
  exact (pair_infix_append_left_iff hback).trans (hreverse cs)

variable {write : Char → List Char}

theorem singleton_prefix_flatMap_iff (hself : write x = [x]) (hother : ∀ c, c ≠ x → write c ≠ [] ∧ x ∉ write c) :
    [x] <+: cs.flatMap write ↔ [x] <+: cs := by
  cases cs with
  | nil => rfl
  | cons c rest =>
    rw [List.flatMap_cons, List.cons_prefix_cons]
    by_cases hc : c = x
    · rw [hc, hself]
      simp
    · obtain ⟨hne, hnot⟩ := hother c hc
      obtain ⟨first, more, hwrite⟩ := List.exists_cons_of_ne_nil hne
      rw [hwrite, List.mem_cons, not_or] at hnot
      rw [hwrite, List.cons_append, List.cons_prefix_cons]
      exact ⟨fun h => absurd h.1 hnot.1, fun h => absurd h.1.symm hc⟩

/-- Characters are written out one by one, and a pair is left as it is. -/
theorem pair_infix_flatMap_iff (hself : write x = [x]) (hother : ∀ c, c ≠ x → write c ≠ [] ∧ x ∉ write c) :
    [x, x] <:+: cs.flatMap write ↔ [x, x] <:+: cs := by
  induction cs with
  | nil => rfl
  | cons c rest ih =>
    rw [List.flatMap_cons, List.infix_cons_iff]
    by_cases hc : c = x
    · rw [hc, hself, List.singleton_append, List.infix_cons_iff, List.cons_prefix_cons, List.cons_prefix_cons,
        singleton_prefix_flatMap_iff hself hother, ih]
    · rw [pair_infix_append_left_iff (hother c hc).2, ih, or_iff_right]
      intro hstart
      exact hc (List.cons_prefix_cons.mp hstart).1.symm

/-! ## Quoting -/

/-- A mark that is quoted as it is, and that no other character is quoted with. -/
structure PlainMark (x : Char) : Prop where
  printable : isPrintable x = true
  not_alphanum : x.isAlphanum = false
  ne_backslash : x ≠ '\\'
  ne_single : x ≠ '\x27'
  ne_double : x ≠ '\x22'

theorem quoteFor_eq_or (cs : List Char) : quoteFor cs = '\x22' ∨ quoteFor cs = '\x27' := by
  rw [quoteFor]
  split
  · exact .inl rfl
  · exact .inr rfl

namespace PlainMark

theorem ne_quoteFor (h : PlainMark x) (cs : List Char) : x ≠ quoteFor cs := by
  rcases quoteFor_eq_or cs with hquote | hquote
  · rw [hquote]
    exact h.ne_double
  · rw [hquote]
    exact h.ne_single

theorem ne_of_isAlphanum (h : PlainMark x) {c : Char} (hc : c.isAlphanum = true) : x ≠ c := by
  rintro rfl
  rw [h.not_alphanum] at hc
  cases hc

theorem not_mem_hexDigits (h : PlainMark x) (width n : Nat) : x ∉ hexDigits width n := by
  induction width generalizing n with
  | zero => exact List.not_mem_nil
  | succ width ih =>
    have hdigit : ∀ k < 16, (Nat.digitChar k).isAlphanum = true := by decide
    rw [hexDigits, List.mem_append, List.mem_singleton, not_or]
    exact ⟨ih (n / 16), h.ne_of_isAlphanum (hdigit _ (Nat.mod_lt n (by decide)))⟩

/-- Behind the backslash of an escape there are letters and digits. -/
theorem not_mem_escape (h : PlainMark x) {c : Char} (hc : c.isAlphanum = true) (width n : Nat) :
    x ∉ '\\' :: c :: hexDigits width n := by
  simp only [List.mem_cons, not_or]
  exact ⟨h.ne_backslash, h.ne_of_isAlphanum hc, h.not_mem_hexDigits width n⟩

theorem escaped_self (h : PlainMark x) {quote : Char} (hquote : x ≠ quote) : escaped quote x = [x] := by
  have htab : x ≠ '\t' := by
    rintro rfl
    cases h.printable
  have hfeed : x ≠ '\n' := by
    rintro rfl
    cases h.printable
  have hreturn : x ≠ '\r' := by
    rintro rfl
    cases h.printable
  rw [escaped, if_neg (not_or.mpr ⟨hquote, h.ne_backslash⟩), if_neg htab, if_neg hfeed, if_neg hreturn,
    if_pos h.printable]

theorem not_mem_escaped (h : PlainMark x) (quote : Char) {c : Char} (hc : c ≠ x) :
    escaped quote c ≠ [] ∧ x ∉ escaped quote c := by
  rw [escaped]
  split
  · refine ⟨List.cons_ne_nil _ _, ?_⟩
    simp only [List.mem_cons, List.not_mem_nil, or_false, not_or]
    exact ⟨h.ne_backslash, hc.symm⟩
  · split
    · exact ⟨List.cons_ne_nil _ _, h.not_mem_escape (by decide) 0 0⟩
    · split
      · exact ⟨List.cons_ne_nil _ _, h.not_mem_escape (by decide) 0 0⟩
      · split
        · exact ⟨List.cons_ne_nil _ _, h.not_mem_escape (by decide) 0 0⟩
        · split
          · exact ⟨List.cons_ne_nil _ _, fun hmem => hc (List.mem_singleton.mp hmem).symm⟩
          · split
            · exact ⟨List.cons_ne_nil _ _, h.not_mem_escape (by decide) 2 _⟩
            · split
              · exact ⟨List.cons_ne_nil _ _, h.not_mem_escape (by decide) 4 _⟩
              · exact ⟨List.cons_ne_nil _ _, h.not_mem_escape (by decide) 8 _⟩

end PlainMark

theorem pair_infix_quoted_iff (h : PlainMark x) : [x, x] <:+: quoted cs ↔ [x, x] <:+: cs := by
  have hquote : x ∉ [quoteFor cs] := fun hmem => h.ne_quoteFor cs (List.mem_singleton.mp hmem)
  have hquoted : quoted cs = [quoteFor cs] ++ (cs.flatMap (escaped (quoteFor cs)) ++ [quoteFor cs]) := rfl
  rw [hquoted, pair_infix_append_left_iff hquote, pair_infix_append_right_iff hquote]
  exact pair_infix_flatMap_iff (h.escaped_self (h.ne_quoteFor cs)) fun _ hc => h.not_mem_escaped _ hc

theorem getLast?_quoted (cs : List Char) : (quoted cs).getLast? = some (quoteFor cs) := by
  rw [quoted, List.getLast?_cons, List.getLast?_concat, Option.getD_some]

/-! ## Messages with quotations -/

/-- The words of a message are literals, and these are made of their characters. -/
theorem not_mem_toList_ofList (h : x ∉ cs) : x ∉ (String.ofList cs).toList := by
  rwa [String.toList_ofList]

/-- A message that quotes one text or none, and does not use a mark in its own words. -/
inductive Quotes (x : Char) : (message : String) → (cited : Option String) → Prop where
  | plain {message : String} (h : x ∉ message.toList) : Quotes x message none
  | text {front back : String} (text : String) (hfront : x ∉ front.toList) (hback : x ∉ back.toList) :
    Quotes x (front ++ quote text ++ back) (some text)

namespace Quotes

variable {message front : String} {cited : Option String}

/-- A message that ends with its quotation. -/
theorem last (text : String) (hfront : x ∉ front.toList) : Quotes x (front ++ quote text) (some text) := by
  have h : Quotes x (front ++ quote text ++ "") (some text) := .text text hfront (by simp)
  rwa [String.append_empty] at h

/-- Further words in front of a message. -/
theorem append_left (h : Quotes x message cited) (hfront : x ∉ front.toList) :
    Quotes x (front ++ message) cited := by
  cases h with
  | plain hmessage =>
    refine .plain ?_
    rw [String.toList_append, List.mem_append, not_or]
    exact ⟨hfront, hmessage⟩
  | @text words back text hwords hback =>
    rw [← String.append_assoc, ← String.append_assoc]
    refine .text text ?_ hback
    rw [String.toList_append, List.mem_append, not_or]
    exact ⟨hfront, hwords⟩

theorem pair_infix_iff (hx : PlainMark x) (h : Quotes x message cited) :
    [x, x] <:+: message.toList ↔ ∃ text ∈ cited, [x, x] <:+: text.toList := by
  cases h with
  | plain hmessage =>
    constructor
    · intro hpair
      exact absurd (hpair.subset List.mem_cons_self) hmessage
    · rintro ⟨_, ⟨⟩, -⟩
  | text text hfront hback =>
    rw [String.toList_append, String.toList_append, toList_quote, pair_infix_append_right_iff hback,
      pair_infix_append_left_iff hfront, pair_infix_quoted_iff hx]
    simp

theorem not_mem_getLast? (hx : PlainMark x) (h : Quotes x message cited) : x ∉ message.toList.getLast? := by
  cases h with
  | plain hmessage => exact fun hlast => hmessage (List.mem_of_getLast? hlast)
  | @text front back text hfront hback =>
    rw [String.toList_append, String.toList_append, toList_quote, List.getLast?_append, List.getLast?_append,
      getLast?_quoted]
    cases hlast : back.toList.getLast? with
    | none =>
      rintro ⟨⟩
      exact hx.ne_quoteFor _ rfl
    | some c =>
      rintro ⟨⟩
      exact hback (List.mem_of_getLast? hlast)

end Quotes

end Chronicle.Text
