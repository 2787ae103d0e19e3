import Chronicle.Text.Blank
import Mathlib.Data.List.DropRight
import Mathlib.Data.List.TakeWhile

/-!
# Trimmed texts

A text is *trimmed* when it neither starts nor ends with a blank.  `trim` gives such a text
(`isTrimmed_trim`) and leaves such a text alone (`trim_eq_self`).  The end of a text is the end of every
part that reaches it, so what stands last in a trimmed text does not end with a blank either
(`EndsSolid.of_append`).
-/

namespace Chronicle.Text

/-- A text that does not start with a blank. -/
def StartsSolid (cs : List Char) : Prop := ∀ c ∈ cs.head?, isBlank c = false

/-- A text that does not end with a blank. -/
def EndsSolid (cs : List Char) : Prop := ∀ c ∈ cs.getLast?, isBlank c = false

/-- A text with no blanks at its ends. -/
structure IsTrimmed (cs : List Char) : Prop where
  start : StartsSolid cs
  stop : EndsSolid cs

/-- The visible characters of ASCII are not blank. -/
theorem isBlank_of_bounds {c : Char} (h : 0x20 < c.toNat ∧ c.toNat < 0x80) : isBlank c = false := by
  rw [Bool.eq_false_iff, Ne, isBlank, inSpans_iff]
  rintro ⟨span, hspan, hfirst, hlast⟩
  simp only [blankSpans, List.mem_cons, List.not_mem_nil, or_false] at hspan
  rcases hspan with rfl | rfl | rfl | rfl | rfl | rfl | rfl | rfl | rfl | rfl <;>
    simp only at hfirst hlast <;> omega

theorem isBlank_of_mem_space : ∀ c ∈ [' '], isBlank c = true :=
  List.forall_mem_singleton.mpr (by decide)

theorem isBlank_of_isDigit {c : Char} (h : c.isDigit) : isBlank c = false := by
  have hbounds : 48 ≤ c.toNat ∧ c.toNat ≤ 57 := by
    simpa [Char.isDigit, UInt32.le_iff_toNat_le] using h
  exact isBlank_of_bounds (by omega)

variable {cs : List Char}

/-! ## Parts of a text -/

theorem startsSolid_cons {c : Char} : StartsSolid (c :: cs) ↔ isBlank c = false := by
  simp [StartsSolid]

theorem startsSolid_reverse_iff : StartsSolid cs.reverse ↔ EndsSolid cs := by
  rw [StartsSolid, List.head?_reverse, EndsSolid]

instance : (cs : List Char) → Decidable (StartsSolid cs)
  | [] => .isTrue fun c hc => by cases hc
  | _ :: _ => decidable_of_iff _ startsSolid_cons.symm

instance (cs : List Char) : Decidable (EndsSolid cs) :=
  decidable_of_iff _ startsSolid_reverse_iff

theorem StartsSolid.append (h : StartsSolid cs) (hne : cs ≠ []) (more : List Char) :
    StartsSolid (cs ++ more) := by
  rw [StartsSolid, List.head?_append_of_ne_nil _ hne]
  exact h

theorem StartsSolid.of_append {more : List Char} (h : StartsSolid (cs ++ more)) : StartsSolid cs := by
  intro c hc
  refine h c ?_
  rw [List.head?_append, Option.mem_def.mp hc]
  rfl

theorem EndsSolid.of_append {front : List Char} (h : EndsSolid (front ++ cs)) : EndsSolid cs := by
  intro c hc
  refine h c ?_
  rw [List.getLast?_append, Option.mem_def.mp hc]
  rfl

theorem EndsSolid.append (h : EndsSolid cs) (hne : cs ≠ []) (front : List Char) :
    EndsSolid (front ++ cs) := by
  rw [EndsSolid, List.getLast?_append_of_ne_nil _ hne]
  exact h

theorem startsSolid_of_forall (h : ∀ c ∈ cs, isBlank c = false) : StartsSolid cs :=
  fun c hc => h c (List.mem_of_mem_head? hc)

theorem endsSolid_of_forall (h : ∀ c ∈ cs, isBlank c = false) : EndsSolid cs :=
  fun c hc => h c (List.mem_of_getLast? hc)

/-! ## Trimming -/

theorem trimStart_eq_self (h : StartsSolid cs) : trimStart cs = cs := by
  cases cs with
  | nil => rfl
  | cons c rest => rw [trimStart, List.dropWhile_cons, startsSolid_cons.mp h]; rfl

theorem startsSolid_trimStart (cs : List Char) : StartsSolid (trimStart cs) := by
  intro c hc
  rw [trimStart] at hc
  have hnot := List.head?_dropWhile_not isBlank cs
  rw [Option.mem_def.mp hc] at hnot
  simpa using hnot

theorem trimStart_append {blanks : List Char} (hblanks : ∀ c ∈ blanks, isBlank c)
    (h : StartsSolid cs) : trimStart (blanks ++ cs) = cs := by
  rw [trimStart, List.dropWhile_append_of_pos hblanks]
  exact trimStart_eq_self h

/-- A text is some blanks and what is left when these are taken away. -/
theorem exists_blanks_append_trimStart (cs : List Char) :
    ∃ blanks, (∀ c ∈ blanks, isBlank c) ∧ cs = blanks ++ trimStart cs :=
  ⟨cs.takeWhile isBlank, fun _ hc => List.mem_takeWhile_imp hc,
    List.takeWhile_append_dropWhile.symm⟩

theorem trimEnd_eq_self (h : EndsSolid cs) : trimEnd cs = cs := by
  refine List.rdropWhile_eq_self_iff.mpr fun hne => ?_
  simp [h _ (List.getLast?_eq_some_getLast hne)]

theorem endsSolid_trimEnd (cs : List Char) : EndsSolid (trimEnd cs) := by
  intro c hc
  obtain ⟨hne, hlast⟩ := List.mem_getLast?_eq_getLast hc
  rw [hlast, Bool.eq_false_iff]
  exact List.rdropWhile_last_not isBlank cs hne

theorem trim_eq_self (h : IsTrimmed cs) : trim cs = cs := by
  rw [trim, trimStart_eq_self h.start, trimEnd_eq_self h.stop]

theorem isTrimmed_trim (cs : List Char) : IsTrimmed (trim cs) := by
  obtain ⟨rest, hrest⟩ : trim cs <+: trimStart cs := List.rdropWhile_prefix isBlank _
  have hstart := startsSolid_trimStart cs
  rw [← hrest] at hstart
  exact ⟨hstart.of_append, endsSolid_trimEnd _⟩

theorem infix_trim (cs : List Char) : trim cs <:+: cs :=
  (List.rdropWhile_prefix isBlank _).isInfix.trans (List.dropWhile_suffix _).isInfix

theorem prefix_trim (h : StartsSolid cs) : trim cs <+: cs := by
  rw [trim, trimStart_eq_self h]
  exact List.rdropWhile_prefix isBlank cs

theorem trim_append {blanks : List Char} (hblanks : ∀ c ∈ blanks, isBlank c)
    (h : IsTrimmed cs) : trim (blanks ++ cs) = cs := by
  rw [trim, trimStart_append hblanks h.start, trimEnd_eq_self h.stop]

theorem trimEnd_append {blanks : List Char} (hblanks : ∀ c ∈ blanks, isBlank c) (h : EndsSolid cs) :
    trimEnd (cs ++ blanks) = cs := by
  have hreverse : ∀ c ∈ blanks.reverse, isBlank c := fun c hc => hblanks c (List.mem_reverse.mp hc)
  have hstart : (blanks.reverse ++ cs.reverse).dropWhile isBlank = cs.reverse :=
    trimStart_append hreverse (startsSolid_reverse_iff.mpr h)
  rw [trimEnd, List.reverse_append, hstart, List.reverse_reverse]

theorem trim_append_append {front back : List Char} (hfront : ∀ c ∈ front, isBlank c)
    (hback : ∀ c ∈ back, isBlank c) (h : IsTrimmed cs) : trim (front ++ (cs ++ back)) = cs := by
  rw [trim]
  by_cases hne : cs = []
  · have hblank : ∀ c ∈ front ++ back, isBlank c := List.forall_mem_append.mpr ⟨hfront, hback⟩
    have hstart : trimStart (front ++ back) = [] := List.dropWhile_eq_nil_iff.mpr hblank
    rw [hne, List.nil_append, hstart]
    rfl
  · rw [trimStart_append hfront (h.start.append hne back), trimEnd_append hback h.stop]

end Chronicle.Text
