import Chronicle.Text.Cut
import Mathlib.Order.Bounds.Basic

/-!
# Places in a text

A *place* is a number of characters before it.  `StandsAt pattern cs place` says that a text goes on with a
pattern at a place.  A cut falls on the first place where the separator stands (`isLeast_of_cutAt?`), and there
is no cut only where it stands nowhere (`not_standsAt_of_cutAt?`).
-/

namespace Chronicle.Text

/-- A pattern stands at a place of a text. -/
def StandsAt (pattern cs : List Char) (place : Nat) : Prop := pattern <+: cs.drop place

instance (pattern cs : List Char) (place : Nat) : Decidable (StandsAt pattern cs place) :=
  inferInstanceAs (Decidable (pattern <+: cs.drop place))

variable {pattern cs : List Char}

theorem standsAt_drop_iff {n place : Nat} :
    StandsAt pattern (cs.drop n) place ↔ StandsAt pattern cs (n + place) := by
  rw [StandsAt, StandsAt, List.drop_drop]

theorem drop_succ_of_drop_eq_cons {c : Char} {rest : List Char} {place : Nat} (h : cs.drop place = c :: rest) :
    cs.drop (place + 1) = rest := by
  rw [← List.tail_drop, h, List.tail_cons]

theorem drop_add_length_of_drop_eq_append {front rest : List Char} {place : Nat}
    (h : cs.drop place = front ++ rest) : cs.drop (place + front.length) = rest := by
  rw [← List.drop_drop, h, List.drop_left]

/-- A pattern stands where its first character is, with the others behind it. -/
theorem standsAt_cons_iff {c : Char} {place : Nat} :
    StandsAt (c :: pattern) cs place ↔ cs[place]? = some c ∧ StandsAt pattern cs (place + 1) := by
  rw [← List.head?_drop, StandsAt, StandsAt]
  cases hdrop : cs.drop place with
  | nil => simp
  | cons d rest =>
    rw [drop_succ_of_drop_eq_cons hdrop, List.cons_prefix_cons, List.head?_cons, Option.some.injEq, eq_comm]

theorem standsAt_singleton_iff {c : Char} {place : Nat} : StandsAt [c] cs place ↔ cs[place]? = some c :=
  standsAt_cons_iff.trans (and_iff_left List.nil_prefix)

theorem not_standsAt_nil (hne : pattern ≠ []) (place : Nat) : ¬StandsAt pattern [] place := by
  rw [StandsAt, List.drop_nil, List.prefix_nil]
  exact hne

/-! ## Cuts -/

variable {before after : List Char}

theorem isLeast_of_cutAt? (h : cutAt? pattern cs = some (before, after)) :
    IsLeast {place | StandsAt pattern cs place} before.length := by
  induction cs generalizing before with
  | nil =>
    rw [cutAt?] at h
    split at h
    · next hempty =>
      cases h
      rw [List.isEmpty_iff] at hempty
      exact ⟨by simp [StandsAt, hempty], fun place _ => Nat.zero_le place⟩
    · cases h
  | cons c rest ih =>
    rw [cutAt?] at h
    split at h
    · next hfront =>
      cases h
      exact ⟨List.isPrefixOf_iff_prefix.mp hfront, fun place _ => Nat.zero_le place⟩
    · next hfront =>
      obtain ⟨⟨front, back⟩, hcut, heq⟩ := Option.map_eq_some_iff.mp h
      cases heq
      obtain ⟨hstands, hleast⟩ := ih hcut
      refine ⟨hstands, fun place hplace => ?_⟩
      cases place with
      | zero => exact absurd (List.isPrefixOf_iff_prefix.mpr hplace) hfront
      | succ place => exact Nat.succ_le_succ (hleast hplace)

theorem not_standsAt_of_cutAt? (hne : pattern ≠ []) (h : cutAt? pattern cs = none) (place : Nat) :
    ¬StandsAt pattern cs place := by
  induction cs generalizing place with
  | nil => exact not_standsAt_nil hne place
  | cons c rest ih =>
    rw [cutAt?] at h
    split at h
    · cases h
    · next hfront =>
      cases place with
      | zero => exact fun hplace => hfront (List.isPrefixOf_iff_prefix.mpr hplace)
      | succ place => exact ih (Option.map_eq_none_iff.mp h) place

end Chronicle.Text
