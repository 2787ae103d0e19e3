import Chronicle.Script.Description
import Mathlib.Data.List.Infix

/-!
# Where a cut does not fall

A separator of one character is found at its first occurrence, so a cut passes over every text without it
(`cutAt?_of_not_mem`, `cutAt?_append`).

The cut in front of a description also stops at link spans.  It passes over a text that has neither the
separator nor the start of a link span in it (`IsUndivided.passedOver`).  Texts that are passed over can be put
together as long as no link span starts between them (`PassedOver.append`).
-/

namespace Chronicle.Script

open Chronicle.Text

variable {sep : Char} {cs front head : List Char}

/-! ## Separators of one character -/

theorem cutAt?_of_not_mem (h : sep ∉ cs) : cutAt? [sep] cs = none := by
  induction cs with
  | nil => rfl
  | cons c rest ih =>
    rw [List.mem_cons, not_or] at h
    obtain ⟨hc, hrest⟩ := h
    simp [cutAt?, hc, ih hrest]

theorem cutAt?_append (h : sep ∉ front) (rest : List Char) :
    cutAt? [sep] (front ++ sep :: rest) = some (front, rest) := by
  induction front with
  | nil => simp [cutAt?]
  | cons c tail ih =>
    rw [List.mem_cons, not_or] at h
    obtain ⟨hc, htail⟩ := h
    simp [cutAt?, hc, ih htail]

/-! ## Descriptions -/

/-- A text in which neither the separator nor a link span starts. -/
def IsUndivided (sep : Char) (text : List Char) : Prop := sep ∉ text ∧ ¬['[', '['] <:+: text

/-- A text that a cut in front of a description passes over, unless a link span starts with its last
character. -/
def PassedOver (sep : Char) (head : List Char) : Prop :=
  ∀ after : List Char, (head.getLast? = some '[' → after.head? ≠ some '[') →
    cutDescriptionFrom? [sep] 0 (head ++ after) =
      (cutDescriptionFrom? [sep] 0 after).map fun (before, rest) => (head ++ before, rest)

theorem linkSpan?_cons_of_ne {c : Char} {rest : List Char} (h : c = '[' → rest.head? ≠ some '[') :
    linkSpan? (c :: rest) = none := by
  unfold linkSpan?
  split
  · next heq =>
    obtain ⟨rfl, rfl⟩ := List.cons.inj heq
    exact absurd rfl (h rfl)
  · rfl

theorem IsUndivided.passedOver (h : IsUndivided sep head) : PassedOver sep head := by
  obtain ⟨hsep, hlink⟩ := h
  intro after hafter
  induction head with
  | nil => simp
  | cons c rest ih =>
    rw [List.mem_cons, not_or] at hsep
    obtain ⟨hc, hrest⟩ := hsep
    have hspan : linkSpan? (c :: (rest ++ after)) = none := by
      refine linkSpan?_cons_of_ne ?_
      rintro rfl
      cases rest with
      | nil => exact hafter rfl
      | cons next more =>
        rintro ⟨⟩
        exact hlink ⟨[], more, rfl⟩
    have hpiece : pieceAt? [sep] (c :: (rest ++ after)) = none := by simp [pieceAt?, hspan, hc]
    have htail : ¬['[', '['] <:+: rest := fun h => hlink (h.trans (List.infix_cons List.infix_rfl))
    have hlast : rest.getLast? = some '[' → after.head? ≠ some '[' := fun h =>
      hafter (by rw [List.getLast?_cons, h, Option.getD_some])
    rw [List.cons_append, cutDescriptionFrom?, hpiece]
    simp only [ih hrest htail hlast, Option.map_map]
    rfl

theorem passedOver_of_not_mem (hsep : sep ∉ head) (hbracket : '[' ∉ head) : PassedOver sep head :=
  IsUndivided.passedOver ⟨hsep, fun h => hbracket (h.subset List.mem_cons_self)⟩

theorem PassedOver.append {more : List Char} (h : PassedOver sep head) (hmore : PassedOver sep more)
    (hjoin : head.getLast? = some '[' → more.head? ≠ some '[') : PassedOver sep (head ++ more) := by
  by_cases hnil : more = []
  · rwa [hnil, List.append_nil]
  · intro after hafter
    rw [List.getLast?_append_of_ne_nil _ hnil] at hafter
    have hnext : head.getLast? = some '[' → (more ++ after).head? ≠ some '[' := by
      rwa [List.head?_append_of_ne_nil _ hnil]
    rw [List.append_assoc, h _ hnext, hmore _ hafter, Option.map_map]
    simp [Function.comp_def]

theorem splitDescription_of_passedOver (h : PassedOver sep head) :
    splitDescription [sep] head = (head, none) := by
  have hcut := h [] (fun _ => by simp)
  rw [List.append_nil] at hcut
  rw [splitDescription, hcut]
  rfl

theorem splitDescription_append (h : PassedOver sep head) (hsep : sep ≠ '[') (description : List Char) :
    splitDescription [sep] (head ++ sep :: description) = (head, some description) := by
  have hspan : linkSpan? (sep :: description) = none := linkSpan?_cons_of_ne fun heq => absurd heq hsep
  have hcut : cutDescriptionFrom? [sep] 0 (sep :: description) = some ([], description) := by
    simp [cutDescriptionFrom?, pieceAt?, hspan]
  rw [splitDescription, h _ (fun _ => by simpa using hsep), hcut]
  simp

end Chronicle.Script
