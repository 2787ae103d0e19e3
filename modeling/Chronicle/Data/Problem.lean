/-!
# Problems in data

A value that comes from outside is checked against the shape it should have.  A `Problem` says what
is wrong and where, as a path of field names and list positions from the outermost value.

`Checked` is the answer of such a check.  Two checks combine with all their problems, so that one
round of checking reports everything.
-/

namespace Chronicle.Data

/-- One step into a value. -/
inductive PathStep where
  | field (name : String)
  /-- Into an element of a list, counted from 0. -/
  | index (i : Nat)
  deriving DecidableEq, Repr

/-- What is wrong with a value. -/
inductive Defect where
  | missing
  | unknownField
  | notRecord
  | notVariant
  /-- The record does not tell its variant. -/
  | noVariant
  | unknownVariant
  | notText
  | emptyText
  | notList
  | notInteger
  /-- The text does not write an integer. -/
  | integerText
  | fraction
  | tooLarge
  | tooSmall
  | notPositive
  | notTruth
  /-- The text or integer does not stand for a truth value. -/
  | truthText
  | notAllowed
  | notNull
  /-- The parts are sound, but do not go together. -/
  | rejected (message : String)
  /-- The parts do not go together, and the message about it would hold a number that cannot be written. -/
  | overlong
  deriving DecidableEq, Repr

namespace Defect

/-- A short label for the sort of defect. -/
def label : Defect → String
  | missing => "missing"
  | unknownField => "extra_forbidden"
  | notRecord => "model_type"
  | notVariant => "model_attributes_type"
  | noVariant => "union_tag_not_found"
  | unknownVariant => "union_tag_invalid"
  | notText => "string_type"
  | emptyText => "string_too_short"
  | notList => "list_type"
  | notInteger => "int_type"
  | integerText => "int_parsing"
  | fraction => "int_from_float"
  | tooLarge => "int_parsing_size"
  | tooSmall => "greater_than_equal"
  | notPositive => "greater_than"
  | notTruth => "bool_type"
  | truthText => "bool_parsing"
  | notAllowed => "literal_error"
  | notNull => "none_required"
  | rejected _ | overlong => "value_error"

/-- The message of a defect that is made for the value at hand. -/
def message? : Defect → Option String
  | rejected message => some ("Value error, " ++ message)
  | _ => none

end Defect

/-- Something wrong, and where. -/
structure Problem where
  path : List PathStep
  defect : Defect
  deriving DecidableEq, Repr

/-- The same problem, seen from one step further out. -/
def Problem.under (step : PathStep) (p : Problem) : Problem := ⟨step :: p.path, p.defect⟩

/-- A sound value, or everything that is wrong. -/
inductive Checked (α : Type) where
  /-- The value that was asked for. -/
  | sound (value : α)
  /-- The problems, in the order in which they were found. -/
  | faulty (problems : List Problem)
  deriving DecidableEq, Repr

namespace Checked

def fail {α : Type} (defect : Defect) : Checked α := .faulty [⟨[], defect⟩]

/-- Applies a function to a sound value. -/
def map {α β : Type} (f : α → β) : Checked α → Checked β
  | .sound a => .sound (f a)
  | .faulty ps => .faulty ps

/-- Both checks together.  The problems of the first come first. -/
def both {α β : Type} : Checked α → Checked β → Checked (α × β)
  | .sound a, .sound b => .sound (a, b)
  | .sound _, .faulty qs => .faulty qs
  | .faulty ps, .sound _ => .faulty ps
  | .faulty ps, .faulty qs => .faulty (ps ++ qs)

instance : Applicative Checked where
  pure := .sound
  map := map
  seq f a := (f.both (a ())).map fun (g, x) => g x

@[simp] theorem map_sound {α β : Type} (f : α → β) (a : α) :
    f <$> Checked.sound a = .sound (f a) := rfl

@[simp] theorem seq_sound {α β : Type} (f : α → β) (a : α) :
    Checked.sound f <*> Checked.sound a = .sound (f a) := rfl

/-- Two checks together succeed exactly when each of them does. -/
theorem both_eq_sound_iff {α β : Type} {a : Checked α} {b : Checked β} {x : α} {y : β} :
    a.both b = .sound (x, y) ↔ a = .sound x ∧ b = .sound y := by
  cases a <;> cases b <;> simp [both]

/-- A second check on a sound value. -/
def andThen {α β : Type} (a : Checked α) (f : α → Checked β) : Checked β :=
  match a with
  | .sound x => f x
  | .faulty ps => .faulty ps

/-- The same check, seen from one step further out. -/
def under {α : Type} (step : PathStep) : Checked α → Checked α
  | .sound a => .sound a
  | .faulty ps => .faulty (ps.map (Problem.under step))

end Checked

end Chronicle.Data
