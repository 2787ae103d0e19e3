import Chronicle.Script.Error

/-!
# Readings

A reading succeeds, refuses the line, or has a fault.  These are the rules for readings that are made from
others: what has to have happened before when a whole succeeds, when a whole is free of faults, and for what a
whole may refuse its line.
-/

namespace Chronicle.Script

variable {α β : Type} {reading : Reading α}

/-! ## Results of a whole -/

theorem bind_eq_ok_iff {next : α → Reading β} {b : β} :
    reading >>= next = .ok b ↔ ∃ a, reading = .ok a ∧ next a = .ok b := by
  cases reading with
  | ok a =>
    refine ⟨fun h => ⟨a, rfl, h⟩, ?_⟩
    rintro ⟨_, heq, h⟩
    cases heq
    exact h
  | error trouble =>
    refine ⟨fun h => ?_, ?_⟩
    · cases h
    · rintro ⟨_, heq, -⟩
      cases heq

theorem map_eq_ok_iff {f : α → β} {b : β} :
    reading.map f = .ok b ↔ ∃ a, reading = .ok a ∧ f a = b := by
  cases reading with
  | ok a => simp [Except.map]
  | error trouble => simp [Except.map]

theorem map_eq_error_iff {f : α → β} {trouble : Trouble} :
    reading.map f = .error trouble ↔ reading = .error trouble := by
  cases reading with
  | ok a => simp [Except.map]
  | error trouble => simp [Except.map]

/-! ## Readings without a fault -/

/-- A reading that succeeds or refuses the line. -/
def FaultFree (reading : Reading α) : Prop :=
  ∀ fault, reading ≠ .error (.fault fault)

namespace FaultFree

theorem ok (a : α) : FaultFree (.ok a) := by
  intro fault h
  cases h

theorem refuse (error : LineError) : FaultFree (refuse error : Reading α) := by
  intro fault h
  cases h

theorem bind {next : α → Reading β} (h : FaultFree reading) (hnext : ∀ a, FaultFree (next a)) :
    FaultFree (reading >>= next) := by
  cases reading with
  | ok a => exact hnext a
  | error trouble =>
    cases trouble with
    | line error => exact refuse error
    | fault fault => exact absurd rfl (h fault)

theorem map (f : α → β) (h : FaultFree reading) : FaultFree (reading.map f) :=
  fun fault hmap => h fault (map_eq_error_iff.mp hmap)

end FaultFree

/-! ## Reasons for refusals -/

/-- A reading that refuses the line for errors of some sort only. -/
def RefusesFor (reason : LineError → Prop) (reading : Reading α) : Prop :=
  ∀ error, reading = .error (.line error) → reason error

namespace RefusesFor

variable {reason : LineError → Prop}

theorem ok (a : α) : RefusesFor reason (.ok a) := by
  intro error h
  cases h

theorem fault (fault : Fault) : RefusesFor reason (.error (.fault fault) : Reading α) := by
  intro error h
  cases h

theorem refuse {error : LineError} (h : reason error) : RefusesFor reason (refuse error : Reading α) := by
  rintro _ ⟨⟩
  exact h

theorem bind {next : α → Reading β} (h : RefusesFor reason reading)
    (hnext : ∀ a, reading = .ok a → RefusesFor reason (next a)) : RefusesFor reason (reading >>= next) := by
  cases reading with
  | ok a => exact hnext a rfl
  | error trouble =>
    rintro error ⟨⟩
    exact h error rfl

theorem map (f : α → β) (h : RefusesFor reason reading) : RefusesFor reason (reading.map f) :=
  fun error hmap => h error (map_eq_error_iff.mp hmap)

end RefusesFor

end Chronicle.Script
