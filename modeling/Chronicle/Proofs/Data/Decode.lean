import Chronicle.Data.Decode
import Mathlib.Data.List.Forall2

/-!
# Reading data that is sound

Reading a value collects problems.  A result without problems says that every part was read without any, and
this is an equivalence for each way of putting readers together: one after the other, field by field, and
element by element (`required_eq_sound_iff`, `closedRecord_eq_sound_iff`, `elements_eq_sound_iff`).  Read from
left to right it takes a value apart that was accepted, and from right to left it accepts one.

Values that are written for a basic reader are read back as they were.  Not everything can be written.  What can be
and is read back *survives*, and a list does so when its elements do (`exists_elements`).
-/

namespace Chronicle.Data

variable {α β : Type}

/-! ## Checks put together -/

namespace Checked

theorem map_eq_sound_iff {f : α → β} {a : Checked α} {b : β} :
    a.map f = .sound b ↔ ∃ x, a = .sound x ∧ f x = b := by
  cases a with
  | sound x => simp [map]
  | faulty ps => simp [map]

theorem fmap_eq_sound_iff {f : α → β} {a : Checked α} {b : β} :
    f <$> a = .sound b ↔ ∃ x, a = .sound x ∧ f x = b :=
  map_eq_sound_iff

theorem seq_eq_sound_iff {f : Checked (α → β)} {a : Checked α} {b : β} :
    f <*> a = .sound b ↔ ∃ g x, f = .sound g ∧ a = .sound x ∧ g x = b := by
  cases f with
  | sound g =>
    cases a with
    | sound x => simp
    | faulty qs =>
      constructor
      · intro h
        cases h
      · rintro ⟨_, _, _, ⟨⟩, _⟩
  | faulty ps =>
    constructor
    · intro h
      cases a <;> cases h
    · rintro ⟨_, _, ⟨⟩, _⟩

theorem andThen_eq_sound_iff {a : Checked α} {f : α → Checked β} {b : β} :
    a.andThen f = .sound b ↔ ∃ x, a = .sound x ∧ f x = .sound b := by
  cases a with
  | sound x => simp [andThen]
  | faulty ps => simp [andThen]

@[simp] theorem under_sound (step : PathStep) (x : α) : (Checked.sound x).under step = .sound x := rfl

theorem under_eq_sound_iff {step : PathStep} {a : Checked α} {x : α} :
    a.under step = .sound x ↔ a = .sound x := by
  cases a with
  | sound y => simp [under]
  | faulty ps => simp [under]

end Checked

open Checked

/-! ## Records -/

variable {read : Value → Checked α} {a : α} {v : Value} {fields : List (String × Value)}
  {name other : String}

theorem lookup_cons_of_ne (h : name ≠ other) :
    List.lookup name ((other, v) :: fields) = fields.lookup name := by
  rw [List.lookup_cons, beq_false_of_ne h]

@[simp] theorem required_cons_self :
    required ((name, v) :: fields) name read = (read v).under (.field name) := by
  rw [required, List.lookup_cons_self]

@[simp] theorem required_cons_of_ne (h : name ≠ other) :
    required ((other, v) :: fields) name read = required fields name read := by
  rw [required, required, lookup_cons_of_ne h]

@[simp] theorem optionalField_cons_self {absent : α} :
    optionalField ((name, v) :: fields) name absent read = (read v).under (.field name) := by
  rw [optionalField, List.lookup_cons_self]

@[simp] theorem optionalField_cons_of_ne {absent : α} (h : name ≠ other) :
    optionalField ((other, v) :: fields) name absent read =
      optionalField fields name absent read := by
  rw [optionalField, optionalField, lookup_cons_of_ne h]

theorem required_eq_sound_iff :
    required fields name read = .sound a ↔
      ∃ v, fields.lookup name = some v ∧ read v = .sound a := by
  rw [required]
  cases fields.lookup name with
  | none => simp [under_eq_sound_iff, fail]
  | some v => simp [under_eq_sound_iff]

theorem optionalField_eq_sound_iff {absent : α} :
    optionalField fields name absent read = .sound a ↔
      (∃ v, fields.lookup name = some v ∧ read v = .sound a) ∨
        fields.lookup name = none ∧ a = absent := by
  rw [optionalField]
  cases fields.lookup name with
  | none => simp [eq_comm]
  | some v => simp [under_eq_sound_iff]

theorem onlyFields_eq_sound_iff {names : List String} {u : Unit} :
    onlyFields names fields = .sound u ↔ ∀ field ∈ fields, field.1 ∈ names := by
  rw [onlyFields]
  split
  · next hnone => simpa [List.filter_eq_nil_iff] using hnone
  · next hsome =>
    constructor
    · intro h
      cases h
    · intro h
      refine absurd ?_ hsome
      simpa [List.filter_eq_nil_iff] using h

theorem closedRecord_eq_sound_iff {names : List String} {read : List (String × Value) → Checked α} :
    v.closedRecord names read = .sound a ↔
      ∃ fields, v = .record fields ∧ read fields = .sound a ∧
        ∀ field ∈ fields, field.1 ∈ names := by
  cases v with
  | record fields =>
    rw [Value.closedRecord, map_eq_sound_iff]
    constructor
    · rintro ⟨⟨x, u⟩, hboth, rfl⟩
      obtain ⟨hread, honly⟩ := both_eq_sound_iff.mp hboth
      exact ⟨fields, rfl, hread, onlyFields_eq_sound_iff.mp honly⟩
    · rintro ⟨_, ⟨⟩, hread, honly⟩
      exact ⟨(a, ()), both_eq_sound_iff.mpr ⟨hread, onlyFields_eq_sound_iff.mpr honly⟩, rfl⟩
  | _ => simp [Value.closedRecord, fail]

/-! ## Lists and absent values -/

theorem readElements_eq_sound_iff {position : Nat} {values : List Value} {as : List α} :
    readElements read position values = .sound as ↔
      List.Forall₂ (fun v a => read v = .sound a) values as := by
  induction values generalizing position as with
  | nil => simp [readElements, eq_comm]
  | cons v rest ih =>
    rw [readElements, map_eq_sound_iff]
    constructor
    · rintro ⟨⟨x, more⟩, hboth, rfl⟩
      obtain ⟨hfirst, hmore⟩ := both_eq_sound_iff.mp hboth
      exact .cons (under_eq_sound_iff.mp hfirst) (ih.mp hmore)
    · rintro (_ | ⟨hfirst, hmore⟩)
      exact ⟨(_, _), both_eq_sound_iff.mpr ⟨under_eq_sound_iff.mpr hfirst, ih.mpr hmore⟩, rfl⟩

theorem elements_eq_sound_iff {as : List α} :
    v.elements read = .sound as ↔
      ∃ values, v = .list values ∧ List.Forall₂ (fun v a => read v = .sound a) values as := by
  cases v with
  | list values => simp [Value.elements, readElements_eq_sound_iff]
  | _ => simp [Value.elements, fail]

/-- Every element of a list that was accepted was accepted itself. -/
theorem exists_read_of_mem {as : List α} (h : v.elements read = .sound as) (ha : a ∈ as) :
    ∃ v, read v = .sound a := by
  obtain ⟨values, -, hall⟩ := elements_eq_sound_iff.mp h
  obtain ⟨i, hi, rfl⟩ := List.mem_iff_getElem.mp ha
  have hlength := hall.length_eq
  exact ⟨values[i], (List.forall₂_iff_get.mp hall).2 i (by omega) hi⟩

/-- A list is read back when its elements are. -/
theorem elements_map {write : α → Value} {as : List α}
    (h : ∀ a ∈ as, read (write a) = .sound a) :
    (Value.list (as.map write)).elements read = .sound as := by
  refine elements_eq_sound_iff.mpr ⟨_, rfl, ?_⟩
  rw [List.forall₂_map_left_iff, List.forall₂_same]
  exact h

/-- A value is written, and what is written is read as this value. -/
def Survives (write : α → Option Value) (read : Value → Checked α) (a : α) : Prop :=
  ∃ v, write a = some v ∧ read v = .sound a

/-- A list is written when every element of it is. -/
theorem exists_mapM {write : α → Option β} {R : α → β → Prop} {as : List α}
    (h : ∀ a ∈ as, ∃ b, write a = some b ∧ R a b) : ∃ bs, as.mapM write = some bs ∧ List.Forall₂ R as bs := by
  induction as with
  | nil => exact ⟨[], rfl, .nil⟩
  | cons a rest ih =>
    obtain ⟨ha, hrest⟩ := List.forall_mem_cons.mp h
    obtain ⟨b, hwrite, hb⟩ := ha
    obtain ⟨bs, hbs, hall⟩ := ih hrest
    refine ⟨b :: bs, ?_, .cons hb hall⟩
    rw [List.mapM_cons, hwrite, hbs]
    rfl

/-- A list survives when every element of it does. -/
theorem exists_elements {write : α → Option Value} {as : List α} (h : ∀ a ∈ as, Survives write read a) :
    ∃ values, as.mapM write = some values ∧ (Value.list values).elements read = .sound as := by
  obtain ⟨values, hwrite, hread⟩ := exists_mapM h
  exact ⟨values, hwrite, elements_eq_sound_iff.mpr ⟨values, rfl, hread.flip⟩⟩

theorem optional_eq_sound_some_iff :
    v.optional read = .sound (some a) ↔ v ≠ .null ∧ read v = .sound a := by
  cases v <;> simp [Value.optional, map_eq_sound_iff]

/-- A value that may be absent is read back when one that is there is read back, and is not null. -/
theorem optional_eq_sound {write : Option α → Value} {x : Option α} (habsent : write none = .null)
    (hsome : ∀ a ∈ x, write (some a) ≠ .null ∧ read (write (some a)) = .sound a) :
    (write x).optional read = .sound x := by
  cases x with
  | none => rw [habsent, Value.optional]
  | some a => exact optional_eq_sound_some_iff.mpr (hsome a rfl)

/-- What is read for a field that may be absent was accepted, unless it is absent. -/
theorem exists_read_of_optionalField
    (h : optionalField fields name none (Value.optional read) = .sound (some a)) :
    ∃ v, read v = .sound a := by
  rcases optionalField_eq_sound_iff.mp h with ⟨v, -, hread⟩ | ⟨-, habsent⟩
  · exact ⟨v, (optional_eq_sound_some_iff.mp hread).2⟩
  · cases habsent

theorem exists_read_of_mem_optionalField {as : List α}
    (h : optionalField fields name [] (Value.elements read) = .sound as) (ha : a ∈ as) :
    ∃ v, read v = .sound a := by
  rcases optionalField_eq_sound_iff.mp h with ⟨v, -, hread⟩ | ⟨-, rfl⟩
  · exact exists_read_of_mem hread ha
  · cases ha

/-! ## Basic values -/

@[simp] theorem string_text (s : String) : (Value.text s).string = .sound s := rfl

@[simp] theorem integer_int (n : Int) : (Value.int n).integer = .sound n := rfl

@[simp] theorem truth_bool (b : Bool) : (Value.bool b).truth = .sound b := rfl

theorem natural_int {least n : Nat} (h : least ≤ n) :
    (Value.int n).natural least = .sound n := by
  rw [Value.natural, integer_int, andThen, if_neg (by omega), Int.toNat_natCast]

theorem positive_int {n : Nat} (h : 0 < n) : (Value.int n).positive = .sound n := by
  rw [Value.positive, integer_int, andThen, if_neg (by omega), Int.toNat_natCast]

theorem le_of_natural {least n : Nat} (h : v.natural least = .sound n) : least ≤ n := by
  obtain ⟨k, -, h⟩ := andThen_eq_sound_iff.mp h
  split at h
  · cases h
  · cases h
    omega

theorem pos_of_positive {n : Nat} (h : v.positive = .sound n) : 0 < n := by
  obtain ⟨k, -, h⟩ := andThen_eq_sound_iff.mp h
  split at h
  · cases h
  · cases h
    omega

@[simp] theorem optional_ofText? (s : Option String) :
    (Value.ofText? s).optional Value.string = .sound s := by
  cases s <;> rfl

end Chronicle.Data
