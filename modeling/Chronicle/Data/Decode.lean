import Chronicle.Data.IntegerText
import Chronicle.Data.Problem
import Chronicle.Data.Value

/-!
# Reading basic values

Values are read leniently.  An integer may come as a truth value, as a number with a decimal point but
without a fraction, or as a text of digits.  A truth value may come as 0 or 1 or as one of a few words.
Texts and lists are only taken as they are.

Records are read field by field.  A field is looked up by name, its problems are put under that
name, and a separate check reports the fields that nobody asked for.
-/

namespace Chronicle.Data

/-! ## Integers -/

/-- Whether an integer takes no more than 64 binary digits with its sign. -/
def isMachineSize (n : Int) : Bool := decide (-9223372036854775808 ≤ n ∧ n < 9223372036854775808)

/-- The integer that a number with a decimal point stands for.  One that takes more than 63 binary digits
is too large. -/
def readWhole (mantissa : Int) (places : Nat) : Checked Int :=
  match (Binary.ofDecimal mantissa places).whole? with
  | none => .fail .fraction
  | some n => if n.natAbs < 9223372036854775808 then .sound n else .fail .tooLarge

def Value.integer : Value → Checked Int
  | .int n => .sound n
  | .bool b => .sound (if b then 1 else 0)
  | .decimal mantissa places => readWhole mantissa places
  | .text s =>
    match readInteger s with
    | .integer n => .sound n
    | .tooLarge => .fail .tooLarge
    | .noInteger => .fail .integerText
  | .null | .list _ | .record _ => .fail .notInteger

/-- Reads an integer that is not below `least`. -/
def Value.natural (least : Nat) (v : Value) : Checked Nat :=
  v.integer.andThen fun n => if n < least then .fail .tooSmall else .sound n.toNat

/-- Reads an integer above zero. -/
def Value.positive (v : Value) : Checked Nat :=
  v.integer.andThen fun n => if n ≤ 0 then .fail .notPositive else .sound n.toNat

/-! ## Truth values, texts and lists -/

/-- The words for false, in lower case. -/
def falseWords : List String := ["0", "off", "f", "false", "n", "no"]

/-- The words for true, in lower case. -/
def trueWords : List String := ["1", "on", "t", "true", "y", "yes"]

/-- Reads a word for a truth value, in any case of ASCII letters. -/
def readTruth? (s : String) : Option Bool :=
  let word := String.ofList (s.toList.map Char.toLower)
  if falseWords.contains word then some false
  else if trueWords.contains word then some true
  else none

/-- The truth value that an integer stands for. -/
def truthOfInt (n : Int) : Checked Bool :=
  if n = 0 then .sound false else if n = 1 then .sound true else .fail .truthText

/-- Reads a truth value.  A number that is no integer, or too large for one, is of another kind. -/
def Value.truth : Value → Checked Bool
  | .bool b => .sound b
  | .int n => if isMachineSize n then truthOfInt n else .fail .notTruth
  | .decimal mantissa places =>
    match readWhole mantissa places with
    | .sound n => truthOfInt n
    | .faulty _ => .fail .notTruth
  | .text s =>
    match readTruth? s with
    | some b => .sound b
    | none => .fail .truthText
  | .null | .list _ | .record _ => .fail .notTruth

/-- Reads a text. -/
def Value.string : Value → Checked String
  | .text s => .sound s
  | _ => .fail .notText

/-- Reads one of some fixed words. -/
def Value.word (allowed : List String) : Value → Checked String
  | .text s => if allowed.contains s then .sound s else .fail .notAllowed
  | _ => .fail .notAllowed

/-- Reads a value that may be absent, which is written as null. -/
def Value.optional {α : Type} (read : Value → Checked α) : Value → Checked (Option α)
  | .null => .sound none
  | v => (read v).map some

/-- Reads the elements of a list, the first of which has the given position. -/
def readElements {α : Type} (read : Value → Checked α) : (position : Nat) → List Value →
    Checked (List α)
  | _, [] => .sound []
  | i, v :: rest =>
    (((read v).under (.index i)).both (readElements read (i + 1) rest)).map fun (a, as) => a :: as

def Value.elements {α : Type} (read : Value → Checked α) : Value → Checked (List α)
  | .list values => readElements read 0 values
  | _ => .fail .notList

/-! ## Records -/

/-- Reads a field that must be there. -/
def required {α : Type} (fields : List (String × Value)) (name : String)
    (read : Value → Checked α) : Checked α :=
  match fields.lookup name with
  | some v => (read v).under (.field name)
  | none => (Checked.fail .missing).under (.field name)

/-- Reads a field that has a default. -/
def optionalField {α : Type} (fields : List (String × Value)) (name : String) (absent : α)
    (read : Value → Checked α) : Checked α :=
  match fields.lookup name with
  | some v => (read v).under (.field name)
  | none => .sound absent

/-- Reports every field whose name is not in a list. -/
def onlyFields (names : List String) (fields : List (String × Value)) : Checked Unit :=
  match fields.filter fun (name, _) => !names.contains name with
  | [] => .sound ()
  | others => .faulty (others.map fun (name, _) => ⟨[.field name], .unknownField⟩)

/-- Reads a record with the given fields and no others. -/
def Value.closedRecord {α : Type} (names : List String)
    (read : List (String × Value) → Checked α) : Value → Checked α
  | .record fields => ((read fields).both (onlyFields names fields)).map (·.1)
  | _ => .fail .notRecord

end Chronicle.Data
