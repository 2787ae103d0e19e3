import Chronicle.Data.Binary

/-!
# Data values

The values that come in from outside and go out again: null, truth values, numbers, texts, lists and
records.  A record keeps its fields in the order in which they are written.  A number with a decimal
point is kept as it is written, as a mantissa over a power of ten.  It is a different value from the
integer of the same size, and it counts with the precision of `Binary`.
-/

namespace Chronicle.Data

inductive Value where
  | null
  | bool (b : Bool)
  | int (n : Int)
  /-- The number `mantissa / 10 ^ places`, written with a decimal point. -/
  | decimal (mantissa : Int) (places : Nat)
  | text (s : String)
  | list (values : List Value)
  | record (fields : List (String × Value))
  deriving Inhabited, Repr

namespace Value

/-- Whether the value stands for nothing: null, false, zero, or empty. -/
def isEmpty : Value → Bool
  | null | bool false => true
  | bool true => false
  | int n => n == 0
  | decimal mantissa places => (Binary.ofDecimal mantissa places).mantissa == 0
  | text s => s.isEmpty
  | list values => values.isEmpty
  | record fields => fields.isEmpty

/-- A text, or null when there is none. -/
def ofText? : Option String → Value
  | none => null
  | some s => text s

end Value

end Chronicle.Data
