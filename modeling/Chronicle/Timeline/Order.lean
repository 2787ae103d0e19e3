import Chronicle.Data.StableSort
import Chronicle.Text.Case
import Chronicle.Timeline.Item

/-!
# Ordering items

A sort key is the name of a field, behind a hyphen for descending order.  Items are ordered by
the first key, those equal in it by the second, and so on.  Items equal in every key keep their order.
An item without a value for a key comes after those with one, in both directions.

Dates compare by time, numbers by size, and texts by code points with case folded away.  The last key
is sorted by first, so that each stable sort by a more important key keeps the order below it.

A name need not be that of a field.  Items of one kind also answer to the names that the kind itself has, such as its
operations.  What these are is up to a host (`KindAttributes`).  Objects that have no order cannot be compared, and
then there is no sorting by them.  What a single item has beside its fields, such as a record of the ones it was given,
is not modelled.
-/

namespace Chronicle.Timeline

open Chronicle.Data Chronicle.Text

/-! ## Keys -/

structure SortKey where
  field : String
  descending : Bool
  deriving DecidableEq, Repr

def SortKey.ofString (s : String) : SortKey :=
  match s.toList with
  | '-' :: name => ⟨String.ofList name, true⟩
  | _ => ⟨s, false⟩

/-! ## Values -/

/-- What items are compared by. -/
inductive SortValue where
  /-- A number, or a date as its timestamp. -/
  | number (n : Int)
  /-- A text with case folded away. -/
  | text (cs : List Char)
  /-- An object without an order, of a type with this name. -/
  | object (type : String)
  deriving DecidableEq, Repr

namespace SortValue

def ofString (s : String) : SortValue := .text (fold s.toList)

/-- The name of the type of a value. -/
def typeName : SortValue → String
  | number _ => "int"
  | text _ => "str"
  | object type => type

end SortValue

/-- Two values that cannot be compared, by their types. -/
structure Incomparable where
  left : String
  right : String
  deriving DecidableEq, Repr

/-- Whether one text comes before another, by code points. -/
def textBefore : List Char → List Char → Bool
  | _, [] => false
  | [], _ :: _ => true
  | c :: cs, d :: ds =>
    if c.toNat < d.toNat then true else if d.toNat < c.toNat then false else textBefore cs ds

/-- Whether one value is smaller than another, if they can be compared. -/
def SortValue.isBelow : SortValue → SortValue → Except Incomparable Bool
  | .number a, .number b => .ok (a < b)
  | .text a, .text b => .ok (textBefore a b)
  | x, y => .error ⟨x.typeName, y.typeName⟩

/-- What the items of a kind have in common under a name. -/
inductive KindAttribute where
  | number (ofKind : ItemKind → Int)
  | text (ofKind : ItemKind → String)
  | object (type : String)

def KindAttribute.sortValue (kind : ItemKind) : KindAttribute → SortValue
  | .number ofKind => .number (ofKind kind)
  | .text ofKind => .ofString (ofKind kind)
  | .object type => .object type

/-- The names that items answer to beside those of their fields. -/
abbrev KindAttributes := String → Option KindAttribute

/-- What an item has under a name.  A field hides what the kind has under the same name. -/
def Item.sortValue? (attributes : KindAttributes) (name : String) (item : Item) : Option SortValue :=
  match name with
  | "id" => some (.number item.id)
  | "content" => some (.ofString item.content)
  | "start" => some (.number item.start.timestamp)
  | "end" => item.extent.stop?.map fun m => .number m.timestamp
  | "group" => item.lane.map .number
  | "color" => item.color.map .ofString
  | "description" => item.description.map .ofString
  | "link" => item.link.map .ofString
  | "source_line" => some (.number item.sourceLine)
  | "kind" => some (.ofString item.extent.kind.name)
  | "render_type" => some (.ofString item.extent.shapeName)
  | _ => (attributes name).map (KindAttribute.sortValue item.extent.kind)

/-! ## Sorting -/

/-- Whether a key puts one item before another, both having a value for it. -/
def SortKey.putsBefore (attributes : KindAttributes) (key : SortKey) (a b : Item) : Except Incomparable Bool :=
  match a.sortValue? attributes key.field, b.sortValue? attributes key.field with
  | some x, some y => if key.descending then y.isBelow x else x.isBelow y
  | _, _ => .ok false

def sortByKey (attributes : KindAttributes) (key : SortKey) (items : List Item) : Except Incomparable (List Item) := do
  let present (item : Item) : Bool := (item.sortValue? attributes key.field).isSome
  let sorted ← tryStableSort (key.putsBefore attributes) (items.filter present)
  return sorted ++ items.filter (fun item => !present item)

/-- Orders items by keys, most important first. -/
def orderItems (attributes : KindAttributes) (keys : List String) (items : List Item) :
    Except Incomparable (List Item) :=
  keys.foldrM (fun key ordered => sortByKey attributes (.ofString key) ordered) items

end Chronicle.Timeline
