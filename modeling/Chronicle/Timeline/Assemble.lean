import Chronicle.Data.Problem
import Chronicle.Timeline.Item

/-!
# Putting a timeline together

As soon as a script declares a lane, every item is drawn on one.  A lane with number 0 is added behind
the declared ones, and the items without a lane move there.  Without declared lanes nothing changes.

An item may not refer to a lane that is not in the list.  The first item that does is reported.
-/

namespace Chronicle.Timeline

open Chronicle.Data Chronicle.Text

/-- The lane of the items that declare none. -/
def defaultLane : Lane := ⟨0, " "⟩

/-- An item that refers to a lane which does not exist. -/
structure UnknownLane where
  item : Nat
  lane : Int
  deriving DecidableEq, Repr

/-- The message about an item on a lane which does not exist.  There is none when one of the two numbers cannot be
written. -/
def UnknownLane.message? (e : UnknownLane) : Option String := do
  return "item " ++ (← showInt? e.item) ++ " references unknown group " ++ (← showInt? e.lane)

/-- The defect of a timeline with such an item. -/
def UnknownLane.defect (e : UnknownLane) : Defect :=
  match e.message? with
  | some message => .rejected message
  | none => .overlong

/-- The lane that an item refers to, if it is not one of these. -/
def Item.unknownLane? (lanes : List Lane) (item : Item) : Option UnknownLane :=
  match item.lane with
  | none => none
  | some lane => if lanes.any (fun l => (l.id : Int) = lane) then none else some ⟨item.id, lane⟩

/-- The first item on a lane that the timeline does not have. -/
def unknownLane? (t : Timeline) : Option UnknownLane :=
  t.items.findSome? (Item.unknownLane? t.lanes)

/-- The timeline, if all its items are on lanes that it has. -/
def resolve (t : Timeline) : Except UnknownLane Timeline :=
  match t.unknownLane? with
  | some e => .error e
  | none => .ok t

/-- The item, moved to the default lane if it is on none. -/
def Item.onSomeLane (item : Item) : Item :=
  match item.lane with
  | none => { item with lane := some defaultLane.id }
  | some _ => item

/-- Puts a timeline together from its parts.  Options that are not given are the usual ones. -/
def assemble (items : List Item) (markers : List Marker) (lanes : List Lane) (flags : Flags)
    (locale : String := "en") (options : Option Options := none) : Except UnknownLane Timeline :=
  match lanes with
  | [] => resolve ⟨items, markers, [], flags, locale, options.getD {}⟩
  | _ =>
    resolve
      ⟨items.map Item.onSomeLane, markers, lanes ++ [defaultLane], flags, locale, options.getD {}⟩

end Chronicle.Timeline
