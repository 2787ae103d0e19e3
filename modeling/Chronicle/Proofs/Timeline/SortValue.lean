import Chronicle.Timeline.Order
import Mathlib.Data.Char
import Mathlib.Data.Int.Order.Basic
import Mathlib.Data.List.Lex

/-!
# What items are ordered by

`Item.HasValue` lists what an item has under which name, and `SortValue.Smaller` says which of two values is the
smaller one.  The look-up and the comparison of the sort are read as these two relations (`Item.hasValue_iff`,
`SortValue.isBelow_eq_ok`).

Under one name all values are numbers or all are texts, and one of two different ones is smaller; or all are objects of
one type, which have no order (`Item.sameSort_or_object`).
-/

namespace Chronicle.Timeline

open Chronicle.Data Chronicle.Text

variable {attributes : KindAttributes}

/-! ## What items have under a name -/

/-- The names of what each item has of its own. -/
def fieldNames : List String :=
  ["id", "content", "start", "end", "group", "color", "description", "link", "source_line", "kind", "render_type"]

/-- A value that an item has under a name: a date as its timestamp, and a text with case folded away.  What its kind
has counts under the other names. -/
inductive Item.HasValue (attributes : KindAttributes) (item : Item) : String → SortValue → Prop
  | id : item.HasValue attributes "id" (.number item.id)
  | content : item.HasValue attributes "content" (.text (fold item.content.toList))
  | start : item.HasValue attributes "start" (.number item.start.timestamp)
  | stop {m : Calendar.Moment} (h : item.extent.stop? = some m) : item.HasValue attributes "end" (.number m.timestamp)
  | lane {n : Int} (h : item.lane = some n) : item.HasValue attributes "group" (.number n)
  | color {s : String} (h : item.color = some s) : item.HasValue attributes "color" (.text (fold s.toList))
  | description {s : String} (h : item.description = some s) :
      item.HasValue attributes "description" (.text (fold s.toList))
  | link {s : String} (h : item.link = some s) : item.HasValue attributes "link" (.text (fold s.toList))
  | sourceLine : item.HasValue attributes "source_line" (.number item.sourceLine)
  | kind : item.HasValue attributes "kind" (.text (fold item.extent.kind.name.toList))
  | shape : item.HasValue attributes "render_type" (.text (fold item.extent.shapeName.toList))
  | kindNumber {name : String} {ofKind : ItemKind → Int} (hname : name ∉ fieldNames)
      (h : attributes name = some (.number ofKind)) : item.HasValue attributes name (.number (ofKind item.extent.kind))
  | kindText {name : String} {ofKind : ItemKind → String} (hname : name ∉ fieldNames)
      (h : attributes name = some (.text ofKind)) :
      item.HasValue attributes name (.text (fold (ofKind item.extent.kind).toList))
  | kindObject {name type : String} (hname : name ∉ fieldNames) (h : attributes name = some (.object type)) :
      item.HasValue attributes name (.object type)

namespace Item

variable {item : Item} {name : String} {x y : SortValue}

theorem sortValue?_of_not_mem_fieldNames (h : name ∉ fieldNames) :
    item.sortValue? attributes name = (attributes name).map (KindAttribute.sortValue item.extent.kind) := by
  unfold sortValue?
  split
  case h_12 => rfl
  all_goals exact absurd (by decide) h

theorem hasValue_iff : item.HasValue attributes name x ↔ item.sortValue? attributes name = some x := by
  constructor
  · intro h
    cases h with
    | id | content | start | sourceLine | kind | shape => rfl
    | stop h | lane h => simp only [sortValue?, h, Option.map_some]
    | color h | description h | link h => simp only [sortValue?, h, Option.map_some, SortValue.ofString]
    | kindNumber hname h | kindText hname h | kindObject hname h =>
      rw [sortValue?_of_not_mem_fieldNames hname, h]
      rfl
  · intro h
    by_cases hname : name ∈ fieldNames
    · have hoptional {α : Type} {value? : Option α} {f : α → SortValue} (h : value?.map f = some x) :
          ∃ a, value? = some a ∧ f a = x := Option.map_eq_some_iff.mp h
      simp only [fieldNames, List.mem_cons, List.not_mem_nil, or_false] at hname
      rcases hname with rfl | rfl | rfl | rfl | rfl | rfl | rfl | rfl | rfl | rfl | rfl
      · exact Option.some.inj h ▸ .id
      · exact Option.some.inj h ▸ .content
      · exact Option.some.inj h ▸ .start
      · obtain ⟨m, hm, rfl⟩ := hoptional h
        exact .stop hm
      · obtain ⟨n, hn, rfl⟩ := hoptional h
        exact .lane hn
      · obtain ⟨s, hs, rfl⟩ := hoptional h
        exact .color hs
      · obtain ⟨s, hs, rfl⟩ := hoptional h
        exact .description hs
      · obtain ⟨s, hs, rfl⟩ := hoptional h
        exact .link hs
      · exact Option.some.inj h ▸ .sourceLine
      · exact Option.some.inj h ▸ .kind
      · exact Option.some.inj h ▸ .shape
    · rw [sortValue?_of_not_mem_fieldNames hname] at h
      obtain ⟨shared, hshared, rfl⟩ := Option.map_eq_some_iff.mp h
      cases shared with
      | number ofKind => exact .kindNumber hname hshared
      | text ofKind => exact .kindText hname hshared
      | object type => exact .kindObject hname hshared

theorem HasValue.unique (hx : item.HasValue attributes name x) (hy : item.HasValue attributes name y) : x = y := by
  rw [hasValue_iff] at hx hy
  exact Option.some.inj (hx.symm.trans hy)

/-- Where one item has an object, all items do. -/
theorem HasValue.object {type : String} (h : item.HasValue attributes name (.object type)) (other : Item) :
    other.HasValue attributes name (.object type) := by
  cases h with
  | kindObject hname h => exact .kindObject hname h

end Item

/-! ## Comparing values -/

/-- Whether one value is smaller than another: numbers by size, and texts by their first code points that
differ. -/
def SortValue.Smaller : SortValue → SortValue → Prop
  | .number a, .number b => a < b
  | .text a, .text b => a < b
  | _, _ => False

theorem textBefore_iff {as bs : List Char} : textBefore as bs = true ↔ as < bs := by
  induction as generalizing bs with
  | nil =>
    cases bs with
    | nil => simp [textBefore]
    | cons b rest => simp [textBefore]
  | cons a tail ih =>
    cases bs with
    | nil => simp [textBefore]
    | cons b rest =>
      have hlt (c d : Char) : c < d ↔ c.toNat < d.toNat := Iff.rfl
      rw [textBefore, List.cons_lt_cons_iff, ← ih, hlt]
      split
      · next hab => simp [hab]
      · next hab =>
        split
        · next hba =>
          have hne : a ≠ b := by
            rintro rfl
            exact hab hba
          simp [hab, hne]
        · next hba =>
          have heq : a = b := Char.toNat_inj.mp (by omega)
          simp [heq]

namespace SortValue

variable {x y z : SortValue}

/-- Two numbers, or two texts. -/
inductive SameSort : SortValue → SortValue → Prop
  | number (a b : Int) : SameSort (.number a) (.number b)
  | text (as bs : List Char) : SameSort (.text as) (.text bs)

theorem SameSort.symm (h : x.SameSort y) : y.SameSort x := by
  cases h with
  | number a b => exact .number b a
  | text as bs => exact .text bs as

theorem Smaller.sameSort (h : x.Smaller y) : x.SameSort y :=
  match x, y, h with
  | .number a, .number b, _ => .number a b
  | .text as, .text bs, _ => .text as bs

theorem isBelow_eq_ok (h : x.SameSort y) : ∃ answer, x.isBelow y = .ok answer ∧ (answer = true ↔ x.Smaller y) := by
  cases h with
  | number a b => exact ⟨decide (a < b), rfl, decide_eq_true_iff⟩
  | text as bs => exact ⟨textBefore as bs, rfl, textBefore_iff⟩

theorem smaller_trichotomy (h : x.SameSort y) : x.Smaller y ∨ x = y ∨ y.Smaller x := by
  cases h with
  | number a b => simpa [Smaller] using lt_trichotomy a b
  | text as bs => simpa [Smaller] using lt_trichotomy as bs

theorem Smaller.asymm (h : x.Smaller y) : ¬y.Smaller x := by
  cases h.sameSort with
  | number a b => exact Int.lt_asymm h
  | text as bs => exact lt_asymm h

theorem Smaller.trans (hxy : x.Smaller y) (hyz : y.Smaller z) : x.Smaller z := by
  cases hxy.sameSort with
  | number a b =>
    cases hyz.sameSort with
    | number _ c => exact Int.lt_trans hxy hyz
  | text as bs =>
    cases hyz.sameSort with
    | text _ cs => exact lt_trans hxy hyz

/-- A value between two others of its sort differs from one of them. -/
theorem Smaller.split (h : x.Smaller z) (hsort : x.SameSort y) : x.Smaller y ∨ y.Smaller z := by
  rcases smaller_trichotomy hsort with hlt | rfl | hgt
  · exact .inl hlt
  · exact .inr h
  · exact .inr (hgt.trans h)

end SortValue

theorem Item.sameSort_or_object {name : String} {a b : Item} {x y : SortValue} (ha : a.HasValue attributes name x)
    (hb : b.HasValue attributes name y) : x.SameSort y ∨ ∃ type, x = .object type ∧ y = .object type := by
  rw [Item.hasValue_iff] at ha hb
  unfold Item.sortValue? at ha
  split at ha
  all_goals simp only [Item.sortValue?] at hb
  case h_1 | h_3 | h_9 =>
    cases ha
    cases hb
    exact .inl (.number _ _)
  case h_2 | h_10 | h_11 =>
    cases ha
    cases hb
    exact .inl (.text _ _)
  case h_4 | h_5 | h_6 | h_7 | h_8 =>
    obtain ⟨_, -, rfl⟩ := Option.map_eq_some_iff.mp ha
    obtain ⟨_, -, rfl⟩ := Option.map_eq_some_iff.mp hb
    first | exact .inl (.number _ _) | exact .inl (.text _ _)
  case h_12 =>
    obtain ⟨shared, hshared, rfl⟩ := Option.map_eq_some_iff.mp ha
    rw [hshared, Option.map_some, Option.some.injEq] at hb
    subst hb
    cases shared with
    | number ofKind => exact .inl (.number _ _)
    | text ofKind => exact .inl (.text _ _)
    | object type => exact .inr ⟨type, rfl, rfl⟩

end Chronicle.Timeline
