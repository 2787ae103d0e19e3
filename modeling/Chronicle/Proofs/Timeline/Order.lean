import Chronicle.Proofs.Data.StableSort
import Chronicle.Proofs.Timeline.SortValue
import Mathlib.Data.List.Forall2

/-!
# The order of ordered items

Ordering sorts by one key after another, the last one first.  What comes out is one order, said here without any
sorting: the first key that tells two items apart decides between them, and the place in the list decides when there
is none (`Precedes`).

*Keys.*  A key puts one item in front of another by what they have under its name (`SortKey.PutsFirst`).  Of two items
that differ on a key and have values that can be compared, the key puts one in front
(`SortKey.putsFirst_or_eq_or_putsFirst`).

*Places.*  A place is not part of an item, and the same item may be in a list twice.  So items are ordered together
with their places, and `orderPlaced` is the sort of items that carry theirs.  Each pass refines the order of the
passes before it by one more key (`pairwise_sortPlaced`), and the order before the first pass is that of the places.
Items never need their places to be sorted, so these can be forgotten afterwards (`orderItems_of_comparable`).

*Failure.*  A pass by a name of objects fails when there are two items to compare.  The last key of this kind is
sorted by first, so it is the one that the failure is about (`orderItems_of_unordered`).

The main statement is `orderItems_lexicographic`.
-/

namespace Chronicle.Timeline

open Chronicle.Data Chronicle.Text

variable {attributes : KindAttributes}

/-! ## Keys -/

namespace SortKey

/-- How a key is written: with a hyphen in front for descending order. -/
inductive Written : SortKey → String → Prop
  | ascending {name : String} (h : ∀ rest, name ≠ "-" ++ rest) : Written ⟨name, false⟩ name
  | descending (name : String) : Written ⟨name, true⟩ ("-" ++ name)

/-- Two items differ on a key: one of them has a value and the other has none or another. -/
def TellsApart (attributes : KindAttributes) (key : SortKey) (a b : Item) : Prop :=
  ∃ x, ¬(a.HasValue attributes key.field x ↔ b.HasValue attributes key.field x)

/-- A key puts one item in front of another.  An item without a value comes last in both directions. -/
inductive PutsFirst (attributes : KindAttributes) (key : SortKey) (a b : Item) : Prop
  | ascending {x y : SortValue} (hup : key.descending = false) (ha : a.HasValue attributes key.field x)
      (hb : b.HasValue attributes key.field y) (h : x.Smaller y)
  | descending {x y : SortValue} (hdown : key.descending = true) (ha : a.HasValue attributes key.field x)
      (hb : b.HasValue attributes key.field y) (h : y.Smaller x)
  | missing {x : SortValue} (ha : a.HasValue attributes key.field x)
      (hb : ∀ y, ¬b.HasValue attributes key.field y)

/-- What all items have under the name of a key are objects of this type. -/
def Unordered (attributes : KindAttributes) (key : SortKey) (type : String) : Prop :=
  ∀ item : Item, item.HasValue attributes key.field (.object type)

end SortKey

/-- One item comes before another when both carry their places: the first key on which they differ puts it in front,
or they differ on none and its place is in front. -/
inductive Precedes (attributes : KindAttributes) : List SortKey → Item × Nat → Item × Nat → Prop
  | place {a b : Item × Nat} (h : a.2 < b.2) : Precedes attributes [] a b
  | first {key : SortKey} {keys : List SortKey} {a b : Item × Nat} (h : key.PutsFirst attributes a.1 b.1) :
      Precedes attributes (key :: keys) a b
  | later {key : SortKey} {keys : List SortKey} {a b : Item × Nat} (hsame : ¬key.TellsApart attributes a.1 b.1)
      (h : Precedes attributes keys a b) : Precedes attributes (key :: keys) a b

namespace SortKey

variable {key : SortKey} {a b : Item}

theorem written_ofString (s : String) : (SortKey.ofString s).Written s := by
  unfold ofString
  split
  · next name h =>
    have hs : s = "-" ++ String.ofList name := by simp [← String.toList_inj, h]
    rw [hs]
    exact .descending _
  · next h =>
    refine .ascending fun rest hs => h rest.toList ?_
    simp [hs]

theorem Written.eq_ofString {s : String} (h : key.Written s) : key = SortKey.ofString s := by
  cases h with
  | ascending h =>
    unfold ofString
    split
    · next name hs =>
      refine absurd ?_ (h (String.ofList name))
      simp [← String.toList_inj, hs]
    · rfl
  | descending name => simp [ofString]

theorem tellsApart_iff :
    key.TellsApart attributes a b ↔ a.sortValue? attributes key.field ≠ b.sortValue? attributes key.field := by
  simp only [TellsApart, Item.hasValue_iff, ← not_forall, ne_eq, not_iff_not]
  exact Option.ext_iff.symm

theorem PutsFirst.tellsApart (h : key.PutsFirst attributes a b) : key.TellsApart attributes a b := by
  rw [tellsApart_iff]
  intro heq
  cases h with
  | ascending _ ha hb h | descending _ ha hb h =>
    rw [Item.hasValue_iff] at ha hb
    obtain rfl := Option.some.inj (ha.symm.trans (heq.trans hb))
    exact h.asymm h
  | missing ha hb =>
    rw [Item.hasValue_iff, heq, ← Item.hasValue_iff] at ha
    exact hb _ ha

theorem PutsFirst.exists_hasValue (h : key.PutsFirst attributes a b) : ∃ x, a.HasValue attributes key.field x := by
  cases h with
  | ascending _ ha _ _ | descending _ ha _ _ | missing ha _ => exact ⟨_, ha⟩

theorem putsFirst_iff_of_hasValue {x y : SortValue} (ha : a.HasValue attributes key.field x)
    (hb : b.HasValue attributes key.field y) :
    key.PutsFirst attributes a b ↔ if key.descending then y.Smaller x else x.Smaller y := by
  constructor
  · intro h
    cases h with
    | ascending hup ha' hb' h => simpa [hup, ha.unique ha', hb.unique hb'] using h
    | descending hdown ha' hb' h => simpa [hdown, ha.unique ha', hb.unique hb'] using h
    | missing _ hnone => exact absurd hb (hnone y)
  · intro h
    cases hdirection : key.descending with
    | false => exact .ascending hdirection ha hb (by simpa [hdirection] using h)
    | true => exact .descending hdirection ha hb (by simpa [hdirection] using h)

theorem PutsFirst.asymm (h : key.PutsFirst attributes a b) : ¬key.PutsFirst attributes b a := by
  intro hback
  obtain ⟨x, hx⟩ := h.exists_hasValue
  obtain ⟨y, hy⟩ := hback.exists_hasValue
  rw [putsFirst_iff_of_hasValue hx hy] at h
  rw [putsFirst_iff_of_hasValue hy hx] at hback
  split at h
  · next hdown => exact h.asymm (by simpa [hdown] using hback)
  · next hup => exact h.asymm (by simpa [hup] using hback)

/-! ## Comparing by a key -/

/-- What the comparison of a key answers, where it answers. -/
def isAhead (attributes : KindAttributes) (key : SortKey) (a b : Item) : Bool :=
  (key.putsBefore attributes a b).toOption.getD false

/-- Whether an item has a value for a key. -/
def isPresent (attributes : KindAttributes) (key : SortKey) (item : Item) : Bool :=
  (item.sortValue? attributes key.field).isSome

/-- A key by which items can be compared. -/
def Comparable (attributes : KindAttributes) (key : SortKey) : Prop := ∀ type, ¬key.Unordered attributes type

theorem exists_of_isPresent (h : key.isPresent attributes a = true) : ∃ x, a.HasValue attributes key.field x := by
  obtain ⟨x, hx⟩ := Option.isSome_iff_exists.mp h
  exact ⟨x, Item.hasValue_iff.mpr hx⟩

theorem Comparable.sameSort (hkey : key.Comparable attributes) {x y : SortValue}
    (ha : a.HasValue attributes key.field x) (hb : b.HasValue attributes key.field y) : x.SameSort y := by
  rcases Item.sameSort_or_object ha hb with hsort | ⟨type, rfl, rfl⟩
  · exact hsort
  · exact absurd ha.object (hkey type)

theorem putsBefore_of_hasValue {x y : SortValue} (ha : a.HasValue attributes key.field x)
    (hb : b.HasValue attributes key.field y) :
    key.putsBefore attributes a b = if key.descending then y.isBelow x else x.isBelow y := by
  rw [putsBefore, Item.hasValue_iff.mp ha, Item.hasValue_iff.mp hb]

/-- Of two items with values, the comparison of a key asks for the order in which the key puts them. -/
theorem Comparable.putsBefore_eq_ok (hkey : key.Comparable attributes) (ha : key.isPresent attributes a = true)
    (hb : key.isPresent attributes b = true) :
    key.putsBefore attributes a b = .ok (key.isAhead attributes a b) ∧
      (key.isAhead attributes a b = true ↔ key.PutsFirst attributes a b) := by
  obtain ⟨x, hx⟩ := exists_of_isPresent ha
  obtain ⟨y, hy⟩ := exists_of_isPresent hb
  have hsort := hkey.sameSort hx hy
  have hanswer : ∃ answer, key.putsBefore attributes a b = .ok answer ∧
      (answer = true ↔ key.PutsFirst attributes a b) := by
    rw [putsBefore_of_hasValue hx hy, putsFirst_iff_of_hasValue hx hy]
    split
    · exact SortValue.isBelow_eq_ok hsort.symm
    · exact SortValue.isBelow_eq_ok hsort
  obtain ⟨answer, hputs, hiff⟩ := hanswer
  have hahead : key.isAhead attributes a b = answer := by rw [isAhead, hputs]; rfl
  rw [hahead]
  exact ⟨hputs, hiff⟩

theorem putsBefore_of_unordered {type : String} (h : key.Unordered attributes type) :
    key.putsBefore attributes a b = .error ⟨type, type⟩ := by
  rw [putsBefore_of_hasValue (h a) (h b)]
  exact ite_self _

theorem putsFirst_or_eq_or_putsFirst (hkey : key.Comparable attributes) (ha : key.isPresent attributes a = true)
    (hb : key.isPresent attributes b = true) :
    key.PutsFirst attributes a b ∨ ¬key.TellsApart attributes a b ∨ key.PutsFirst attributes b a := by
  obtain ⟨x, hx⟩ := exists_of_isPresent ha
  obtain ⟨y, hy⟩ := exists_of_isPresent hb
  rw [putsFirst_iff_of_hasValue hx hy, putsFirst_iff_of_hasValue hy hx, tellsApart_iff, not_not,
    Item.hasValue_iff.mp hx, Item.hasValue_iff.mp hy, Option.some.injEq]
  rcases SortValue.smaller_trichotomy (hkey.sameSort hx hy) with hlt | heq | hgt
  · split
    · exact .inr (.inr hlt)
    · exact .inl hlt
  · exact .inr (.inl heq)
  · split
    · exact .inl hgt
    · exact .inr (.inr hgt)

theorem PutsFirst.split {c : Item} (h : key.PutsFirst attributes a c) (hkey : key.Comparable attributes)
    (hb : key.isPresent attributes b = true) (hc : key.isPresent attributes c = true) :
    key.PutsFirst attributes a b ∨ key.PutsFirst attributes b c := by
  obtain ⟨x, hx⟩ := h.exists_hasValue
  obtain ⟨y, hy⟩ := exists_of_isPresent hb
  obtain ⟨z, hz⟩ := exists_of_isPresent hc
  rw [putsFirst_iff_of_hasValue hx hz] at h
  rw [putsFirst_iff_of_hasValue hx hy, putsFirst_iff_of_hasValue hy hz]
  split
  · next hdown =>
    rw [if_pos hdown] at h
    exact (h.split (hkey.sameSort hz hy)).symm
  · next hup =>
    rw [if_neg hup] at h
    exact h.split (hkey.sameSort hx hy)

/-- Among the items that have a value for a key, the comparison of the key ranks by this value. -/
theorem Comparable.ranks (hkey : key.Comparable attributes) {items : List Item}
    (h : ∀ item ∈ items, key.isPresent attributes item = true) : Ranks (key.isAhead attributes) items where
  asymm a ha b hb hab := by
    rw [(hkey.putsBefore_eq_ok (h a ha) (h b hb)).2] at hab
    rw [Bool.eq_false_iff, Ne, (hkey.putsBefore_eq_ok (h b hb) (h a ha)).2]
    exact hab.asymm
  split a ha b hb c hc hac := by
    rw [(hkey.putsBefore_eq_ok (h a ha) (h c hc)).2] at hac
    rw [(hkey.putsBefore_eq_ok (h a ha) (h b hb)).2, (hkey.putsBefore_eq_ok (h b hb) (h c hc)).2]
    exact hac.split hkey (h b hb) (h c hc)

end SortKey

/-! ## Order by keys and place -/

section
variable {key : SortKey} {keys : List SortKey} {a b : Item × Nat}

theorem Precedes.asymm (h : Precedes attributes keys a b) : ¬Precedes attributes keys b a := by
  intro hback
  induction h with
  | place h =>
    cases hback with
    | place hback => exact Nat.lt_asymm h hback
  | first h =>
    cases hback with
    | first hback => exact h.asymm hback
    | later hsame _ => exact hsame (SortKey.tellsApart_iff.mpr (SortKey.tellsApart_iff.mp h.tellsApart).symm)
  | later hsame _ ih =>
    cases hback with
    | first hback => exact hsame (SortKey.tellsApart_iff.mpr (SortKey.tellsApart_iff.mp hback.tellsApart).symm)
    | later _ hback => exact ih hback

end

/-! ## Sorting with places -/

/-- Sorts items that carry their places by one key. -/
def sortPlaced (attributes : KindAttributes) (key : SortKey) (placed : List (Item × Nat)) : List (Item × Nat) :=
  stableSort (fun a b => key.isAhead attributes a.1 b.1) (placed.filter fun a => key.isPresent attributes a.1) ++
    placed.filter fun a => !key.isPresent attributes a.1

/-- Sorts items that carry their places by keys, most important first. -/
def orderPlaced (attributes : KindAttributes) (keys : List SortKey) (placed : List (Item × Nat)) :
    List (Item × Nat) :=
  keys.foldr (sortPlaced attributes) placed

section
variable {key : SortKey} {keys : List SortKey} {placed : List (Item × Nat)}

theorem sortByKey_eq (attributes : KindAttributes) (key : SortKey) (items : List Item) :
    sortByKey attributes key items =
      (tryStableSort (key.putsBefore attributes) (items.filter (key.isPresent attributes))).map fun sorted =>
        sorted ++ items.filter fun item => !key.isPresent attributes item := by
  change tryStableSort (key.putsBefore attributes) (items.filter (key.isPresent attributes)) >>= _ = _
  cases tryStableSort (key.putsBefore attributes) (items.filter (key.isPresent attributes)) <;> rfl

theorem sortByKey_of_comparable (hkey : key.Comparable attributes) :
    sortByKey attributes key (placed.map Prod.fst) = .ok ((sortPlaced attributes key placed).map Prod.fst) := by
  have hpresent : ∀ a ∈ (placed.map Prod.fst).filter (key.isPresent attributes), key.isPresent attributes a = true :=
    fun a ha => (List.mem_filter.mp ha).2
  have hsort := tryStableSort_of_ok fun a ha b hb => (hkey.putsBefore_eq_ok (hpresent a ha) (hpresent b hb)).1
  rw [sortByKey_eq, hsort, sortPlaced, List.map_append, List.filter_map, List.filter_map, stableSort_map]
  rfl

theorem perm_sortPlaced (attributes : KindAttributes) (key : SortKey) (placed : List (Item × Nat)) :
    (sortPlaced attributes key placed).Perm placed := by
  refine List.Perm.trans ?_ (List.filter_append_perm (fun a : Item × Nat => key.isPresent attributes a.1) placed)
  exact (perm_stableSort _ _).append_right _

theorem perm_orderPlaced (attributes : KindAttributes) (keys : List SortKey) (placed : List (Item × Nat)) :
    (orderPlaced attributes keys placed).Perm placed := by
  induction keys with
  | nil => exact .refl _
  | cons key rest ih => exact (perm_sortPlaced attributes key _).trans ih

/-- Sorting by a further key makes it the most important one. -/
theorem pairwise_sortPlaced (hkey : key.Comparable attributes) (h : placed.Pairwise (Precedes attributes keys)) :
    (sortPlaced attributes key placed).Pairwise (Precedes attributes (key :: keys)) := by
  have hpresent : ∀ a ∈ placed.filter fun a => key.isPresent attributes a.1, key.isPresent attributes a.1 = true :=
    fun a ha => (List.mem_filter.mp ha).2
  have hmissing : ∀ a ∈ placed.filter fun a => !key.isPresent attributes a.1,
      a.1.sortValue? attributes key.field = none := by
    intro a ha
    simpa [SortKey.isPresent] using (List.mem_filter.mp ha).2
  rw [sortPlaced, List.pairwise_append]
  refine ⟨?present, ?missing, ?across⟩
  case present =>
    have hranks := hkey.ranks (List.forall_mem_map.mpr hpresent)
    have hsorted := pairwise_stableSort hranks.of_map (h.filter fun a => key.isPresent attributes a.1)
    have hperm := perm_stableSort (fun a b : Item × Nat => key.isAhead attributes a.1 b.1)
      (placed.filter fun a => key.isPresent attributes a.1)
    refine hsorted.imp_of_mem fun {a b} ha hb hsettled => ?_
    have hvalue := hpresent a (hperm.mem_iff.mp ha)
    have hvalue' := hpresent b (hperm.mem_iff.mp hb)
    rcases SortKey.putsFirst_or_eq_or_putsFirst hkey hvalue hvalue' with hfirst | hsame | hlast
    · exact .first hfirst
    · refine .later hsame (hsettled.resolve_left fun hahead => ?_).2
      exact hsame ((hkey.putsBefore_eq_ok hvalue hvalue').2.mp hahead).tellsApart
    · rcases hsettled with hahead | ⟨hnot, -⟩
      · exact .first ((hkey.putsBefore_eq_ok hvalue hvalue').2.mp hahead)
      · exact absurd ((hkey.putsBefore_eq_ok hvalue' hvalue).2.mpr hlast) (Bool.eq_false_iff.mp hnot)
  case missing =>
    refine (h.filter fun a => !key.isPresent attributes a.1).imp_of_mem fun ha hb hab => .later ?_ hab
    rw [SortKey.tellsApart_iff, not_not]
    exact (hmissing _ ha).trans (hmissing _ hb).symm
  case across =>
    intro a ha b hb
    obtain ⟨x, hx⟩ := SortKey.exists_of_isPresent (hpresent a ((perm_stableSort _ _).mem_iff.mp ha))
    refine .first (.missing hx fun y hy => ?_)
    rw [Item.hasValue_iff, hmissing b hb] at hy
    cases hy

/-- The places of a list increase. -/
theorem pairwise_zipIdx (attributes : KindAttributes) (items : List Item) :
    items.zipIdx.Pairwise (Precedes attributes []) := by
  have hplaces : (items.zipIdx.map Prod.snd).Pairwise (· < ·) := by
    rw [List.zipIdx_map_snd]
    exact List.pairwise_lt_range'
  exact (List.pairwise_map.mp hplaces).imp .place

theorem pairwise_orderPlaced (hkeys : ∀ key ∈ keys, key.Comparable attributes) (items : List Item) :
    (orderPlaced attributes keys items.zipIdx).Pairwise (Precedes attributes keys) := by
  induction keys with
  | nil => exact pairwise_zipIdx attributes items
  | cons key rest ih =>
    obtain ⟨hkey, hrest⟩ := List.forall_mem_cons.mp hkeys
    exact pairwise_sortPlaced hkey (ih hrest)

theorem orderItems_cons (attributes : KindAttributes) (text : String) (texts : List String) (items : List Item) :
    orderItems attributes (text :: texts) items =
      orderItems attributes texts items >>= sortByKey attributes (.ofString text) := by
  rw [orderItems, List.foldrM_cons]
  rfl

/-- With keys that items can be compared by, items are sorted as they are with their places. -/
theorem orderItems_of_comparable {texts : List String}
    (htexts : ∀ text ∈ texts, (SortKey.ofString text).Comparable attributes) (items : List Item) :
    orderItems attributes texts items =
      .ok ((orderPlaced attributes (texts.map SortKey.ofString) items.zipIdx).map Prod.fst) := by
  induction texts with
  | nil =>
    change Except.ok items = .ok (items.zipIdx.map Prod.fst)
    rw [List.zipIdx_map_fst]
  | cons text rest ih =>
    obtain ⟨htext, hrest⟩ := List.forall_mem_cons.mp htexts
    rw [orderItems_cons, ih hrest]
    exact sortByKey_of_comparable htext

end

/-! ## Failure -/

section
variable {key : SortKey} {items : List Item}

theorem eq_of_perm_of_length_le_one {α : Type} {as bs : List α} (hperm : as.Perm bs) (h : bs.length ≤ 1) :
    as = bs := by
  match bs, h with
  | [], _ => exact List.perm_nil.mp hperm
  | [b], _ => exact List.perm_singleton.mp hperm

theorem sortByKey_of_length_le_one (h : items.length ≤ 1) : sortByKey attributes key items = .ok items := by
  have hfilter : (items.filter (key.isPresent attributes)).length ≤ 1 := (List.length_filter_le _ _).trans h
  rw [sortByKey_eq, tryStableSort_of_length_le_one hfilter, Except.map]
  have hperm := List.filter_append_perm (key.isPresent attributes) items
  exact congrArg Except.ok (eq_of_perm_of_length_le_one hperm h)

theorem orderItems_of_length_le_one (texts : List String) (h : items.length ≤ 1) :
    orderItems attributes texts items = .ok items := by
  induction texts with
  | nil => rfl
  | cons text rest ih =>
    rw [orderItems_cons, ih]
    exact sortByKey_of_length_le_one h

theorem isPresent_of_unordered {type : String} (hkey : key.Unordered attributes type) (item : Item) :
    key.isPresent attributes item = true := by
  rw [SortKey.isPresent, Item.hasValue_iff.mp (hkey item)]
  rfl

theorem sortByKey_of_unordered {type : String} (hkey : key.Unordered attributes type) (htwo : 2 ≤ items.length) :
    sortByKey attributes key items = .error ⟨type, type⟩ := by
  have hall : items.filter (key.isPresent attributes) = items :=
    List.filter_eq_self.mpr fun item _ => isPresent_of_unordered hkey item
  have hcompare : ∀ a ∈ items, ∀ b ∈ items, key.putsBefore attributes a b = .error ⟨type, type⟩ :=
    fun a _ b _ => SortKey.putsBefore_of_unordered hkey
  rw [sortByKey_eq, hall, tryStableSort_of_error hcompare htwo]
  rfl

/-- The last key by which items cannot be compared is the one that ordering fails with. -/
theorem orderItems_of_unordered {before after : List String} {text type : String}
    (htext : (SortKey.ofString text).Unordered attributes type)
    (hafter : ∀ later ∈ after, (SortKey.ofString later).Comparable attributes) (htwo : 2 ≤ items.length) :
    orderItems attributes (before ++ text :: after) items = .error ⟨type, type⟩ := by
  induction before with
  | nil =>
    have hlength := ((perm_orderPlaced attributes (after.map SortKey.ofString) items.zipIdx).map Prod.fst).length_eq
    rw [List.zipIdx_map_fst] at hlength
    rw [List.nil_append, orderItems_cons, orderItems_of_comparable hafter]
    exact sortByKey_of_unordered htext (hlength.symm ▸ htwo)
  | cons first rest ih =>
    rw [List.cons_append, orderItems_cons, ih]
    rfl

/-- Items can be compared by all keys, or there is a last key by which they cannot. -/
theorem comparable_or_exists_last (attributes : KindAttributes) (texts : List String) :
    (∀ text ∈ texts, (SortKey.ofString text).Comparable attributes) ∨
      ∃ before text type after, texts = before ++ text :: after ∧ (SortKey.ofString text).Unordered attributes type ∧
        ∀ later ∈ after, (SortKey.ofString later).Comparable attributes := by
  induction texts with
  | nil => exact .inl fun text h => by cases h
  | cons first rest ih =>
    rcases ih with hrest | ⟨before, text, type, after, rfl, htext, hafter⟩
    · by_cases hfirst : (SortKey.ofString first).Comparable attributes
      · exact .inl (List.forall_mem_cons.mpr ⟨hfirst, hrest⟩)
      · rw [SortKey.Comparable, not_forall_not] at hfirst
        obtain ⟨type, htype⟩ := hfirst
        exact .inr ⟨[], first, type, rest, rfl, htype, hrest⟩
    · exact .inr ⟨first :: before, text, type, after, rfl, htext, hafter⟩

end

/-! ## Ordered items -/

/-- A key that no item has a value for leaves the order as it is. -/
theorem sortByKey_of_missing {key : SortKey} {items : List Item}
    (h : ∀ item ∈ items, ∀ x, ¬item.HasValue attributes key.field x) : sortByKey attributes key items = .ok items := by
  have habsent : ∀ item ∈ items, key.isPresent attributes item = false := by
    intro item hitem
    rw [Bool.eq_false_iff]
    intro hpresent
    obtain ⟨x, hx⟩ := SortKey.exists_of_isPresent hpresent
    exact h item hitem x hx
  have hpresent : items.filter (key.isPresent attributes) = [] :=
    List.filter_eq_nil_iff.mpr fun item hitem => by simp [habsent item hitem]
  have hmissing : (items.filter fun item => !key.isPresent attributes item) = items :=
    List.filter_eq_self.mpr fun item hitem => by simp [habsent item hitem]
  rw [sortByKey_eq, hpresent, hmissing]
  rfl

theorem perm_of_orderItems {texts : List String} {items ordered : List Item}
    (h : orderItems attributes texts items = .ok ordered) : ordered.Perm items := by
  rcases comparable_or_exists_last attributes texts with htexts | ⟨before, text, type, after, rfl, htext, hafter⟩
  · have hperm := (perm_orderPlaced attributes (texts.map SortKey.ofString) items.zipIdx).map Prod.fst
    rw [orderItems_of_comparable htexts, Except.ok.injEq] at h
    rwa [h, List.zipIdx_map_fst] at hperm
  · rcases Nat.lt_or_ge 1 items.length with htwo | hone
    · rw [orderItems_of_unordered htext hafter htwo] at h
      cases h
    · rw [orderItems_of_length_le_one _ hone, Except.ok.injEq] at h
      exact h ▸ .refl _

theorem orderItems_append (attributes : KindAttributes) (before after : List String) (items : List Item) :
    orderItems attributes (before ++ after) items =
      orderItems attributes after items >>= orderItems attributes before := by
  rw [orderItems, List.foldrM_append]
  rfl

/-- A key that no item has a value for may be left out. -/
theorem orderItems_of_missing {before after : List String} {text : String} {items : List Item}
    (h : ∀ item ∈ items, ∀ x, ¬item.HasValue attributes (SortKey.ofString text).field x) :
    orderItems attributes (before ++ text :: after) items = orderItems attributes (before ++ after) items := by
  have hsame : orderItems attributes (text :: after) items = orderItems attributes after items := by
    rw [orderItems_cons]
    cases hordered : orderItems attributes after items with
    | error e => rfl
    | ok ordered =>
      exact sortByKey_of_missing fun item hitem => h item ((perm_of_orderItems hordered).mem_iff.mp hitem)
  rw [orderItems_append, orderItems_append, hsame]

theorem exists_placed_of_orderItems {texts : List String} {items ordered : List Item}
    (h : orderItems attributes texts items = .ok ordered) :
    ∃ placed : List (Item × Nat), placed.Perm items.zipIdx ∧ placed.map Prod.fst = ordered ∧
      placed.Pairwise (Precedes attributes (texts.map SortKey.ofString)) := by
  rcases Nat.lt_or_ge 1 items.length with htwo | hone
  · rcases comparable_or_exists_last attributes texts with htexts | ⟨before, text, type, after, rfl, htext, hafter⟩
    · rw [orderItems_of_comparable htexts, Except.ok.injEq] at h
      exact ⟨_, perm_orderPlaced _ _ _, h, pairwise_orderPlaced (List.forall_mem_map.mpr htexts) items⟩
    · rw [orderItems_of_unordered htext hafter htwo] at h
      cases h
  · rw [orderItems_of_length_le_one _ hone, Except.ok.injEq] at h
    refine ⟨items.zipIdx, .refl _, (List.zipIdx_map_fst 0 items).trans h, ?_⟩
    refine List.pairwise_iff_getElem.mpr fun i j _ hj hij => ?_
    rw [List.length_zipIdx] at hj
    omega

theorem orderItems_eq_error_iff {texts : List String} {items : List Item} {e : Incomparable} :
    orderItems attributes texts items = .error e ↔
      2 ≤ items.length ∧ ∃ before key type after, texts.map SortKey.ofString = before ++ key :: after ∧
        key.Unordered attributes type ∧ (∀ later ∈ after, ∀ other, ¬later.Unordered attributes other) ∧
          e = ⟨type, type⟩ := by
  constructor
  · intro h
    rcases Nat.lt_or_ge 1 items.length with htwo | hone
    · rcases comparable_or_exists_last attributes texts with htexts | ⟨before, text, type, after, rfl, htext, hafter⟩
      · rw [orderItems_of_comparable htexts] at h
        cases h
      · rw [orderItems_of_unordered htext hafter htwo, Except.error.injEq] at h
        refine ⟨htwo, before.map .ofString, .ofString text, type, after.map .ofString, ?_, htext, ?_, h.symm⟩
        · rw [List.map_append, List.map_cons]
        · exact List.forall_mem_map.mpr hafter
    · rw [orderItems_of_length_le_one _ hone] at h
      cases h
  · rintro ⟨htwo, before, key, type, after, hkeys, hkey, hafter, rfl⟩
    obtain ⟨first, rest, rfl, rfl, hrest⟩ := List.map_eq_append_iff.mp hkeys
    obtain ⟨text, last, rfl, rfl, rfl⟩ := List.map_eq_cons_iff.mp hrest
    exact orderItems_of_unordered hkey (List.forall_mem_map.mp hafter) htwo

/-- Ordering puts the items into the order of the most important key on which they differ, and of their places
where there is none.  It fails just when there are two items and a key by which items cannot be compared, with the last
such key.  A key for which no item has a value changes nothing, and neither do no keys at all. -/
theorem orderItems_lexicographic (attributes : KindAttributes) (texts : List String) (items : List Item) :
    ∃ keys : List SortKey, List.Forall₂ SortKey.Written keys texts ∧
      (∀ ordered, orderItems attributes texts items = .ok ordered → ∃ placed : List (Item × Nat),
        placed.Perm items.zipIdx ∧ placed.map Prod.fst = ordered ∧
          ∀ (i j : Nat) (hi : i < placed.length) (hj : j < placed.length),
            i < j ↔ Precedes attributes keys placed[i] placed[j]) ∧
      (∀ e, orderItems attributes texts items = .error e ↔
        2 ≤ items.length ∧ ∃ before key type after, keys = before ++ key :: after ∧ key.Unordered attributes type ∧
          (∀ later ∈ after, ∀ other, ¬later.Unordered attributes other) ∧ e = ⟨type, type⟩) ∧
      (∀ (before : List String) (key : SortKey) (text : String) (after : List String),
        texts = before ++ text :: after → key.Written text →
          (∀ item ∈ items, ∀ x, ¬item.HasValue attributes key.field x) →
            orderItems attributes texts items = orderItems attributes (before ++ after) items) ∧
      ∀ flags : Flags, flags.orderBy = none ∨ flags.orderBy = some [] →
        orderItems attributes (flags.orderBy.getD []) items = .ok items := by
  refine ⟨texts.map .ofString, ?written, fun ordered hordered => ?sorted, fun e => orderItems_eq_error_iff, ?missing,
    fun flags hflags => ?none⟩
  case written =>
    rw [List.forall₂_map_left_iff, List.forall₂_same]
    exact fun text _ => SortKey.written_ofString text
  case sorted =>
    obtain ⟨placed, hperm, hitems, hsorted⟩ := exists_placed_of_orderItems hordered
    refine ⟨placed, hperm, hitems, fun i j hi hj => ?_⟩
    refine ⟨fun hij => List.pairwise_iff_getElem.mp hsorted i j hi hj hij, fun hprecedes => ?_⟩
    rcases Nat.lt_trichotomy i j with hij | rfl | hji
    · exact hij
    · exact absurd hprecedes hprecedes.asymm
    · exact absurd (List.pairwise_iff_getElem.mp hsorted j i hj hi hji) hprecedes.asymm
  case missing =>
    rintro before key text after rfl hkey hitems
    rw [hkey.eq_ofString] at hitems
    exact orderItems_of_missing hitems
  case none =>
    rcases hflags with hflags | hflags
    · rw [hflags]
      rfl
    · rw [hflags]
      rfl

/-- The names of items that have one operation beside their fields. -/
def withCopy : KindAttributes := fun name => if name = "copy" then some (.object "method") else none

/-- A red point of the year 2021. -/
def redBeta : Item :=
  { id := 0, content := "beta", start := ⟨⟨2021, 1, 1⟩, 0, 0, 0⟩, color := some "red", sourceLine := 1,
    extent := .point }

/-- A red event of the year 2020. -/
def redAlpha : Item :=
  { id := 1, content := "Alpha", start := ⟨⟨2020, 1, 1⟩, 0, 0, 0⟩, color := some "Red", sourceLine := 2,
    extent := .event none }

/-- An event of the year 2019 without a color. -/
def plainAlpha : Item :=
  { id := 2, content := "alpha", start := ⟨⟨2019, 1, 1⟩, 0, 0, 0⟩, sourceLine := 3, extent := .event none }

/-- Items of one color are ordered by their content, and the item without a color moves to the end.  A name that none
of them answers to may stand between the keys.  By an operation they cannot be ordered, whatever comes before it. -/
theorem orderItems_lexicographic_sameColor :
    orderItems withCopy ["-color", "content"] [plainAlpha, redBeta, redAlpha] = .ok [redAlpha, redBeta, plainAlpha] ∧
    (∃ placed : List (Item × Nat), placed.Perm [(plainAlpha, 0), (redBeta, 1), (redAlpha, 2)] ∧
      placed.map Prod.fst = [redAlpha, redBeta, plainAlpha]) ∧
    orderItems withCopy ["-color", "weight", "content"] [plainAlpha, redBeta, redAlpha] =
      .ok [redAlpha, redBeta, plainAlpha] ∧
    orderItems withCopy ["start", "-copy"] [redBeta, redAlpha] = .error ⟨"method", "method"⟩ ∧
    orderItems withCopy (({} : Flags).orderBy.getD []) [redBeta, redAlpha] = .ok [redBeta, redAlpha] := by
  have hmoved : orderItems withCopy ["-color", "content"] [plainAlpha, redBeta, redAlpha] =
      .ok [redAlpha, redBeta, plainAlpha] := by decide +kernel
  obtain ⟨_, -, hsorted, -⟩ := orderItems_lexicographic withCopy ["-color", "content"] [plainAlpha, redBeta, redAlpha]
  obtain ⟨_, -, -, -, hmissing, -⟩ :=
    orderItems_lexicographic withCopy ["-color", "weight", "content"] [plainAlpha, redBeta, redAlpha]
  obtain ⟨keys, hkeys, -, herror, -, hnone⟩ := orderItems_lexicographic withCopy ["start", "-copy"] [redBeta, redAlpha]
  refine ⟨hmoved, ?places, ?weight, ?copy, hnone {} (.inl rfl)⟩
  case places =>
    obtain ⟨placed, hperm, hitems, -⟩ := hsorted _ hmoved
    exact ⟨placed, hperm, hitems⟩
  case weight =>
    have hweight (item : Item) (x : SortValue) : ¬item.HasValue withCopy "weight" x := by
      have hnone : item.sortValue? withCopy "weight" = none := rfl
      rw [Item.hasValue_iff, hnone]
      exact (Option.some_ne_none x).symm
    have hkey : SortKey.Written ⟨"weight", false⟩ "weight" := SortKey.written_ofString "weight"
    exact (hmissing ["-color"] _ _ ["content"] rfl hkey fun item _ => hweight item).trans hmoved
  case copy =>
    have hcopy : SortKey.Unordered withCopy ⟨"copy", true⟩ "method" := fun item => .kindObject (by decide) rfl
    cases hkeys with
    | cons hstart hrest =>
      cases hrest with
      | cons hlast hnil =>
        cases hnil
        obtain rfl := hlast.eq_ofString
        exact (herror _).mpr ⟨Nat.le_refl 2, [_], _, "method", [], rfl, hcopy, List.forall_mem_nil _, rfl⟩

/-- Two items with an operation in common are not put into any order by it. -/
theorem orderItems_copy : orderItems withCopy ["copy"] [redBeta, redAlpha] = .error ⟨"method", "method"⟩ := by
  decide

end Chronicle.Timeline
