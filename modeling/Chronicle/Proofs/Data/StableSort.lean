import Chronicle.Data.StableSort

/-!
# What a stable sort keeps

A sort by a comparison puts an element before another when the comparison asks for it, and leaves all other
elements as they were.  What "as they were" means is up to the caller: any relation that holds between the
elements of the list, each with those behind it, still holds between elements that needed no order
(`pairwise_stableSort`).  With the order below a key for this relation, sorting by the key gives the order that
looks at the key first.

The comparison has to rank the elements of the list (`Ranks`).  It need not do so for others, so a comparison by
a value that some elements lack is fine for those that have it.

A sort only sees what the comparison looks at, and so it can be done before or after the elements are rewritten
(`stableSort_map`).

A sort by a comparison that may fail is the same sort where the comparison answers for all elements
(`tryStableSort_of_ok`).  Where it never does, it fails as soon as there are two of them (`tryStableSort_of_error`).
-/

namespace Chronicle.Data

variable {α β : Type} {before : α → α → Bool} {as : List α}

/-- A comparison that puts the elements of a list into ranks. -/
structure Ranks (before : α → α → Bool) (as : List α) : Prop where
  asymm : ∀ a ∈ as, ∀ b ∈ as, before a b = true → before b a = false
  /-- An element between two ranks differs from one of them. -/
  split : ∀ a ∈ as, ∀ b ∈ as, ∀ c ∈ as, before a c = true → before a b = true ∨ before b c = true

theorem Ranks.subset {bs : List α} (h : Ranks before as) (hsub : bs ⊆ as) : Ranks before bs where
  asymm a ha b hb := h.asymm a (hsub ha) b (hsub hb)
  split a ha b hb c hc := h.split a (hsub ha) b (hsub hb) c (hsub hc)

/-- A comparison of what elements are rewritten to ranks them as it ranks the rewritten ones. -/
theorem Ranks.of_map {f : β → α} {bs : List β} (h : Ranks before (bs.map f)) :
    Ranks (fun x y => before (f x) (f y)) bs where
  asymm _ ha _ hb := h.asymm _ (List.mem_map_of_mem ha) _ (List.mem_map_of_mem hb)
  split _ ha _ hb _ hc :=
    h.split _ (List.mem_map_of_mem ha) _ (List.mem_map_of_mem hb) _ (List.mem_map_of_mem hc)

/-- What holds between an element and one behind it when a list is sorted: the comparison asks for their order,
or it asks for none and they are as they were. -/
def Settled (before : α → α → Bool) (R : α → α → Prop) (a b : α) : Prop :=
  before a b = true ∨ before b a = false ∧ R a b

theorem pairwise_insertBy {R : α → α → Prop} {a : α} (hranks : Ranks before (a :: as))
    (has : as.Pairwise (Settled before R)) (ha : ∀ b ∈ as, R a b) :
    (insertBy before a as).Pairwise (Settled before R) := by
  induction as with
  | nil => exact List.pairwise_singleton _ a
  | cons b rest ih =>
    obtain ⟨hb, hrest⟩ := List.pairwise_cons.mp has
    obtain ⟨hab, harest⟩ := List.forall_mem_cons.mp ha
    rw [insertBy]
    split
    · next hmoves =>
      have hranks' : Ranks before (a :: rest) := hranks.subset (by simp)
      refine List.pairwise_cons.mpr ⟨fun c hc => ?_, ih hranks' hrest harest⟩
      rcases List.mem_cons.mp ((perm_insertBy before a rest).mem_iff.mp hc) with rfl | hc
      · exact .inl hmoves
      · exact hb c hc
    · next hstays =>
      rw [Bool.not_eq_true] at hstays
      refine List.pairwise_cons.mpr ⟨fun c hc => ?_, has⟩
      rcases List.mem_cons.mp hc with rfl | hcrest
      · exact .inr ⟨hstays, hab⟩
      -- An element before the new one would also be before the element that it stands in front of.
      · refine .inr ⟨?_, harest c hcrest⟩
        rw [Bool.eq_false_iff]
        intro hca
        rcases hranks.split c (.tail _ hc) b (by simp) a (by simp) hca with hcb | hba
        · rcases hb c hcrest with hbc | ⟨hnot, -⟩
          · rw [hranks.asymm b (by simp) c (.tail _ hc) hbc] at hcb
            cases hcb
          · rw [hnot] at hcb
            cases hcb
        · rw [hstays] at hba
          cases hba

/-- Sorting settles the order by the comparison and keeps what holds between other elements. -/
theorem pairwise_stableSort {R : α → α → Prop} (hranks : Ranks before as) (has : as.Pairwise R) :
    (stableSort before as).Pairwise (Settled before R) := by
  induction as with
  | nil => exact .nil
  | cons a rest ih =>
    obtain ⟨ha, hrest⟩ := List.pairwise_cons.mp has
    have hperm := perm_stableSort before rest
    have hsorted := ih (hranks.subset (List.subset_cons_self a rest)) hrest
    refine pairwise_insertBy (hranks.subset ?_) hsorted fun b hb => ha b (hperm.mem_iff.mp hb)
    exact List.cons_subset_cons a hperm.subset

/-! ## Rewritten elements -/

theorem insertBy_map (f : β → α) (b : β) (bs : List β) :
    insertBy before (f b) (bs.map f) = (insertBy (fun x y => before (f x) (f y)) b bs).map f := by
  induction bs with
  | nil => rfl
  | cons c rest ih =>
    rw [List.map_cons, insertBy, insertBy, ih]
    split <;> rfl

theorem stableSort_map (f : β → α) (bs : List β) :
    stableSort before (bs.map f) = (stableSort (fun x y => before (f x) (f y)) bs).map f := by
  induction bs with
  | nil => rfl
  | cons b rest ih =>
    have hfold (cs : List α) : stableSort before (f b :: cs) = insertBy before (f b) (stableSort before cs) :=
      rfl
    rw [List.map_cons, hfold, ih, insertBy_map]
    rfl

/-! ## Comparisons that may fail -/

section
variable {ε : Type} {compare : α → α → Except ε Bool}

theorem tryInsertBy_of_ok {a : α} (h : ∀ b ∈ as, compare b a = .ok (before b a)) :
    tryInsertBy compare a as = .ok (insertBy before a as) := by
  induction as with
  | nil => rfl
  | cons b rest ih =>
    obtain ⟨hb, hrest⟩ := List.forall_mem_cons.mp h
    rw [tryInsertBy, insertBy, hb]
    cases before b a with
    | false => rfl
    | true =>
      change (tryInsertBy compare a rest).map (b :: ·) = _
      rw [ih hrest]
      rfl

theorem tryStableSort_of_ok (h : ∀ a ∈ as, ∀ b ∈ as, compare a b = .ok (before a b)) :
    tryStableSort compare as = .ok (stableSort before as) := by
  induction as with
  | nil => rfl
  | cons a rest ih =>
    have hrest := ih fun b hb c hc => h b (.tail _ hb) c (.tail _ hc)
    rw [tryStableSort, hrest]
    refine tryInsertBy_of_ok fun b hb => h b (.tail _ ?_) a (.head _)
    exact (perm_stableSort before rest).mem_iff.mp hb

theorem tryStableSort_of_length_le_one (h : as.length ≤ 1) : tryStableSort compare as = .ok as := by
  match as, h with
  | [], _ => rfl
  | [a], _ => rfl

/-- Two elements that cannot be compared are enough for the sort to fail. -/
theorem tryStableSort_of_error {e : ε} (h : ∀ a ∈ as, ∀ b ∈ as, compare a b = .error e) (htwo : 2 ≤ as.length) :
    tryStableSort compare as = .error e := by
  induction as with
  | nil => cases htwo
  | cons a rest ih =>
    match rest with
    | [] => simp at htwo
    | [b] =>
      have hcompare := h b (by simp) a (by simp)
      have hone : [b].length ≤ 1 := Nat.le_refl 1
      rw [tryStableSort, tryStableSort_of_length_le_one hone]
      change tryInsertBy compare a [b] = _
      rw [tryInsertBy, hcompare]
      rfl
    | b :: c :: rest =>
      have hrest := ih (fun x hx y hy => h x (.tail _ hx) y (.tail _ hy)) (Nat.le_add_left 2 rest.length)
      rw [tryStableSort, hrest]
      rfl

end

end Chronicle.Data
