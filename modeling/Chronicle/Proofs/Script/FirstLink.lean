import Chronicle.Proofs.Script.WikiLinks

/-!
# The first link of a text

A link is searched for from the left.  Two things are said of places in a text, and neither mentions the search.

*Where a link starts.*  A wiki link starts where two brackets have a name and two more brackets behind them, so
further brackets in front of these do no harm.  A web link starts where its front has a character behind it that is
not blank.  `LinkStartsAt` looks no further than that.

*Which link it is.*  A wiki link ends with its brackets, and a web link runs on to the next blank, also through
brackets.  `IsLinkAt` says so of the whole link.

A reader at a place finds the link there, and finds none only where none starts (`linkAt?_drop_eq_some_iff`,
`linkAt?_drop_eq_none_iff`).  So the search finds the link at the least place where one starts
(`firstLink?_eq_some_iff`), and nothing only where there is no such place (`firstLink?_eq_none_iff`).
-/

namespace Chronicle.Script

open Chronicle.Text

variable {cs link : List Char} {place : Nat}

/-! ## Longest runs -/

/-- The characters of a kind that a text starts with, as many as there are. -/
structure IsLongestRun (p : Char → Bool) (cs run : List Char) : Prop where
  front : run <+: cs
  kind : ∀ c ∈ run, p c = true
  longest : ∀ other, other <+: cs → (∀ c ∈ other, p c = true) → other.length ≤ run.length

theorem isLongestRun_iff {p : Char → Bool} {run : List Char} : IsLongestRun p cs run ↔ run = cs.takeWhile p := by
  have hlongest : ∀ other, other <+: cs → (∀ c ∈ other, p c = true) → other <+: cs.takeWhile p := by
    rintro other ⟨rest, rfl⟩ hkind
    rw [List.takeWhile_append_of_pos hkind]
    exact List.prefix_append _ _
  constructor
  · rintro ⟨hfront, hkind, hmost⟩
    have hall : ∀ c ∈ cs.takeWhile p, p c = true := fun c => List.mem_takeWhile_imp
    exact (hlongest run hfront hkind).eq_of_length_le (hmost _ (List.takeWhile_prefix p) hall)
  · rintro rfl
    exact ⟨List.takeWhile_prefix p, fun c => List.mem_takeWhile_imp, fun other hfront hkind =>
      (hlongest other hfront hkind).length_le⟩

/-! ## Links at a place -/

/-- A name that can stand between the brackets of a wiki link. -/
def IsLinkName (name : List Char) : Prop := name ≠ [] ∧ ∀ c ∈ name, c ≠ '[' ∧ c ≠ ']'

/-- The wiki link to a name. -/
def wikiLinkTo (name : List Char) : List Char := '[' :: '[' :: (name ++ [']', ']'])

/-- What a web link starts with. -/
def IsWebFront (front : List Char) : Prop := front = "http://".toList ∨ front = "https://".toList

/-- A link starts at a place of a text. -/
inductive LinkStartsAt (cs : List Char) (place : Nat) : Prop where
  | wiki (name : List Char) (hname : IsLinkName name) (hstands : StandsAt (wikiLinkTo name) cs place)
  | web (front : List Char) (c : Char) (hfront : IsWebFront front) (hstands : StandsAt front cs place)
    (hnext : cs[place + front.length]? = some c) (hsolid : isBlank c = false)

/-- The link that starts at a place of a text, from its start to its end. -/
inductive IsLinkAt (cs : List Char) (place : Nat) : (link : List Char) → Prop where
  | wiki (name : List Char) (hname : IsLinkName name) (hstands : StandsAt (wikiLinkTo name) cs place) :
    IsLinkAt cs place (wikiLinkTo name)
  | web (front address : List Char) (hfront : IsWebFront front) (hstands : StandsAt front cs place)
    (haddress : IsLongestRun (fun c => !isBlank c) (cs.drop (place + front.length)) address) (hne : address ≠ []) :
    IsLinkAt cs place (front ++ address)

theorem linkStartsAt_iff : LinkStartsAt cs place ↔ ∃ link, IsLinkAt cs place link := by
  constructor
  · rintro (⟨name, hname, hstands⟩ | ⟨front, c, hfront, hstands, hnext, hsolid⟩)
    · exact ⟨_, .wiki name hname hstands⟩
    · refine ⟨_, .web front _ hfront hstands (isLongestRun_iff.mpr rfl) ?_⟩
      rw [← List.head?_drop] at hnext
      obtain ⟨rest, hdrop⟩ := List.head?_eq_some_iff.mp hnext
      rw [hdrop, List.takeWhile_cons_of_pos (by rw [hsolid]; rfl)]
      exact List.cons_ne_nil _ _
  · rintro ⟨_, ⟨name, hname, hstands⟩ | ⟨front, address, hfront, hstands, haddress, hne⟩⟩
    · exact .wiki name hname hstands
    · obtain ⟨c, more, rfl⟩ := List.exists_cons_of_ne_nil hne
      obtain ⟨rest, hrest⟩ := haddress.front
      refine .web front c hfront hstands ?_ (by simpa using haddress.kind c List.mem_cons_self)
      rw [← List.head?_drop, ← hrest]
      rfl

/-- A link is written at its place as it is. -/
theorem IsLinkAt.standsAt (h : IsLinkAt cs place link) : StandsAt link cs place := by
  cases h with
  | wiki name hname hstands => exact hstands
  | web front address hfront hstands haddress hne =>
    obtain ⟨rest, hrest⟩ := hstands
    have hbehind := haddress.front
    rw [drop_add_length_of_drop_eq_append hrest.symm] at hbehind
    rw [StandsAt, ← hrest]
    exact (List.prefix_append_right_inj front).mpr hbehind

/-! ## The reader at a place -/

theorem wikiLink?_drop_eq_some_iff :
    wikiLink? (cs.drop place) = some link ↔
      ∃ name, IsLinkName name ∧ StandsAt (wikiLinkTo name) cs place ∧ link = wikiLinkTo name := by
  have hchar (c : Char) : isLinkNameChar c = true ↔ c ≠ '[' ∧ c ≠ ']' := by simp [isLinkNameChar]
  rw [wikiLink?_eq_some_iff]
  constructor
  · rintro ⟨name, after, hdrop, hne, hname, rfl⟩
    refine ⟨name, ⟨hne, fun c hc => (hchar c).mp (hname c hc)⟩, ⟨after, ?_⟩, rfl⟩
    rw [hdrop, wikiLinkTo]
    simp
  · rintro ⟨name, ⟨hne, hname⟩, ⟨after, hstands⟩, rfl⟩
    refine ⟨name, after, ?_, hne, fun c hc => (hchar c).mpr (hname c hc), rfl⟩
    rw [← hstands, wikiLinkTo]
    simp

theorem webLinkWith?_eq_some_iff {front : List Char} :
    webLinkWith? front cs = some link ↔
      ∃ rest, cs = front ++ rest ∧
        ∃ address, IsLongestRun (fun c => !isBlank c) rest address ∧ address ≠ [] ∧ link = front ++ address := by
  constructor
  · intro h
    rw [webLinkWith?] at h
    split at h
    · cases h
    · next rest hrest =>
      dsimp only at h
      split at h
      · cases h
      · next hempty =>
        cases h
        exact ⟨rest, dropFront?_eq_some_iff.mp hrest, _, isLongestRun_iff.mpr rfl, by simpa using hempty, rfl⟩
  · rintro ⟨rest, hrest, address, haddress, hne, rfl⟩
    obtain rfl := isLongestRun_iff.mp haddress
    rw [webLinkWith?, dropFront?_eq_some_iff.mpr hrest]
    exact if_neg (by simpa using hne)

theorem webLinkWith?_drop_eq_some_iff {front : List Char} :
    webLinkWith? front (cs.drop place) = some link ↔
      StandsAt front cs place ∧ ∃ address, address ≠ [] ∧ link = front ++ address ∧
        IsLongestRun (fun c => !isBlank c) (cs.drop (place + front.length)) address := by
  rw [webLinkWith?_eq_some_iff]
  constructor
  · rintro ⟨rest, hrest, address, haddress, hne, hlink⟩
    rw [← drop_add_length_of_drop_eq_append hrest] at haddress
    exact ⟨⟨rest, hrest.symm⟩, address, hne, hlink, haddress⟩
  · rintro ⟨⟨rest, hrest⟩, address, hne, hlink, haddress⟩
    rw [drop_add_length_of_drop_eq_append hrest.symm] at haddress
    exact ⟨rest, hrest.symm, address, haddress, hne, hlink⟩

/-- No two kinds of links start alike, so the order in which they are tried does not matter. -/
theorem linkAt?_eq_some_iff :
    linkAt? cs = some link ↔
      wikiLink? cs = some link ∨ ∃ front, IsWebFront front ∧ webLinkWith? front cs = some link := by
  rw [linkAt?, webLink?, Option.or_eq_some_iff, Option.or_eq_some_iff]
  constructor
  · rintro (hwiki | ⟨-, hplain | ⟨-, hsecure⟩⟩)
    · exact .inl hwiki
    · exact .inr ⟨_, .inl rfl, hplain⟩
    · exact .inr ⟨_, .inr rfl, hsecure⟩
  · rintro (hwiki | ⟨front, hfront, hweb⟩)
    · exact .inl hwiki
    · -- The other readers give up at one of the first characters.
      obtain ⟨rest, rfl, -⟩ := webLinkWith?_eq_some_iff.mp hweb
      rcases hfront with rfl | rfl
      · exact .inr ⟨rfl, .inl hweb⟩
      · exact .inr ⟨rfl, .inr ⟨rfl, hweb⟩⟩

theorem linkAt?_drop_eq_some_iff : linkAt? (cs.drop place) = some link ↔ IsLinkAt cs place link := by
  rw [linkAt?_eq_some_iff, wikiLink?_drop_eq_some_iff]
  constructor
  · rintro (⟨name, hname, hstands, rfl⟩ | ⟨front, hfront, hweb⟩)
    · exact .wiki name hname hstands
    · obtain ⟨hstands, address, hne, rfl, haddress⟩ := webLinkWith?_drop_eq_some_iff.mp hweb
      exact .web front address hfront hstands haddress hne
  · rintro (⟨name, hname, hstands⟩ | ⟨front, address, hfront, hstands, haddress, hne⟩)
    · exact .inl ⟨name, hname, hstands, rfl⟩
    · exact .inr ⟨front, hfront, webLinkWith?_drop_eq_some_iff.mpr ⟨hstands, address, hne, rfl, haddress⟩⟩

theorem linkAt?_drop_eq_none_iff : linkAt? (cs.drop place) = none ↔ ¬LinkStartsAt cs place := by
  rw [linkStartsAt_iff, Option.eq_none_iff_forall_ne_some, not_exists]
  exact forall_congr' fun link => not_congr linkAt?_drop_eq_some_iff

theorem IsLinkAt.unique {other : List Char} (h : IsLinkAt cs place link) (hother : IsLinkAt cs place other) :
    link = other := by
  rw [← linkAt?_drop_eq_some_iff] at h hother
  exact Option.some.inj (h.symm.trans hother)

/-! ## The search from the left -/

section
variable {c : Char}

theorem isLinkAt_cons_succ_iff : IsLinkAt (c :: cs) (place + 1) link ↔ IsLinkAt cs place link := by
  rw [← linkAt?_drop_eq_some_iff, ← linkAt?_drop_eq_some_iff, List.drop_succ_cons]

theorem linkStartsAt_cons_succ_iff : LinkStartsAt (c :: cs) (place + 1) ↔ LinkStartsAt cs place := by
  simp only [linkStartsAt_iff, isLinkAt_cons_succ_iff]

/-- Where no link starts, the first place for one is the first one further on. -/
theorem isLeast_linkStartsAt_cons (hnothere : ¬LinkStartsAt (c :: cs) 0)
    (h : IsLeast {place | LinkStartsAt cs place} place) :
    IsLeast {place | LinkStartsAt (c :: cs) place} (place + 1) := by
  refine ⟨linkStartsAt_cons_succ_iff.mpr h.1, fun other hother => ?_⟩
  cases other with
  | zero => exact absurd hother hnothere
  | succ other => exact Nat.succ_le_succ (h.2 (linkStartsAt_cons_succ_iff.mp hother))

end

/-- The search finds nothing where no link starts, and otherwise the link at the least place where one does. -/
theorem firstLink?_cases (cs : List Char) :
    (firstLink? cs = none ∧ ∀ place, ¬LinkStartsAt cs place) ∨
      ∃ link place, firstLink? cs = some link ∧ IsLeast {place | LinkStartsAt cs place} place ∧
        IsLinkAt cs place link := by
  induction cs with
  | nil => exact .inl ⟨rfl, fun place => linkAt?_drop_eq_none_iff.mp (by rw [List.drop_nil]; rfl)⟩
  | cons c rest ih =>
    rw [firstLink?]
    cases hhere : linkAt? (c :: rest) with
    | some link =>
      have hlink : IsLinkAt (c :: rest) 0 link := linkAt?_drop_eq_some_iff.mp hhere
      have hstarts : LinkStartsAt (c :: rest) 0 := linkStartsAt_iff.mpr ⟨link, hlink⟩
      exact .inr ⟨link, 0, rfl, ⟨hstarts, fun _ _ => Nat.zero_le _⟩, hlink⟩
    | none =>
      have hnothere : ¬LinkStartsAt (c :: rest) 0 := linkAt?_drop_eq_none_iff.mp hhere
      rw [Option.none_or]
      rcases ih with ⟨hnone, hnowhere⟩ | ⟨link, place, hsome, hleast, hlink⟩
      · refine .inl ⟨hnone, fun place => ?_⟩
        cases place with
        | zero => exact hnothere
        | succ place => exact mt linkStartsAt_cons_succ_iff.mp (hnowhere place)
      · exact .inr ⟨link, place + 1, hsome, isLeast_linkStartsAt_cons hnothere hleast,
          isLinkAt_cons_succ_iff.mpr hlink⟩

theorem firstLink?_eq_none_iff : firstLink? cs = none ↔ ∀ place, ¬LinkStartsAt cs place := by
  rcases firstLink?_cases cs with ⟨hnone, hnowhere⟩ | ⟨link, place, hsome, hleast, -⟩
  · exact iff_of_true hnone hnowhere
  · exact iff_of_false (by rw [hsome]; exact Option.some_ne_none link) fun hnowhere => hnowhere place hleast.1

theorem firstLink?_eq_some_iff :
    firstLink? cs = some link ↔
      ∃ place, IsLeast {place | LinkStartsAt cs place} place ∧ IsLinkAt cs place link := by
  rcases firstLink?_cases cs with ⟨hnone, hnowhere⟩ | ⟨first, place, hsome, hleast, hfirst⟩
  · rw [hnone]
    refine iff_of_false (Option.some_ne_none link).symm ?_
    rintro ⟨place, hleast, -⟩
    exact hnowhere place hleast.1
  · rw [hsome, Option.some.injEq]
    constructor
    · rintro rfl
      exact ⟨place, hleast, hfirst⟩
    · rintro ⟨other, hother, hlink⟩
      obtain rfl := hleast.unique hother
      exact hfirst.unique hlink

/-- A link is a piece of the text in which it is found. -/
theorem infix_of_firstLink? (h : firstLink? cs = some link) : link <:+: cs := by
  obtain ⟨place, -, hlink⟩ := firstLink?_eq_some_iff.mp h
  exact hlink.standsAt.isInfix.trans (List.drop_suffix place cs).isInfix

end Chronicle.Script
