import Chronicle.Proofs.Data.StableSort
import Chronicle.Proofs.Script.LineForm
import Chronicle.Script.Compile
import Mathlib.Data.List.Nodup
import Mathlib.Tactic.MkIffOfInductiveProp

/-!
# Sigils of any dialect

A dialect may have any texts as sigils, one of them at the start of another and even the empty one.  A line is read
as the kind of the longest sigil that it starts with.

*The longest sigil.*  The sigils are tried in the order of their lengths, longer ones first, and the first that fits
is taken.  No sigil that stands in front of it fits, and none behind it is longer (`exists_isLongestSigil`).  Two
sigils of one length that a line starts with are the same text.  So in a dialect that has every sigil once nothing
depends on the order in which they are listed (`sigil?_eq_some_iff`).

*Other orders.*  Sigils are looked at nowhere else, so dialects with the same sigils in different orders give the
same timelines (`parse_of_perm`).
-/

namespace Chronicle.Script

open Chronicle.Calendar Chronicle.Data Chronicle.Text Chronicle.Timeline

variable {d : Dialect} {line body : List Char} {sigil : String} {kind : EntityKind}

/-- Every sigil of a dialect is listed once. -/
def Dialect.DistinctSigils (d : Dialect) : Prop := (d.sigils.map Prod.fst).Nodup

/-- Whether a line starts with a sigil. -/
def StartsWithSigil (d : Dialect) (line : List Char) : Prop := ∃ entry ∈ d.sigils, entry.1.toList <+: line

/-- A sigil that a line starts with, its kind and what stands behind it, where the line starts with no longer
sigil. -/
@[mk_iff]
structure IsLongestSigil (d : Dialect) (line : List Char) (sigil : String) (kind : EntityKind) (body : List Char) :
    Prop where
  mem : (sigil, kind) ∈ d.sigils
  eq_append : line = sigil.toList ++ body
  longest : ∀ entry ∈ d.sigils, entry.1.toList <+: line → entry.1.toList.length ≤ sigil.toList.length

/-- An entity that is what its kind says.  A kind with a name of the dialect's own is drawn as an event. -/
inductive Entity.IsOfKind : EntityKind → Entity → Prop
  | marker (start : Moment) (label : String) : IsOfKind .marker (.marker start label)
  | item {kind : ItemKind} {draft : Draft} (hkind : draft.extent.kind = kind) : IsOfKind (.item kind) (.item draft)
  | other (name : String) {draft : Draft} (hkind : draft.extent.kind = .event) :
    IsOfKind (.other name) (.item draft)

/-! ## The longest sigil -/

theorem mem_sigilsByLength_iff {entry : String × EntityKind} : entry ∈ d.sigilsByLength ↔ entry ∈ d.sigils :=
  (perm_stableSort _ d.sigils).mem_iff

theorem pairwise_sigilsByLength (d : Dialect) :
    d.sigilsByLength.Pairwise fun a b => b.1.toList.length ≤ a.1.toList.length := by
  have hranks : Ranks (fun a b : String × EntityKind => b.1.toList.length < a.1.toList.length) d.sigils := by
    constructor
    · intro a _ b _ hab
      simp only [decide_eq_true_eq, decide_eq_false_iff_not] at hab ⊢
      omega
    · intro a _ b _ c _ hac
      simp only [decide_eq_true_eq] at hac ⊢
      omega
  have hany : d.sigils.Pairwise fun _ _ => True := List.pairwise_of_forall fun _ _ => trivial
  refine (pairwise_stableSort hranks hany).imp fun hsettled => ?_
  rcases hsettled with hbefore | ⟨hnot, -⟩
  · exact Nat.le_of_lt (of_decide_eq_true hbefore)
  · exact Nat.not_lt.mp (of_decide_eq_false hnot)

theorem sigil?_eq_none_iff : d.sigil? line = none ↔ ¬StartsWithSigil d line := by
  simp only [Dialect.sigil?, StartsWithSigil, List.findSome?_eq_none_iff, Option.map_eq_none_iff,
    dropFront?_eq_none_iff, mem_sigilsByLength_iff, not_exists, not_and]

theorem exists_isLongestSigil (h : d.sigil? line = some (kind, body)) :
    ∃ sigil, IsLongestSigil d line sigil kind body := by
  obtain ⟨front, ⟨sigil, kind⟩, back, hsigils, hfound, hfront⟩ := List.findSome?_eq_some_iff.mp h
  obtain ⟨body, hbody, heq⟩ := Option.map_eq_some_iff.mp hfound
  obtain ⟨rfl, rfl⟩ := Prod.mk.inj heq
  have hmem : (sigil, kind) ∈ d.sigilsByLength := by
    rw [hsigils]
    exact List.mem_append_right _ List.mem_cons_self
  refine ⟨sigil, mem_sigilsByLength_iff.mp hmem, dropFront?_eq_some_iff.mp hbody, fun entry hentry hprefix => ?_⟩
  rw [← mem_sigilsByLength_iff, hsigils, List.mem_append, List.mem_cons] at hentry
  rcases hentry with hentry | rfl | hentry
  · have hnone := Option.map_eq_none_iff.mp (hfront entry hentry)
    exact absurd hprefix (dropFront?_eq_none_iff.mp hnone)
  · exact Nat.le_refl _
  · have hsorted := pairwise_sigilsByLength d
    rw [hsigils] at hsorted
    exact List.rel_of_pairwise_cons (List.pairwise_append.mp hsorted).2.1 hentry

/-- Sigils of one length at the start of a line are the same text, and a text is a sigil of one kind only. -/
theorem IsLongestSigil.unique {otherSigil : String} {otherKind : EntityKind} {otherBody : List Char}
    (h : IsLongestSigil d line sigil kind body) (hd : d.DistinctSigils)
    (hother : IsLongestSigil d line otherSigil otherKind otherBody) : kind = otherKind ∧ body = otherBody := by
  have hlength : sigil.toList.length = otherSigil.toList.length :=
    Nat.le_antisymm (hother.longest _ h.mem ⟨body, h.eq_append.symm⟩)
      (h.longest _ hother.mem ⟨otherBody, hother.eq_append.symm⟩)
  obtain ⟨hsigil, hbody⟩ := List.append_inj (h.eq_append.symm.trans hother.eq_append) hlength
  have hentry := List.inj_on_of_nodup_map hd h.mem hother.mem (String.toList_injective hsigil)
  exact ⟨congrArg Prod.snd hentry, hbody⟩

theorem sigil?_eq_some_iff (hd : d.DistinctSigils) :
    d.sigil? line = some (kind, body) ↔ ∃ sigil, IsLongestSigil d line sigil kind body := by
  refine ⟨exists_isLongestSigil, ?_⟩
  rintro ⟨sigil, hsigil⟩
  cases hfound : d.sigil? line with
  | none => exact absurd ⟨_, hsigil.mem, body, hsigil.eq_append.symm⟩ (sigil?_eq_none_iff.mp hfound)
  | some found =>
    obtain ⟨otherKind, otherBody⟩ := found
    obtain ⟨otherSigil, hother⟩ := exists_isLongestSigil hfound
    obtain ⟨rfl, rfl⟩ := hsigil.unique hd hother
    rfl

/-! ## The kind of an entity -/

theorem isOfKind_of_buildEntity {start : Moment} {stop : Option Moment} {head : List Char}
    {description : Option (List Char)} {entity : Entity}
    (h : buildEntity kind start stop head description = .ok entity) : entity.IsOfKind kind := by
  cases kind with
  | marker =>
    cases stop with
    | none => cases h; exact .marker start _
    | some stop => cases h
  | other name => cases h; exact .other name rfl
  | item kind =>
    cases kind with
    | event => cases h; exact .item rfl
    | period =>
      cases stop with
      | none => cases h
      | some stop => cases h; exact .item rfl
    | point =>
      cases stop with
      | none => cases h; exact .item rfl
      | some stop => cases h

theorem isOfKind_of_readEntity {entity : Entity} (h : readEntity d kind body line = .ok entity) :
    entity.IsOfKind kind := by
  rw [readEntity] at h
  split at h
  · cases h
  · obtain ⟨dates, -, hbuild⟩ := bind_eq_ok_iff.mp h
    exact isOfKind_of_buildEntity hbuild

theorem isOfKind_of_readLine {text : List Char} {entity : Entity}
    (hline : readLine d text = (readEntity d kind body line).map .entity)
    (h : readLine d text = .ok (.entity entity)) : entity.IsOfKind kind := by
  rw [hline] at h
  obtain ⟨read, hread, heq⟩ := map_eq_ok_iff.mp h
  cases heq
  exact isOfKind_of_readEntity hread

/-! ## Sigils in another order -/

section Order

variable {sigils : List (String × EntityKind)}

theorem isLongestSigil_iff_of_perm (hperm : sigils.Perm d.sigils) :
    IsLongestSigil { d with sigils } line sigil kind body ↔ IsLongestSigil d line sigil kind body := by
  simp only [isLongestSigil_iff, hperm.mem_iff]

theorem sigil?_of_perm (hperm : sigils.Perm d.sigils) (hd : d.DistinctSigils) (line : List Char) :
    Dialect.sigil? { d with sigils } line = d.sigil? line := by
  have hdistinct : Dialect.DistinctSigils { d with sigils } := (hperm.map Prod.fst).nodup_iff.mpr hd
  refine Option.ext fun ⟨kind, body⟩ => ?_
  rw [sigil?_eq_some_iff hdistinct, sigil?_eq_some_iff hd]
  exact exists_congr fun sigil => isLongestSigil_iff_of_perm hperm

theorem bracket?_withSigils (d : Dialect) (sigils : List (String × EntityKind)) (body : List Char) :
    Dialect.bracket? { d with sigils } body = d.bracket? body := by
  induction body with
  | nil => rfl
  | cons c rest ih =>
    rw [Dialect.bracket?, Dialect.bracket?, ih]
    rfl

theorem readEntity_withSigils (d : Dialect) (sigils : List (String × EntityKind)) (kind : EntityKind)
    (body line : List Char) : readEntity { d with sigils } kind body line = readEntity d kind body line := by
  rw [readEntity, bracket?_withSigils]
  rfl

theorem readFlag_withSigils (d : Dialect) (sigils : List (String × EntityKind)) (body : List Char) :
    readFlag { d with sigils } body = readFlag d body := by
  have hread (flag : FlagName) (arguments : List Char) :
      flag.read { d with sigils } arguments = flag.read d arguments := by
    cases flag <;> rfl
  simp only [readFlag, hread]
  rfl

theorem readLine_of_perm (hperm : sigils.Perm d.sigils) (hd : d.DistinctSigils) (text : List Char) :
    readLine { d with sigils } text = readLine d text := by
  have hclassify : Dialect.classify { d with sigils } (trim text) = d.classify (trim text) := by
    rw [Dialect.classify, sigil?_of_perm hperm hd]
    rfl
  simp only [readLine, hclassify, readFlag_withSigils, readEntity_withSigils]

theorem readLines_of_perm (hperm : sigils.Perm d.sigils) (hd : d.DistinctSigils) (p : Progress)
    (ls : List SourceLine) : readLines { d with sigils } p ls = readLines d p ls := by
  have hstep (p : Progress) (line : SourceLine) : p.step { d with sigils } line = p.step d line := by
    rw [Progress.step, Progress.step, readLine_of_perm hperm hd]
  induction ls generalizing p with
  | nil => rfl
  | cons line rest ih => simp only [readLines, hstep, ih]

theorem parse_of_perm (hperm : sigils.Perm d.sigils) (hd : d.DistinctSigils) (source locale : String)
    (options : Options) : parse { d with sigils } source locale options = parse d source locale options := by
  rw [parse, parse, compile, compile, readLines_of_perm hperm hd]

end Order

/-! ## Lines -/

/-- In a dialect that has every sigil once, a line that is neither skipped nor a flag is read as the kind of the
longest sigil that it starts with, from behind this sigil.  Without a sigil it is read whole as an event if it opens
like one, and is unknown otherwise.  The entity that such a line declares is of this kind.  The order in which the
dialect lists its sigils changes no timeline. -/
theorem readLine_longestSigil (hd : d.DistinctSigils) :
    (∀ text : String, ¬IsSkipped d text → ¬IsFlagLine d text →
      (StartsWithSigil d (trim text.toList) →
        ∃ sigil kind body, IsLongestSigil d (trim text.toList) sigil kind body) ∧
      (∀ sigil kind body, IsLongestSigil d (trim text.toList) sigil kind body →
        readLine d text.toList = (readEntity d kind body (trim text.toList)).map .entity ∧
        ∀ entity, readLine d text.toList = .ok (.entity entity) → entity.IsOfKind kind) ∧
      (¬StartsWithSigil d (trim text.toList) → d.bareOpener.toList <+: trim text.toList →
        readLine d text.toList =
          (readEntity d (.item .event) (trim text.toList) (trim text.toList)).map .entity ∧
        ∀ entity, readLine d text.toList = .ok (.entity entity) → entity.IsOfKind (.item .event)) ∧
      (¬StartsWithSigil d (trim text.toList) → ¬d.bareOpener.toList <+: trim text.toList →
        ∃ error : LineError, error.label = "UnrecognizedEntityLine" ∧ readLine d text.toList = refuse error)) ∧
    ∀ sigils : List (String × EntityKind), sigils.Perm d.sigils → ∀ (source locale : String) (options : Options),
      parse { d with sigils } source locale options = parse d source locale options := by
  refine ⟨fun text hskip hflag => ⟨fun hstarts => ?_, fun sigil kind body hlongest => ?_, fun hstarts hbare => ?_,
    fun hstarts hbare => ?_⟩, fun sigils hperm => parse_of_perm hperm hd⟩
  · obtain ⟨⟨kind, body⟩, hfound⟩ :=
      Option.ne_none_iff_exists'.mp (mt sigil?_eq_none_iff.mp (not_not.mpr hstarts))
    obtain ⟨sigil, hlongest⟩ := exists_isLongestSigil hfound
    exact ⟨sigil, kind, body, hlongest⟩
  · have hfound := (sigil?_eq_some_iff hd).mpr ⟨sigil, hlongest⟩
    have hline : readLine d text.toList = (readEntity d kind body (trim text.toList)).map .entity := by
      rw [readLine, classify_of_not_isFlagLine hskip hflag, hfound]
    exact ⟨hline, fun entity => isOfKind_of_readLine hline⟩
  · have hline : readLine d text.toList =
        (readEntity d (.item .event) (trim text.toList) (trim text.toList)).map .entity := by
      rw [readLine, classify_of_not_isFlagLine hskip hflag, sigil?_eq_none_iff.mpr hstarts]
      simp only [List.isPrefixOf_iff_prefix.mpr hbare, if_true]
    exact ⟨hline, fun entity => isOfKind_of_readLine hline⟩
  · refine ⟨.unknownLine (String.ofList (trim text.toList)), rfl, ?_⟩
    have hopens : ¬d.bareOpener.toList.isPrefixOf (trim text.toList) = true := mt List.isPrefixOf_iff_prefix.mp hbare
    rw [readLine, classify_of_not_isFlagLine hskip hflag, sigil?_eq_none_iff.mpr hstarts]
    simp only [if_neg hopens]

/-- A dialect with a sigil that starts another one, and with the empty sigil. -/
def dashes : Dialect := { sigils := [("-", .item .event), ("", .marker), ("--", .item .period)] }

/-- The longest of three sigils is listed last, and the order does not matter. -/
theorem readLine_longestSigil_dashes :
    dashes.DistinctSigils ∧ ¬IsSkipped dashes " -- [2019~2020] Build" ∧ ¬IsFlagLine dashes " -- [2019~2020] Build" ∧
      readLine dashes " -- [2019~2020] Build".toList =
        (readEntity dashes (.item .period) " [2019~2020] Build".toList "-- [2019~2020] Build".toList).map .entity ∧
      (∃ entity, readLine dashes " -- [2019~2020] Build".toList = .ok (.entity entity) ∧
        entity.IsOfKind (.item .period)) ∧
      ∀ source, parse { dashes with sigils := dashes.sigils.reverse } source = parse dashes source := by
  have hdistinct : dashes.DistinctSigils := by
    rw [Dialect.DistinctSigils]
    decide
  have hline : trim " -- [2019~2020] Build".toList = "-- [2019~2020] Build".toList := by decide +kernel
  have hskip : ¬IsSkipped dashes " -- [2019~2020] Build" := by
    rw [IsSkipped, hline]
    decide
  have hflag : ¬IsFlagLine dashes " -- [2019~2020] Build" := by
    rw [IsFlagLine, hline]
    decide
  have hlongest : IsLongestSigil dashes (trim " -- [2019~2020] Build".toList) "--" (.item .period)
      " [2019~2020] Build".toList := by
    rw [hline]
    refine ⟨by decide, rfl, ?_⟩
    decide
  have hbuilt : readLine dashes " -- [2019~2020] Build".toList = .ok (.entity (.item
      { content := "Build", start := { year := 2019, month := 1, day := 1 }
        extent := .period { year := 2020, month := 1, day := 1 } })) := by
    decide +kernel
  obtain ⟨hlines, horders⟩ := readLine_longestSigil hdistinct
  obtain ⟨hread, hkind⟩ := (hlines _ hskip hflag).2.1 _ _ _ hlongest
  refine ⟨hdistinct, hskip, hflag, ?_, ⟨_, hbuilt, hkind _ hbuilt⟩,
    fun source => horders _ dashes.sigils.reverse_perm source "en" {}⟩
  rw [hread, hline]

end Chronicle.Script
