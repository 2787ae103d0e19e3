import Chronicle.Proofs.Text.Trim
import Chronicle.Text.Case
import Mathlib.Data.Int.ModEq
import Mathlib.Data.Nat.GCD.Basic
import Mathlib.Data.Nat.ModEq

/-!
# Lower case a second time

Lower case leaves alone what it has written (`lower_lower`), and it leaves a trimmed text trimmed
(`IsTrimmed.lower`).

*Runs.*  The table of lower case moves code points in runs.  One run *misses* another when it moves nothing to a code
point that the other one moves.  Either it moves its code points past the other run, or the two interleave, and then
the code points have other remainders by the common divisor of the strides.  In the table every run misses every run,
itself included (`misses_of_mem_lowerRuns`).

*Characters.*  So what lower case writes in place of a character is *settled*, which means that it is left as it is
wherever it stands, and it is no blank and no underscore (`Steady`).  A character that is not replaced is settled too:
only the capital sigma looks at its neighbours, and that one is always replaced (`lowerAt_cases`).
-/

namespace Chronicle.Text

/-! ## Runs -/

namespace CaseRun

variable {r other : CaseRun} {n : Nat}

/-- Where the run moves a code point, as a number. -/
def moved (r : CaseRun) (n : Nat) : Nat := (n + r.shift).toNat

/-- The distance between code points of the run.  A single code point has none. -/
def step (r : CaseRun) : Nat := if r.first = r.last then 0 else r.stride

/-- Whether the run moves nothing into a span. -/
def avoids (r : CaseRun) (s : Span) : Bool :=
  (r.moved r.last).blt s.first || s.last.blt (r.moved r.first)

/-- Whether the run moves nothing to a code point of another run. -/
def misses (r other : CaseRun) : Bool :=
  r.avoids ⟨other.first, other.last⟩ ||
    !(r.moved r.first % r.step.gcd other.step).beq (other.first % r.step.gcd other.step)

/-- A run that moves its code points to characters. -/
structure Sound (r : CaseRun) : Prop where
  start : 0 ≤ r.first + r.shift
  scalar : r.moved r.last < 0xd800 ∨ 0xdfff < r.moved r.first ∧ r.moved r.last < 0x110000

instance (r : CaseRun) : Decidable r.Sound :=
  decidable_of_iff (0 ≤ r.first + r.shift ∧
      (r.moved r.last < 0xd800 ∨ 0xdfff < r.moved r.first ∧ r.moved r.last < 0x110000))
    ⟨fun ⟨hstart, hscalar⟩ => ⟨hstart, hscalar⟩, fun h => ⟨h.start, h.scalar⟩⟩

theorem bounds_of_covers (h : r.covers n) : r.first ≤ n ∧ n ≤ r.last ∧ r.step ∣ n - r.first := by
  simp only [covers, Bool.and_eq_true, decide_eq_true_eq, beq_iff_eq] at h
  obtain ⟨⟨hfirst, hlast⟩, hstride⟩ := h
  refine ⟨hfirst, hlast, ?_⟩
  rw [step]
  split
  · next hsingle =>
    have hzero : n - r.first = 0 := by omega
    rw [hzero]
  · exact Nat.dvd_of_mod_eq_zero hstride

/-- Code points are moved all by the same distance. -/
theorem Sound.moved_eq (hr : r.Sound) (h : r.first ≤ n) : r.moved n = r.moved r.first + (n - r.first) := by
  have hstart := hr.start
  rw [moved, moved]
  omega

theorem Sound.moved_bounds (hr : r.Sound) (h : r.covers n) :
    r.moved r.first ≤ r.moved n ∧ r.moved n ≤ r.moved r.last := by
  obtain ⟨hfirst, hlast, -⟩ := bounds_of_covers h
  have hn := hr.moved_eq hfirst
  have hend := hr.moved_eq (Nat.le_trans hfirst hlast)
  omega

theorem Sound.toNat_target (hr : r.Sound) (h : r.covers n) : (r.target n).toNat = r.moved n := by
  have hbounds := hr.moved_bounds h
  have hvalid : (r.moved n).isValidChar := by
    rw [Nat.isValidChar]
    rcases hr.scalar with hlow | ⟨hfirst, hlast⟩
    · exact .inl (by omega)
    · exact .inr ⟨by omega, by omega⟩
  rw [target, ← moved, Char.ofNat, dif_pos hvalid]
  rfl

theorem Sound.not_in_of_avoids {s : Span} (hr : r.Sound) (hs : r.avoids s) (h : r.covers n) :
    ¬(s.first ≤ r.moved n ∧ r.moved n ≤ s.last) := by
  have hbounds := hr.moved_bounds h
  simp only [avoids, Bool.or_eq_true, Nat.blt_eq] at hs
  omega

/-- Where two runs interleave, a code point of both would have the same remainder in both. -/
theorem Sound.not_covers_of_misses (hr : r.Sound) (hother : r.misses other) (h : r.covers n) :
    other.covers (r.moved n) = false := by
  rw [Bool.eq_false_iff]
  intro hcovers
  obtain ⟨hfirst, -, hstep⟩ := bounds_of_covers h
  obtain ⟨hotherFirst, hotherLast, hotherStep⟩ := bounds_of_covers hcovers
  rw [misses, Bool.or_eq_true] at hother
  rcases hother with hapart | hremainder
  · exact hr.not_in_of_avoids hapart h ⟨hotherFirst, hotherLast⟩
  · have hown : r.moved r.first ≡ r.moved n [MOD r.step.gcd other.step] := by
      rw [hr.moved_eq hfirst]
      exact (Nat.modEq_iff_dvd' (Nat.le_add_right _ _)).mpr
        (by simpa using (Nat.gcd_dvd_left _ _).trans hstep)
    have htheirs : other.first ≡ r.moved n [MOD r.step.gcd other.step] :=
      (Nat.modEq_iff_dvd' hotherFirst).mpr ((Nat.gcd_dvd_right _ _).trans hotherStep)
    rw [(Nat.beq_eq ▸ hown.trans htheirs.symm : Nat.beq _ _ = true)] at hremainder
    cases hremainder

end CaseRun

/-! ## The table of lower case -/

/-- The code points that lower case never writes: the underscore, the characters that are always replaced, and the
blanks. -/
def unwrittenSpans : List Span :=
  ⟨0x5f, 0x5f⟩ :: ⟨0x3a3, 0x3a3⟩ :: (lowerExpansions.map (fun row => ⟨row.1, row.1⟩) ++ blankSpans)

theorem sound_of_mem_lowerRuns : ∀ r ∈ lowerRuns, r.Sound := by decide +kernel

theorem avoids_of_mem_lowerRuns {r : CaseRun} (h : r ∈ lowerRuns) : ∀ s ∈ unwrittenSpans, r.avoids s = true := by
  have hall : (lowerRuns.all fun r => unwrittenSpans.all r.avoids) = true := by decide +kernel
  exact List.all_eq_true.mp (List.all_eq_true.mp hall r h)

theorem misses_of_mem_lowerRuns {r : CaseRun} (h : r ∈ lowerRuns) : ∀ other ∈ lowerRuns, r.misses other = true := by
  have hall : (lowerRuns.all fun r => lowerRuns.all r.misses) = true := by decide +kernel
  exact List.all_eq_true.mp (List.all_eq_true.mp hall r h)

/-! ## Characters -/

/-- A character that lower case leaves as it is, wherever it stands. -/
structure Settled (c : Char) : Prop where
  ne_sigma : c ≠ 'Σ'
  image_eq : lowerMap.image c = [c]

/-- A settled character that is neither a blank nor an underscore.  All that lower case writes in place of another
character is of this sort. -/
structure Steady (c : Char) : Prop extends Settled c where
  solid : isBlank c = false
  ne_underscore : c ≠ '_'

instance (c : Char) : Decidable (Steady c) :=
  decidable_of_iff (c ≠ 'Σ' ∧ lowerMap.image c = [c] ∧ isBlank c = false ∧ c ≠ '_')
    ⟨fun ⟨hsigma, himage, hsolid, hunderscore⟩ => ⟨⟨hsigma, himage⟩, hsolid, hunderscore⟩,
      fun h => ⟨h.ne_sigma, h.image_eq, h.solid, h.ne_underscore⟩⟩

theorem steady_target {r : CaseRun} {n : Nat} (h : r ∈ lowerRuns) (hn : r.covers n) : Steady (r.target n) := by
  have hsound := sound_of_mem_lowerRuns r h
  have hnumber := hsound.toNat_target hn
  have hoff : ∀ s ∈ unwrittenSpans, s.contains (r.target n) = false := by
    intro s hs
    have hnot := hsound.not_in_of_avoids (avoids_of_mem_lowerRuns h s hs) hn
    rw [Span.contains, hnumber, Bool.eq_false_iff]
    simpa using hnot
  simp only [unwrittenSpans, List.forall_mem_cons, List.forall_mem_append, List.forall_mem_map] at hoff
  obtain ⟨hunderscore, hsigma, hexpansions, hblanks⟩ := hoff
  have hlookup : lowerMap.expansions.lookup (r.target n).toNat = none := by
    rw [List.lookup_eq_none_iff]
    intro row hrow
    have hne := hexpansions row hrow
    simp only [Span.contains, Bool.and_eq_false_iff, decide_eq_false_iff_not] at hne
    rw [bne_iff_ne]
    omega
  have hfind : lowerMap.runs.find? (·.covers (r.target n).toNat) = none := by
    rw [List.find?_eq_none]
    intro other hother
    rw [hnumber, hsound.not_covers_of_misses (misses_of_mem_lowerRuns h other hother) hn]
    exact Bool.false_ne_true
  refine ⟨⟨?_, ?_⟩, ?_, ?_⟩
  · intro heq
    rw [heq] at hsigma
    cases hsigma
  · rw [CaseMap.image, hlookup, hfind]
  · rw [isBlank, inSpans, List.any_eq_false]
    exact fun s hs => Bool.eq_false_iff.mp (hblanks s hs)
  · intro heq
    rw [heq] at hunderscore
    cases hunderscore

/-- A character stays as it is, or something is written in its place. -/
theorem image_lowerMap_cases (c : Char) :
    lowerMap.image c = [c] ∨ lowerMap.image c ≠ [] ∧ ∀ d ∈ lowerMap.image c, Steady d := by
  have hexpansions : ∀ row ∈ lowerExpansions, row.2 ≠ [] ∧ ∀ n ∈ row.2, Steady (Char.ofNat n) := by decide +kernel
  rw [CaseMap.image]
  cases hlookup : lowerMap.expansions.lookup c.toNat with
  | some ns =>
    obtain ⟨front, back, hrows, -⟩ := List.lookup_eq_some_iff.mp hlookup
    have hrow : (c.toNat, ns) ∈ lowerMap.expansions := by
      rw [hrows]
      exact List.mem_append_right _ List.mem_cons_self
    obtain ⟨hne, hsteady⟩ := hexpansions _ hrow
    exact .inr ⟨mt List.map_eq_nil_iff.mp hne, List.forall_mem_map.mpr hsteady⟩
  | none =>
    cases hfind : lowerMap.runs.find? (·.covers c.toNat) with
    | none => exact .inl rfl
    | some r =>
      have hcovers : r.covers c.toNat := by simpa using List.find?_some hfind
      have hsteady := steady_target (List.mem_of_find?_eq_some hfind) hcovers
      exact .inr ⟨List.cons_ne_nil _ _, List.forall_mem_singleton.mpr hsteady⟩

theorem lowerAt_cases (before : List Char) (c : Char) (after : List Char) :
    lowerAt before c after = [c] ∧ Settled c ∨
      lowerAt before c after ≠ [] ∧ ∀ d ∈ lowerAt before c after, Steady d := by
  rw [lowerAt]
  split
  · refine .inr ⟨List.cons_ne_nil _ _, List.forall_mem_singleton.mpr ?_⟩
    split
    · decide +kernel
    · decide +kernel
  · next hsigma =>
    rcases image_lowerMap_cases c with himage | hsteady
    · exact .inl ⟨himage, hsigma, himage⟩
    · exact .inr hsteady

/-! ## Texts -/

variable {cs : List Char}

/-- The characters of a text in lower case are settled, and they are from the text or written in place of others. -/
theorem mem_lowerFrom {before : List Char} {d : Char} (h : d ∈ lowerFrom before cs) :
    Settled d ∧ (d ∈ cs ∨ Steady d) := by
  induction cs generalizing before with
  | nil => cases h
  | cons c rest ih =>
    rcases List.mem_append.mp h with hhere | hlater
    · rcases lowerAt_cases before c rest with ⟨hkeep, hsettled⟩ | ⟨-, hsteady⟩
      · rw [hkeep] at hhere
        obtain rfl := List.mem_singleton.mp hhere
        exact ⟨hsettled, .inl List.mem_cons_self⟩
      · exact ⟨(hsteady d hhere).toSettled, .inr (hsteady d hhere)⟩
    · exact (ih hlater).imp_right (.imp_left (List.mem_cons_of_mem _))

theorem lowerFrom_eq_self (h : ∀ c ∈ cs, Settled c) (before : List Char) : lowerFrom before cs = cs := by
  induction cs generalizing before with
  | nil => rfl
  | cons c rest ih =>
    obtain ⟨hc, hrest⟩ := List.forall_mem_cons.mp h
    rw [lowerFrom, lowerAt, if_neg hc.ne_sigma, hc.image_eq, ih hrest, List.singleton_append]

@[simp] theorem lower_lower (cs : List Char) : lower (lower cs) = lower cs :=
  lowerFrom_eq_self (fun _ hd => (mem_lowerFrom hd).1) []

/-- No underscore comes out of a text that has none. -/
theorem underscore_not_mem_lower (h : '_' ∉ cs) : '_' ∉ lower cs := by
  intro hmem
  rcases (mem_lowerFrom hmem).2 with hold | hsteady
  · exact h hold
  · exact hsteady.ne_underscore rfl

/-! ## The ends of a text -/

theorem lowerAt_ne_nil (before : List Char) (c : Char) (after : List Char) : lowerAt before c after ≠ [] := by
  rcases lowerAt_cases before c after with ⟨hkeep, -⟩ | ⟨hne, -⟩
  · rw [hkeep]
    exact List.cons_ne_nil c []
  · exact hne

theorem solid_of_mem_lowerAt {before after : List Char} {c d : Char} (hc : isBlank c = false)
    (h : d ∈ lowerAt before c after) : isBlank d = false := by
  rcases lowerAt_cases before c after with ⟨hkeep, -⟩ | ⟨-, hsteady⟩
  · rw [hkeep] at h
    obtain rfl := List.mem_singleton.mp h
    exact hc
  · exact (hsteady d h).solid

theorem StartsSolid.lowerFrom (h : StartsSolid cs) (before : List Char) : StartsSolid (lowerFrom before cs) := by
  cases cs with
  | nil => exact h
  | cons c rest =>
    have hhere : StartsSolid (lowerAt before c rest) :=
      startsSolid_of_forall fun _ => solid_of_mem_lowerAt (startsSolid_cons.mp h)
    exact hhere.append (lowerAt_ne_nil before c rest) _

theorem EndsSolid.lowerFrom (h : EndsSolid cs) (before : List Char) : EndsSolid (lowerFrom before cs) := by
  induction cs generalizing before with
  | nil => exact h
  | cons c rest ih =>
    rw [Text.lowerFrom]
    cases rest with
    | nil =>
      rw [Text.lowerFrom, List.append_nil]
      exact endsSolid_of_forall fun _ => solid_of_mem_lowerAt (h c rfl)
    | cons d rest =>
      have hsplit : EndsSolid ([c] ++ d :: rest) := h
      exact (ih hsplit.of_append (c :: before)).append (List.append_ne_nil_of_left_ne_nil (lowerAt_ne_nil _ _ _) _) _

theorem IsTrimmed.lower (h : IsTrimmed cs) : IsTrimmed (lower cs) :=
  ⟨h.start.lowerFrom [], h.stop.lowerFrom []⟩

end Chronicle.Text
