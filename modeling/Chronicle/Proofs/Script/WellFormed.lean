import Chronicle.Proofs.Script.EntityForm
import Chronicle.Proofs.Script.FirstLink
import Chronicle.Proofs.Script.ReportData
import Chronicle.Proofs.Text.Split
import Chronicle.Proofs.Timeline.WellFormed

/-!
# Scripts give well-formed timelines

Whatever a script declares is well formed, also when other lines of it are wrong.  Two things have to be seen.

*What a line gives.*  The dates of an item were read, its content and its description were trimmed, its color is
the name of a tag, and its link is a piece of its description (`infix_of_firstLink?`).  So the item of a draft is
well formed, whatever number and lane it gets (`wellFormed_toItem`).  What a flag is set to has passed the checks
of the flag (`wellFormed_of_read`).

*What lines add up to.*  Progress stays well formed with every further line (`Progress.WellFormed.after`), since a
line adds one thing, or sets one flag in place of an earlier setting, or changes nothing.

The main statement is `wellFormed_timeline`.
-/

namespace Chronicle.Script

open Chronicle.Calendar Chronicle.Text Chronicle.Timeline

variable {d : Dialect}

/-! ## Items -/

theorem isColor_of_findSome? {tokens : List HeadToken} {name : List Char}
    (hformed : ∀ token ∈ tokens, token.Formed) (h : tokens.findSome? HeadToken.tagName? = some name) :
    IsColor name := by
  obtain ⟨token, htoken, hname⟩ := List.exists_of_findSome?_eq_some h
  cases token with
  | lane label => cases hname
  | tag other =>
    cases hname
    obtain ⟨hne, hchars⟩ := hformed _ htoken
    refine ⟨hne, fun c hc => ?_⟩
    simpa [isTagChar] using hchars c hc

theorem nonempty?_eq_some_iff {cs : List Char} {text : String} :
    nonempty? cs = some text ↔ cs ≠ [] ∧ text = String.ofList cs := by
  rw [nonempty?]
  cases cs with
  | nil => simp
  | cons c rest => simp [eq_comm]

/-- An item is well formed if its dates are, whatever stands behind them. -/
theorem wellFormed_toItem {start : Moment} {extent : Extent} (h : Dated start extent.stop?) (head : List Char)
    (description : Option (List Char)) (labels : List String) (id line : Nat) :
    ((draftItem start extent head description).toItem labels id line).WellFormed where
  span := ⟨h.readable.1, fun m hm => (h.readableStop m hm).1, h.order⟩
  kind := fitsKind_extent extent
  content := by
    show IsTrimmed (String.ofList (splitHead head).content).toList
    rw [String.toList_ofList]
    exact isTrimmed_trim _
  color color hcolor := by
    obtain ⟨name, hname, rfl⟩ := Option.map_eq_some_iff.mp hcolor
    rw [String.toList_ofList]
    exact isColor_of_findSome? (fun _ => formed_of_mem_headTokens) hname
  description text htext := by
    obtain ⟨hne, rfl⟩ := nonempty?_eq_some_iff.mp htext
    refine ⟨fun hempty => hne (by simpa using congrArg String.toList hempty), ?_⟩
    rw [String.toList_ofList]
    cases description with
    | none => exact absurd rfl hne
    | some cs => exact isTrimmed_trim cs
  link link hlink := by
    obtain ⟨cs, hcs, rfl⟩ := Option.map_eq_some_iff.mp hlink
    -- There is no link in an empty text, so the item has a description.
    have hne : (description.map trim).getD [] ≠ [] := by
      intro hempty
      rw [hempty] at hcs
      cases hcs
    refine ⟨_, nonempty?_eq_some_iff.mpr ⟨hne, rfl⟩, ?_⟩
    rw [String.toList_ofList, String.toList_ofList]
    exact infix_of_firstLink? hcs

/-! ## Flags -/

/-- A setting that leaves well-formed flags well formed. -/
def FlagSetting.WellFormed (fields : List String) : FlagSetting → Prop
  | .orderBy keys => IsSortOrder fields keys
  | .defaultView window => IsSpan window.start (some window.stop)
  | .hideCurrentTime => True
  | .height pixels => 1 ≤ pixels

theorem isSortKey_ofList {fields : List String} {key : List Char}
    (h : String.ofList (sortField key) ∈ fields) : IsSortKey fields (String.ofList key) := by
  refine ⟨_, h, ?_⟩
  rw [sortField]
  cases hdrop : dropFront? ['-'] key with
  | none => exact .inl rfl
  | some field =>
    rw [dropFront?_eq_some_iff.mp hdrop]
    exact .inr String.ofList_append

theorem wellFormed_of_readOrderBy {arguments : List Char} {setting : FlagSetting}
    (h : readOrderBy d arguments = .ok setting) : setting.WellFormed d.orderKeys := by
  obtain ⟨keys, hkeys, h⟩ := bind_eq_ok_iff.mp h
  have hne : keys ≠ [] := by
    rw [splitArguments] at hkeys
    split at hkeys
    · cases hkeys
    · cases hkeys
      simpa using splitAll_ne_nil _ _
  split at h
  · cases h
  · cases hunknown : firstUnknownKey? d keys with
    | some key =>
      simp only [hunknown] at h
      cases h
    | none =>
      simp only [hunknown] at h
      cases h
      refine ⟨by simpa using hne, fun key hkey => ?_⟩
      obtain ⟨cs, hcs, rfl⟩ := List.mem_map.mp hkey
      have hfield := List.find?_eq_none.mp hunknown cs hcs
      exact isSortKey_ofList (by simpa using hfield)

theorem wellFormed_of_readDefaultView {arguments : List Char} {window : Window}
    (h : readDefaultView d arguments = .ok (.defaultView window)) : IsSpan window.start (some window.stop) := by
  have hreadable := readable_of_readDefaultView h
  have hchecked : checkedWindow window = .sound window := admissible_of_readDefaultView h
  rw [checkedWindow] at hchecked
  split at hchecked
  · cases hchecked
  · next hordered =>
    refine ⟨(hreadable _ List.mem_cons_self).1, ?_, ?_⟩
    · rintro _ ⟨⟩
      exact (hreadable _ (List.mem_cons_of_mem _ List.mem_cons_self)).1
    · rintro _ ⟨⟩
      exact Bool.eq_false_iff.mpr hordered

/-- What a line sets a flag to is well formed. -/
theorem wellFormed_of_read {arguments : List Char} {setting : FlagSetting}
    (h : setting.flag.read d arguments = .ok setting) : setting.WellFormed d.orderKeys := by
  cases setting with
  | orderBy keys => exact wellFormed_of_readOrderBy h
  | defaultView window => exact wellFormed_of_readDefaultView h
  | hideCurrentTime => trivial
  | height pixels => exact admissible_of_readHeight h

theorem FlagSetting.WellFormed.apply {fields : List String} {flags : Flags} {setting : FlagSetting}
    (h : setting.WellFormed fields) (hflags : flags.WellFormed fields) :
    (setting.apply flags).WellFormed fields := by
  cases setting with
  | orderBy keys =>
    refine ⟨?_, hflags.window, hflags.height⟩
    rintro _ ⟨⟩
    exact h
  | defaultView window =>
    refine ⟨hflags.orderBy, ?_, hflags.height⟩
    rintro _ ⟨⟩
    exact h
  | hideCurrentTime => exact ⟨hflags.orderBy, hflags.window, hflags.height⟩
  | height pixels =>
    refine ⟨hflags.orderBy, hflags.window, ?_⟩
    rintro _ ⟨⟩
    exact h

/-! ## Line by line -/

namespace Progress

/-- Everything that was declared is well formed. -/
structure WellFormed (fields : List String) (p : Progress) : Prop where
  items : ∀ item ∈ p.items, item.WellFormed
  markers : ∀ marker ∈ p.markers, marker.WellFormed
  flags : p.flags.WellFormed fields

theorem WellFormed.empty (fields : List String) : WellFormed fields {} where
  items _ h := absurd h List.not_mem_nil
  markers _ h := absurd h List.not_mem_nil
  flags := .empty fields

variable {fields : List String} {p : Progress}

theorem WellFormed.addItem (h : p.WellFormed fields) {draft : Draft} (line : Nat)
    (hdraft : ∀ labels id, (draft.toItem labels id line).WellFormed) :
    (p.addItem line draft).WellFormed fields where
  items item hitem := by
    rcases List.mem_append.mp hitem with hold | hnew
    · rw [items_declare] at hold
      exact h.items item hold
    · obtain rfl := List.mem_singleton.mp hnew
      exact hdraft _ _
  markers := by
    rw [Progress.addItem, markers_declare]
    exact h.markers
  flags := by
    rw [Progress.addItem, flags_declare]
    exact h.flags

theorem WellFormed.apply (h : p.WellFormed d.orderKeys) {text : String} {effect : Effect}
    (hread : readLine d text.toList = .ok effect) (line : Nat) : (p.apply line effect).WellFormed d.orderKeys := by
  cases effect with
  | none => exact h
  | flag setting =>
    obtain ⟨arguments, hsetting⟩ := exists_read hread
    exact ⟨h.items, h.markers, (wellFormed_of_read hsetting).apply h.flags⟩
  | entity entity =>
    obtain ⟨start, stop, head, description, -, hdated, hbuilds⟩ := exists_builds_of_readLine hread
    cases hbuilds with
    | item extent hstop =>
      subst hstop
      exact h.addItem line fun labels id => wellFormed_toItem hdated head description labels id line
    | marker hstop =>
      refine ⟨h.items, fun marker hmarker => ?_, h.flags⟩
      rcases List.mem_append.mp hmarker with hold | hnew
      · exact h.markers marker hold
      · obtain rfl := List.mem_singleton.mp hnew
        refine ⟨hdated.readable.1, ?_⟩
        rw [String.toList_ofList]
        exact isTrimmed_trim head

/-- A further line leaves everything well formed. -/
theorem WellFormed.after (h : p.WellFormed d.orderKeys) (line : SourceLine) :
    (p.after d line).WellFormed d.orderKeys := by
  rw [Progress.after]
  cases hread : readLine d line.text.toList with
  | ok effect => exact h.apply hread line.number
  | error trouble =>
    cases trouble with
    | fault fault => exact h
    | line error => exact ⟨h.items, h.markers, h.flags⟩

theorem WellFormed.run (h : p.WellFormed d.orderKeys) (ls : List SourceLine) :
    (p.run d ls).WellFormed d.orderKeys := by
  induction ls generalizing p with
  | nil => exact h
  | cons line rest ih => exact ih (h.after line)

theorem WellFormed.timeline (h : p.WellFormed fields) (locale : String) (options : Options) :
    (p.timeline locale options).WellFormed fields := by
  rw [Progress.timeline]
  exact .assembled h.items h.markers h.flags p.lanes (chosenLocale locale) options

end Progress

/-! ## Timelines -/

theorem wellFormed_timeline_scan (d : Dialect) (source locale : String) (options : Options) :
    ((scan d source).report locale options).timeline.WellFormed d.orderKeys := by
  have h : (scan d source).WellFormed d.orderKeys := (Progress.WellFormed.empty d.orderKeys).run _
  dsimp only [Progress.report]
  exact h.timeline locale options

/-- Every script of the standard dialect that comes to a timeline comes to a well-formed one, with or without lines
that are wrong. -/
theorem wellFormed_timeline {source locale : String} {options : Options} {r : Report}
    (h : ComesTo .standard source locale options r) :
    r.timeline.WellFormed ["start", "end", "content", "color", "group", "description"] := by
  obtain ⟨-, rfl⟩ := comesTo_iff_scan.mp h
  have hfields : Dialect.standard.orderKeys = ["start", "end", "content", "color", "group", "description"] := rfl
  rw [← hfields]
  exact wellFormed_timeline_scan .standard source locale options

/-- A period with a color and a link, and a flag, in front of a line that is wrong. -/
theorem wellFormed_timeline_secondWar :
    ∃ r : Report,
      ComesTo .standard "@ [1939~1945] War #gray | see [[WW2]]\n> ORDERBY -start|content\n- [2020-13] a" "en" {} r ∧
      r.issues.map Issue.line = [3] ∧ r.timeline.items.map Item.link = [some "[[WW2]]"] ∧
      r.timeline.flags.orderBy = some ["-start", "content"] ∧
      r.timeline.WellFormed ["start", "end", "content", "color", "group", "description"] := by
  have hscript : ComesTo .standard
      "@ [1939~1945] War #gray | see [[WW2]]\n> ORDERBY -start|content\n- [2020-13] a" "en" {}
      { timeline :=
          { items :=
              [{ id := 0, content := "War", start := { year := 1939, month := 1, day := 1 },
                 color := some "gray", description := some "see [[WW2]]", link := some "[[WW2]]",
                 sourceLine := 1, extent := .period { year := 1945, month := 1, day := 1 } }]
            flags := { orderBy := some ["-start", "content"] } }
        issues := [⟨3, .date (.month 13)⟩] } :=
    .inr ⟨by decide, by decide +kernel⟩
  exact ⟨_, hscript, by decide, by decide, by decide, wellFormed_timeline hscript⟩

end Chronicle.Script
