import Chronicle.Proofs.Script.Admissible
import Chronicle.Proofs.Script.EntityForm
import Chronicle.Proofs.Timeline.Data

/-!
# Reports that survive as data

The timeline of a report is read back from the data that it is written as.  It passes its checks, as every
timeline of a run does, so only its dates are left.

Every date of a report was read from the script: the dates of an item or a marker on its line, and those of
the window by the flag that set it last (`mem_defaultView_foldl_apply`).  So all of them are readable
(`readable_of_mem_moments_scan`).

The main statement is `readTimeline_toValue`.
-/

namespace Chronicle.Script

open Chronicle.Calendar Chronicle.Data Chronicle.Text Chronicle.Timeline

variable {d : Dialect}

/-! ## Dates of flags -/

theorem readable_of_readWindowDate {text : List Char} {m : Moment} (h : readWindowDate text = .ok m) :
    m.Readable := by
  rw [readWindowDate] at h
  split at h
  · next n hread =>
    cases h
    exact readable_of_normalize hread
  · cases h

theorem readable_of_readDefaultView {arguments : List Char} {window : Window}
    (h : readDefaultView d arguments = .ok (.defaultView window)) : ∀ m ∈ window.moments, m.Readable := by
  obtain ⟨parts, -, h⟩ := bind_eq_ok_iff.mp h
  split at h
  · split at h
    · cases h
    · obtain ⟨start, hstart, h⟩ := bind_eq_ok_iff.mp h
      obtain ⟨stop, hstop, h⟩ := bind_eq_ok_iff.mp h
      split at h
      · cases h
      · cases h
        simp only [Window.moments, List.mem_cons, List.not_mem_nil, or_false]
        rintro m (rfl | rfl)
        · exact readable_of_readWindowDate hstart
        · exact readable_of_readWindowDate hstop
  · cases h

theorem readable_of_settingAt? {line : SourceLine} {window : Window}
    (h : settingAt? d line = some (.defaultView window)) : ∀ m ∈ window.moments, m.Readable := by
  rw [settingAt?] at h
  split at h
  · next hread =>
    cases h
    obtain ⟨arguments, hflag⟩ := exists_read hread
    exact readable_of_readDefaultView hflag
  · cases h

theorem mem_defaultView_foldl_apply {settings : List FlagSetting} {flags : Flags} {window : Window}
    (h : window ∈ (settings.foldl FlagSetting.apply flags).defaultView) :
    window ∈ flags.defaultView ∨ .defaultView window ∈ settings := by
  induction settings generalizing flags with
  | nil => exact .inl h
  | cons setting rest ih =>
    rcases ih h with hset | hrest
    · cases setting with
      | defaultView other =>
        cases hset
        exact .inr List.mem_cons_self
      | _ => exact .inl hset
    · exact .inr (List.mem_cons_of_mem _ hrest)

/-! ## Dates of a report -/

variable (source locale : String) (options : Options)

theorem readable_of_mem_moments_scan :
    ∀ m ∈ ((scan d source).report locale options).timeline.moments, m.Readable := by
  intro m hm
  rcases mem_moments_iff.mp hm with ⟨item, hitem, hm⟩ | ⟨marker, hmarker, rfl⟩ | ⟨window, hwindow, hm⟩
  · have hmoments : item.moments ∈
        ((scan d source).report locale options).timeline.items.map Item.moments :=
      List.mem_map_of_mem hitem
    rw [Progress.report, Progress.timeline, map_assembled _ _ _ _ _ _ Item.moments_onSomeLane] at hmoments
    obtain ⟨old, hold, hmoments⟩ := List.mem_map.mp hmoments
    obtain ⟨line, -, entry, i, hdraft, rfl⟩ := exists_draftAt?_of_mem_items hold
    obtain ⟨hstart, hstop⟩ := readable_of_draftAt? hdraft
    rw [← hmoments] at hm
    rcases List.mem_cons.mp hm with rfl | hm
    · exact hstart
    · exact hstop m (Option.mem_toList.mp hm)
  · rw [Progress.report, Progress.timeline, markers_assembled, scan, Progress.markers_run] at hmarker
    obtain ⟨line, -, hline⟩ := List.mem_filterMap.mp hmarker
    exact readable_of_markerAt? hline
  · rw [Progress.report, Progress.timeline, flags_assembled, scan, Progress.flags_run] at hwindow
    rcases mem_defaultView_foldl_apply hwindow with hnone | hset
    · cases hnone
    · obtain ⟨line, -, hline⟩ := List.mem_filterMap.mp hset
      exact readable_of_settingAt? hline m hm

/-! ## Timelines and reports -/

/-- The timeline of a report can be written, and it is read back. -/
theorem survives_of_comesTo {source locale : String} {options : Options} {r : Report}
    (h : ComesTo d source locale options r) : Survives toValue? readTimeline r.timeline := by
  obtain ⟨-, rfl⟩ := comesTo_iff_scan.mp h
  exact survives_of_admissible (admissible_timeline_scan source locale options)
    (readable_of_mem_moments_scan source locale options)

/-- A timeline that passes its checks can be written as data, and it is read back from the data, provided that its
years have no more than nine digits.  The timeline of a report always is. -/
theorem readTimeline_toValue :
    (∀ (v : Value) (t : Timeline), readTimeline v = .sound t →
      (∀ m ∈ t.moments, m.year.natAbs ≤ 999999999) →
        ∃ written, t.toValue? = some written ∧ readTimeline written = .sound t) ∧
    ∀ (d : Dialect) (source locale : String) (options : Options) (r : Report),
      ComesTo d source locale options r →
        ∃ written, r.timeline.toValue? = some written ∧ readTimeline written = .sound r.timeline := by
  constructor
  · intro v t hread hyears
    obtain ⟨hadmissible, hreal⟩ := admissible_of_readTimeline hread
    exact survives_of_admissible hadmissible fun m hm => ⟨hreal m hm, hyears m hm⟩
  · intro d source locale options r h
    exact survives_of_comesTo h

/-- Data that leaves much out, with a date by its components, and a script of items, a marker, flags and a line
that is wrong. -/
theorem readTimeline_toValue_moonLanding :
    (∃ t : Timeline,
      readTimeline (.record [
        ("items", .list [.record [
          ("id", .text "0"), ("content", .text "Moon landing"),
          ("start", .record [("year", .int 1969), ("month", .int 7), ("day", .int 20)]),
          ("source_line", .int 1), ("kind", .text "point")]]),
        ("flags", .record [
          ("default_view", .record [("start", .text "1960"), ("end", .text "1970")]),
          ("height", .int 300)])]) = .sound t ∧
      (∀ m ∈ t.moments, m.year.natAbs ≤ 999999999) ∧
      ∃ written, t.toValue? = some written ∧ readTimeline written = .sound t) ∧
    ∃ r : Report,
      ComesTo .standard
        "* [1969-07-20] Moon landing \x7bSpace\x7d\n= [2000] Millennium\n> HEIGHT 300\n- [2020-13] a"
        "en" {} r ∧
      r.issues.map Issue.line = [4] ∧
      ∃ written, r.timeline.toValue? = some written ∧ readTimeline written = .sound r.timeline := by
  obtain ⟨hdata, hreport⟩ := readTimeline_toValue
  have hread : readTimeline (.record [
      ("items", .list [.record [
        ("id", .text "0"), ("content", .text "Moon landing"),
        ("start", .record [("year", .int 1969), ("month", .int 7), ("day", .int 20)]),
        ("source_line", .int 1), ("kind", .text "point")]]),
      ("flags", .record [
        ("default_view", .record [("start", .text "1960"), ("end", .text "1970")]),
        ("height", .int 300)])]) =
      .sound
        { items :=
            [{ id := 0, content := "Moon landing", start := { year := 1969, month := 7, day := 20 },
               sourceLine := 1, extent := .point }]
          flags :=
            { defaultView :=
                some ⟨{ year := 1960, month := 1, day := 1 }, { year := 1970, month := 1, day := 1 }⟩
              height := some 300 } } := by
    decide +kernel
  refine ⟨⟨_, hread, by decide, hdata _ _ hread (by decide)⟩, ?_⟩
  have hscript : ComesTo .standard
      "* [1969-07-20] Moon landing \x7bSpace\x7d\n= [2000] Millennium\n> HEIGHT 300\n- [2020-13] a" "en" {}
      { timeline :=
          { items :=
              [{ id := 0, content := "Moon landing", start := { year := 1969, month := 7, day := 20 },
                 lane := some 1, sourceLine := 1, extent := .point }]
            markers := [⟨{ year := 2000, month := 1, day := 1 }, "Millennium", 2⟩]
            lanes := [⟨1, "Space"⟩, ⟨0, " "⟩]
            flags := { height := some 300 } }
        issues := [⟨4, .date (.month 13)⟩] } :=
    .inr ⟨by decide, by decide +kernel⟩
  exact ⟨_, hscript, by decide, hreport _ _ _ _ _ hscript⟩

end Chronicle.Script
