import Chronicle.Proofs.Script.LineForm
import Chronicle.Proofs.Script.LineNumbers
import Chronicle.Proofs.Timeline.Admissible

/-!
# What passes the checks

Items, windows, flags and timelines are only made if they pass the checks of their fields.  A script that ran
into such a check would have no answer.

None does.  What a flag line sets passes its check when the line is read (`admissible_of_read`), the flags
stay admissible as lines set them (`Flags.Admissible.foldl_apply`), and the timeline of a run passes all of
its own (`admissible_timeline_scan`).
-/

namespace Chronicle

open Chronicle.Calendar Chronicle.Text Chronicle.Timeline

namespace Script

variable {d : Dialect}

/-! ## Flags -/

/-- A setting that passes its check. -/
def FlagSetting.Admissible : FlagSetting → Prop
  | .orderBy _ => True
  | .defaultView window => checkedWindow window = .sound window
  | .hideCurrentTime => True
  | .height pixels => 0 < pixels

theorem admissible_of_readDefaultView {arguments : List Char} {setting : FlagSetting}
    (h : readDefaultView d arguments = .ok setting) : setting.Admissible := by
  obtain ⟨parts, -, h⟩ := bind_eq_ok_iff.mp h
  split at h
  · split at h
    · cases h
    · obtain ⟨start, -, h⟩ := bind_eq_ok_iff.mp h
      obtain ⟨stop, -, h⟩ := bind_eq_ok_iff.mp h
      split at h
      · cases h
      · next hordered =>
        cases h
        exact checkedWindow_eq_sound hordered
  · cases h

theorem admissible_of_readHeight {arguments : List Char} {setting : FlagSetting}
    (h : readHeight arguments = .ok setting) : setting.Admissible := by
  simp only [readHeight] at h
  split at h
  · cases h
  · split at h
    · cases h
    · split at h
      · cases h
      · next hpos =>
        cases h
        exact Nat.pos_of_ne_zero hpos

theorem admissible_of_read {flag : FlagName} {arguments : List Char} {setting : FlagSetting}
    (h : flag.read d arguments = .ok setting) : setting.Admissible := by
  cases flag with
  | orderBy =>
    obtain ⟨keys, -, h⟩ := bind_eq_ok_iff.mp h
    split at h
    · cases h
    · cases hkey : firstUnknownKey? d keys with
      | some key =>
        simp only [hkey] at h
        cases h
      | none =>
        simp only [hkey] at h
        cases h
        trivial
  | defaultView => exact admissible_of_readDefaultView h
  | noToday =>
    rw [FlagName.read, readNoToday] at h
    split at h <;> cases h
    trivial
  | height => exact admissible_of_readHeight h

theorem admissible_of_settingAt? {line : SourceLine} {setting : FlagSetting}
    (h : settingAt? d line = some setting) : setting.Admissible := by
  rw [settingAt?] at h
  split at h
  · next hread =>
    cases h
    obtain ⟨arguments, hflag⟩ := exists_read hread
    exact admissible_of_read hflag
  · cases h

end Script

namespace Timeline.Flags.Admissible

open Script

variable {flags : Flags}

theorem apply (h : flags.Admissible) {setting : FlagSetting} (hsetting : setting.Admissible) :
    (setting.apply flags).Admissible := by
  cases setting with
  | orderBy keys => exact ⟨h.window, h.height⟩
  | hideCurrentTime => exact ⟨h.window, h.height⟩
  | defaultView window =>
    refine ⟨?_, h.height⟩
    rintro _ ⟨⟩
    exact hsetting
  | height pixels =>
    refine ⟨h.window, ?_⟩
    rintro _ ⟨⟩
    exact hsetting

theorem foldl_apply (h : flags.Admissible) {settings : List FlagSetting}
    (hsettings : ∀ setting ∈ settings, setting.Admissible) :
    (settings.foldl FlagSetting.apply flags).Admissible := by
  induction settings generalizing flags with
  | nil => exact h
  | cons setting rest ih =>
    exact ih (h.apply (hsettings setting List.mem_cons_self)) fun other hother =>
      hsettings other (List.mem_cons_of_mem _ hother)

end Timeline.Flags.Admissible

namespace Script

variable {d : Dialect} (source locale : String) (options : Options)

/-! ## Timelines -/

theorem admissible_timeline_scan :
    ((scan d source).report locale options).timeline.Admissible where
  items item hitem := by
    have hmem : item.sourceLine ∈
        ((scan d source).report locale options).timeline.items.map Item.sourceLine :=
      List.mem_map_of_mem hitem
    rw [map_sourceLine_items_report] at hmem
    exact (bounds_of_mem_acceptedNumbers _ hmem).1
  markers marker hmarker := by
    have hmem : marker.sourceLine ∈
        ((scan d source).report locale options).timeline.markers.map Marker.sourceLine :=
      List.mem_map_of_mem hmarker
    rw [map_sourceLine_markers_report] at hmem
    exact (bounds_of_mem_acceptedNumbers _ hmem).1
  flags := by
    rw [Progress.report, Progress.timeline, flags_assembled, scan, Progress.flags_run]
    refine Flags.Admissible.empty.foldl_apply fun setting hsetting => ?_
    obtain ⟨line, -, hline⟩ := List.mem_filterMap.mp hsetting
    exact admissible_of_settingAt? hline
  lanes := by
    dsimp only [Progress.report]
    exact resolve_eq_ok (Progress.unknownLane?_timeline (lanesDeclared_scan d source))

end Script

end Chronicle
