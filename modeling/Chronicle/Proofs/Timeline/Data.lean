import Chronicle.Proofs.Data.Decode
import Chronicle.Proofs.Timeline.Admissible
import Chronicle.Proofs.Timeline.Assemble
import Chronicle.Proofs.Timeline.Dates
import Chronicle.Timeline.Dump
import Mathlib.Tactic.MkIffOfInductiveProp

/-!
# Timelines that survive as data

A timeline is written as a data value, and data values are read with all the checks.  A timeline that passes
its checks, and whose dates are readable, can be written and is read back as it was (`survives_of_admissible`).

*Reading.*  Whatever is read has passed its checks, and so did its parts: the fields of a record and the
elements of a list were each accepted by their own readers (`admissible_of_readTimeline`).  Dates may also come
as records of components, and then they are real but need not be readable (`real_of_readMoment`).

*Writing.*  The kind of an item is written next to its end, and the two settle each other
(`readExtent_fields`).  The parts that may be absent are written as null.
-/

namespace Chronicle.Timeline

open Chronicle.Calendar Chronicle.Data Checked

/-! ## Dates -/

theorem survives_moment {m : Moment} (h : m.Readable) : Survives momentValue? readMoment m := by
  refine ⟨.text (String.ofList m.isoChars), ?_, ?_⟩
  · rw [momentValue?, h.isoText?_eq, Option.map_some]
  · rw [readMoment_text, h.normalize_isoChars, checkedMoment]

/-- What may be absent survives when it does as soon as it is there. -/
theorem survives_optional {α : Type} {write : α → Option Value} {read : Value → Checked α} {x : Option α}
    (hnull : ∀ a, read .null ≠ .sound a) (h : ∀ a ∈ x, Survives write read a) :
    Survives (optionalValue? write) (Value.optional read) x := by
  cases x with
  | none => exact ⟨.null, rfl, rfl⟩
  | some a =>
    obtain ⟨v, hwrite, hread⟩ := h a rfl
    refine ⟨v, hwrite, optional_eq_sound_some_iff.mpr ⟨?_, hread⟩⟩
    rintro rfl
    exact hnull a hread

/-- A date is real, whether it comes as a text or by its components. -/
theorem real_of_readMoment {v : Value} {m : Moment} (h : readMoment v = .sound m) : m.Real := by
  cases v with
  | text s =>
    rw [readMoment_text, checkedMoment_eq_sound_iff] at h
    exact (readable_of_normalize h).real
  | record fields =>
    obtain ⟨n, -, hcheck⟩ := andThen_eq_sound_iff.mp h
    obtain ⟨hreal, rfl⟩ := Moment.check_eq_ok_iff.mp (checkedMoment_eq_sound_iff.mp hcheck)
    exact hreal
  | _ => cases h

theorem optional_intValue (n : Option Int) :
    (intValue n).optional Value.integer = .sound n := by
  cases n <;> rfl

/-! ## Items -/

theorem readExtent_fields {extent : Extent} {stop : Value}
    (hwrite : optionalValue? momentValue? extent.stop? = some stop) (hread : stop.optional readMoment = .sound extent.stop?) {fields : List (String × Value)}
    (hend : fields.lookup "end" = some stop) : readExtent extent.kind fields = .sound extent := by
  cases extent with
  | event last => exact map_eq_sound_iff.mpr ⟨last, optionalField_eq_sound_iff.mpr (.inl ⟨_, hend, hread⟩), rfl⟩
  | period last =>
    have hlast := (optional_eq_sound_some_iff.mp hread).2
    exact map_eq_sound_iff.mpr ⟨last, required_eq_sound_iff.mpr ⟨_, hend, hlast⟩, rfl⟩
  | point =>
    cases hwrite
    exact map_eq_sound_iff.mpr ⟨(), optionalField_eq_sound_iff.mpr (.inl ⟨_, hend, rfl⟩), rfl⟩

theorem real_of_readExtent {kind : ItemKind} {fields : List (String × Value)} {extent : Extent}
    (h : readExtent kind fields = .sound extent) : ∀ m ∈ extent.stop?, m.Real := by
  cases kind with
  | event =>
    obtain ⟨stop, hstop, rfl⟩ := map_eq_sound_iff.mp h
    rintro m ⟨⟩
    obtain ⟨v, hread⟩ := exists_read_of_optionalField hstop
    exact real_of_readMoment hread
  | period =>
    obtain ⟨stop, hstop, rfl⟩ := map_eq_sound_iff.mp h
    rintro m ⟨⟩
    obtain ⟨v, -, hread⟩ := required_eq_sound_iff.mp hstop
    exact real_of_readMoment hread
  | point =>
    obtain ⟨-, -, rfl⟩ := map_eq_sound_iff.mp h
    rintro m ⟨⟩

/-- What the fields of a record have to hold for an item to be read from them. -/
@[mk_iff]
structure Item.IsReadFrom (kind : ItemKind) (fields : List (String × Value)) (item : Item) : Prop where
  id : required fields "id" (Value.natural 0) = .sound item.id
  content : required fields "content" Value.string = .sound item.content
  start : required fields "start" readMoment = .sound item.start
  lane : optionalField fields "group" none (Value.optional Value.integer) = .sound item.lane
  color : optionalField fields "color" none (Value.optional Value.string) = .sound item.color
  description : optionalField fields "description" none (Value.optional Value.string) =
    .sound item.description
  link : optionalField fields "link" none (Value.optional Value.string) = .sound item.link
  sourceLine : required fields "source_line" (Value.natural 1) = .sound item.sourceLine
  kindWord : ∃ word, optionalField fields "kind" kind.name (Value.word [kind.name]) = .sound word
  extent : readExtent kind fields = .sound item.extent

theorem readItemFields_eq_sound_iff {kind : ItemKind} {fields : List (String × Value)} {item : Item} :
    readItemFields kind fields = .sound item ↔ item.IsReadFrom kind fields := by
  cases item
  simp only [readItemFields, seq_eq_sound_iff, fmap_eq_sound_iff, exists_and_left, exists_exists_and_eq_and,
    exists_exists_and_exists_and_eq_and, ↓existsAndEq, and_true, and_assoc, exists_and_right, Item.mk.injEq,
    Item.isReadFrom_iff]

theorem survives_item {item : Item} (hline : 1 ≤ item.sourceLine) (h : ∀ m ∈ item.moments, m.Readable) :
    Survives Item.toValue? readItem item := by
  obtain ⟨start, hstart, hreadStart⟩ := survives_moment (h item.start List.mem_cons_self)
  obtain ⟨stop, hstop, hreadStop⟩ :=
    survives_optional (by rintro m ⟨⟩) fun m (hm : m ∈ item.extent.stop?) =>
      survives_moment (h m (List.mem_cons_of_mem _ (Option.mem_toList.mpr hm)))
  obtain ⟨fields, hfields⟩ : ∃ fields, item.toValue? = some (.record fields) :=
    ⟨_, by rw [Item.toValue?, hstart, hstop]; rfl⟩
  refine ⟨.record fields, hfields, ?_⟩
  rw [Item.toValue?, hstart, hstop] at hfields
  have hkind : fields.lookup "kind" = some (.text item.extent.kind.name) := by
    cases hfields
    simp [lookup_cons_of_ne]
  rw [readItem]
  simp only [hkind, ItemKind.ofName?_name]
  rw [under_eq_sound_iff, readItemOf, closedRecord_eq_sound_iff]
  refine ⟨fields, rfl, readItemFields_eq_sound_iff.mpr ?_, ?_⟩
  · cases hfields
    constructor
    case extent => exact readExtent_fields hstop hreadStop (by simp [lookup_cons_of_ne])
    all_goals simp [natural_int, optional_intValue, Value.word, hreadStart, hline]
  · cases hfields
    simp [itemFields]

theorem exists_isReadFrom_of_readItem {v : Value} {item : Item} (h : readItem v = .sound item) :
    ∃ kind fields, item.IsReadFrom kind fields := by
  cases v with
  | record fields =>
    simp only [readItem] at h
    split at h
    · cases h
    · split at h
      · next kind hkind =>
        rw [under_eq_sound_iff, readItemOf, closedRecord_eq_sound_iff] at h
        obtain ⟨fields, -, hread, -⟩ := h
        exact ⟨kind, fields, readItemFields_eq_sound_iff.mp hread⟩
      · cases h
    · cases h
  | _ => cases h

/-- An item that is read is on a line, and its dates are real. -/
theorem Item.IsReadFrom.sound {kind : ItemKind} {fields : List (String × Value)} {item : Item}
    (h : item.IsReadFrom kind fields) : 1 ≤ item.sourceLine ∧ ∀ m ∈ item.moments, m.Real := by
  obtain ⟨_, -, hstart⟩ := required_eq_sound_iff.mp h.start
  obtain ⟨_, -, hline⟩ := required_eq_sound_iff.mp h.sourceLine
  refine ⟨le_of_natural hline, fun m hm => ?_⟩
  rcases List.mem_cons.mp hm with rfl | hm
  · exact real_of_readMoment hstart
  · exact real_of_readExtent h.extent m (Option.mem_toList.mp hm)

/-! ## Markers and lanes -/

theorem survives_marker {marker : Marker} (hline : 1 ≤ marker.sourceLine) (h : marker.start.Readable) :
    Survives Marker.toValue? readMarker marker := by
  obtain ⟨start, hstart, hread⟩ := survives_moment h
  refine ⟨_, by rw [Marker.toValue?, hstart]; rfl, ?_⟩
  rw [readMarker, closedRecord_eq_sound_iff]
  refine ⟨_, rfl, ?_, by simp⟩
  simp [natural_int, hline, hread]

theorem sound_of_readMarker {v : Value} {marker : Marker} (h : readMarker v = .sound marker) :
    1 ≤ marker.sourceLine ∧ marker.start.Real := by
  obtain ⟨fields, -, hfields, -⟩ := closedRecord_eq_sound_iff.mp h
  simp only [seq_eq_sound_iff, fmap_eq_sound_iff] at hfields
  obtain ⟨_, line, ⟨_, label, ⟨start, hstart, rfl⟩, -, rfl⟩, hline, rfl⟩ := hfields
  obtain ⟨_, -, hstart⟩ := required_eq_sound_iff.mp hstart
  obtain ⟨_, -, hline⟩ := required_eq_sound_iff.mp hline
  exact ⟨le_of_natural hline, real_of_readMoment hstart⟩

theorem readLane_toValue (lane : Lane) : readLane lane.toValue = .sound lane := by
  rw [readLane, closedRecord_eq_sound_iff]
  refine ⟨_, rfl, ?_, by simp⟩
  simp [natural_int]

/-! ## Flags and options -/

theorem eq_of_checkedWindow {window checked : Window} (h : checkedWindow window = .sound checked) :
    window = checked := by
  rw [checkedWindow] at h
  split at h <;> cases h
  rfl

theorem survives_window {window : Window} (hordered : checkedWindow window = .sound window)
    (h : ∀ m ∈ window.moments, m.Readable) : Survives Window.toValue? readWindow window := by
  obtain ⟨start, hstart, hreadStart⟩ := survives_moment (h window.start (by simp [Window.moments]))
  obtain ⟨stop, hstop, hreadStop⟩ := survives_moment (h window.stop (by simp [Window.moments]))
  refine ⟨_, by rw [Window.toValue?, hstart, hstop]; rfl, ?_⟩
  rw [readWindow, andThen_eq_sound_iff]
  refine ⟨window, closedRecord_eq_sound_iff.mpr ⟨_, rfl, ?_, by simp⟩, hordered⟩
  simp [hreadStart, hreadStop]

theorem sound_of_readWindow {v : Value} {window : Window} (h : readWindow v = .sound window) :
    checkedWindow window = .sound window ∧ ∀ m ∈ window.moments, m.Real := by
  obtain ⟨read, hread, hordered⟩ := andThen_eq_sound_iff.mp h
  obtain rfl := eq_of_checkedWindow hordered
  refine ⟨hordered, fun m hm => ?_⟩
  obtain ⟨fields, -, hfields, -⟩ := closedRecord_eq_sound_iff.mp hread
  simp only [seq_eq_sound_iff, fmap_eq_sound_iff] at hfields
  obtain ⟨_, stop, ⟨start, hstart, rfl⟩, hstop, rfl⟩ := hfields
  obtain ⟨_, -, hstart⟩ := required_eq_sound_iff.mp hstart
  obtain ⟨_, -, hstop⟩ := required_eq_sound_iff.mp hstop
  simp only [Window.moments, List.mem_cons, List.not_mem_nil, or_false] at hm
  rcases hm with rfl | rfl
  · exact real_of_readMoment hstart
  · exact real_of_readMoment hstop

theorem optional_orderByValue (keys : Option (List String)) :
    (orderByValue keys).optional (Value.elements Value.string) = .sound keys := by
  refine optional_eq_sound rfl fun keys _ => ⟨?_, elements_map fun key _ => string_text key⟩
  rintro ⟨⟩

theorem optional_height {height : Option Nat} (h : ∀ pixels ∈ height, 0 < pixels) :
    (intValue (height.map Int.ofNat)).optional Value.positive = .sound height := by
  refine @optional_eq_sound _ _ (fun height => intValue (height.map Int.ofNat)) height rfl
    fun pixels hp => ⟨?_, positive_int (h pixels hp)⟩
  rintro ⟨⟩

theorem survives_flags {flags : Flags} (hflags : flags.Admissible)
    (h : ∀ window ∈ flags.defaultView, ∀ m ∈ window.moments, m.Readable) :
    Survives Flags.toValue? readFlags flags := by
  obtain ⟨view, hview, hread⟩ := survives_optional (by rintro window ⟨⟩) fun window hwindow =>
    survives_window (hflags.window window hwindow) (h window hwindow)
  have hheight := optional_height hflags.height
  refine ⟨_, by rw [Flags.toValue?, hview]; rfl, ?_⟩
  rw [readFlags, closedRecord_eq_sound_iff]
  refine ⟨_, rfl, ?_, by simp⟩
  simp [optional_orderByValue, hread, hheight]

theorem sound_of_readFlags {v : Value} {flags : Flags} (h : readFlags v = .sound flags) :
    flags.Admissible ∧ ∀ window ∈ flags.defaultView, ∀ m ∈ window.moments, m.Real := by
  obtain ⟨fields, -, hfields, -⟩ := closedRecord_eq_sound_iff.mp h
  simp only [seq_eq_sound_iff, fmap_eq_sound_iff] at hfields
  obtain ⟨_, height, ⟨_, hide, ⟨_, view, ⟨orderBy, -, rfl⟩, hview, rfl⟩, -, rfl⟩, hheight, rfl⟩ :=
    hfields
  have hwindow : ∀ window ∈ view, ∃ w, readWindow w = .sound window := by
    rintro window ⟨⟩
    exact exists_read_of_optionalField hview
  have hpixels : ∀ pixels ∈ height, ∃ w, Value.positive w = .sound pixels := by
    rintro pixels ⟨⟩
    exact exists_read_of_optionalField hheight
  refine ⟨⟨fun window hw => ?_, fun pixels hp => ?_⟩, fun window hw => ?_⟩
  · obtain ⟨w, hread⟩ := hwindow window hw
    exact (sound_of_readWindow hread).1
  · obtain ⟨w, hread⟩ := hpixels pixels hp
    exact pos_of_positive hread
  · obtain ⟨w, hread⟩ := hwindow window hw
    exact (sound_of_readWindow hread).2

theorem readOptions_toValue (options : Options) : readOptions options.toValue = .sound options := by
  rw [readOptions, closedRecord_eq_sound_iff]
  refine ⟨_, rfl, ?_, by simp⟩
  simp

/-! ## Timelines -/

theorem eq_of_checkedTimeline {t checked : Timeline} (h : checkedTimeline t = .sound checked) :
    t = checked ∧ t.resolve = .ok t := by
  have hresolve : ∀ {u}, t.resolve = .ok u → t = u := by
    intro u hu
    rw [resolve] at hu
    split at hu <;> cases hu
    rfl
  rw [checkedTimeline] at h
  split at h
  · next u hu =>
    cases h
    obtain rfl := hresolve hu
    exact ⟨rfl, hu⟩
  · cases h

theorem survives_of_admissible {t : Timeline} (ht : t.Admissible) (h : ∀ m ∈ t.moments, m.Readable) :
    Survives toValue? readTimeline t := by
  simp only [mem_moments_iff] at h
  obtain ⟨items, hitems, hreadItems⟩ := exists_elements fun item hitem =>
    survives_item (ht.items item hitem) fun m hm => h m (.inl ⟨item, hitem, hm⟩)
  obtain ⟨markers, hmarkers, hreadMarkers⟩ := exists_elements fun marker hmarker =>
    survives_marker (ht.markers marker hmarker) (h _ (.inr (.inl ⟨marker, hmarker, rfl⟩)))
  have hlanes := elements_map fun lane (_ : lane ∈ t.lanes) => readLane_toValue lane
  obtain ⟨flags, hflags, hreadFlags⟩ := survives_flags ht.flags fun window hwindow m hm =>
    h m (.inr (.inr ⟨window, hwindow, hm⟩))
  refine ⟨_, by rw [toValue?, hitems, hmarkers, hflags]; rfl, ?_⟩
  rw [readTimeline, andThen_eq_sound_iff]
  refine ⟨t, closedRecord_eq_sound_iff.mpr ⟨_, rfl, ?_, by simp⟩, ?_⟩
  · simp [hreadItems, hreadMarkers, hlanes, hreadFlags, readOptions_toValue]
  · rw [checkedTimeline, ht.lanes]

theorem admissible_of_readTimeline {v : Value} {t : Timeline} (h : readTimeline v = .sound t) :
    t.Admissible ∧ ∀ m ∈ t.moments, m.Real := by
  obtain ⟨read, hread, hchecked⟩ := andThen_eq_sound_iff.mp h
  obtain ⟨rfl, hresolve⟩ := eq_of_checkedTimeline hchecked
  obtain ⟨fields, -, hfields, -⟩ := closedRecord_eq_sound_iff.mp hread
  simp only [seq_eq_sound_iff, fmap_eq_sound_iff] at hfields
  obtain ⟨_, options, ⟨_, locale, ⟨_, flags, ⟨_, lanes, ⟨_, markers, ⟨items, hitems, rfl⟩, hmarkers,
    rfl⟩, -, rfl⟩, hflags, rfl⟩, -, rfl⟩, -, rfl⟩ := hfields
  have hitem : ∀ item ∈ items, 1 ≤ item.sourceLine ∧ ∀ m ∈ item.moments, m.Real := by
    intro item hmem
    obtain ⟨w, hread⟩ := exists_read_of_mem_optionalField hitems hmem
    obtain ⟨kind, fields, hfrom⟩ := exists_isReadFrom_of_readItem hread
    exact hfrom.sound
  have hmarker : ∀ marker ∈ markers, 1 ≤ marker.sourceLine ∧ marker.start.Real := by
    intro marker hmem
    obtain ⟨w, hread⟩ := exists_read_of_mem_optionalField hmarkers hmem
    exact sound_of_readMarker hread
  have hflag : flags.Admissible ∧ ∀ window ∈ flags.defaultView, ∀ m ∈ window.moments, m.Real := by
    rcases optionalField_eq_sound_iff.mp hflags with ⟨w, -, hread⟩ | ⟨-, rfl⟩
    · exact sound_of_readFlags hread
    · exact ⟨.empty, fun window hw => by cases hw⟩
  refine ⟨⟨fun item hmem => (hitem item hmem).1, fun marker hmem => (hmarker marker hmem).1, hflag.1,
    hresolve⟩,
    fun m hm => ?_⟩
  rcases mem_moments_iff.mp hm with ⟨item, hmem, hm⟩ | ⟨marker, hmem, rfl⟩ | ⟨window, hw, hm⟩
  · exact (hitem item hmem).2 m hm
  · exact (hmarker marker hmem).2
  · exact hflag.2 window hw m hm

end Chronicle.Timeline
