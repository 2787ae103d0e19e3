import Chronicle.Proofs.Script.LineNumbers
import Chronicle.Proofs.Timeline.Lanes

/-!
# Labels in a report

The lanes of a run are numbered by the places of their labels, so a lane is found again by its number
(`find?_lanes`).  The declared labels of a report are therefore the labels of the run
(`declaredLabels_report`), and an item of a report has the label that its line gives it, or none
(`map_laneLabel?_report`).
-/

namespace Chronicle.Script

open Chronicle.Text Chronicle.Timeline

namespace Progress

variable (p : Progress) (locale : String) (options : Options)

theorem length_lanes : p.lanes.length = p.labels.length := by
  rw [lanes, List.length_map, List.length_zipIdx]

theorem getElem_lanes {k : Nat} (h : k < p.lanes.length) (hlabel : k < p.labels.length) :
    p.lanes[k] = ⟨k + 1, p.labels[k]⟩ := by
  simp [lanes]

theorem map_label_lanes : p.lanes.map Lane.label = p.labels := by
  rw [lanes, List.map_map]
  exact List.zipIdx_map_fst 0 p.labels

theorem id_ne_of_mem_lanes {lane : Lane} (h : lane ∈ p.lanes) : lane.id ≠ defaultLane.id := by
  obtain ⟨⟨label, k⟩, -, rfl⟩ := List.mem_map.mp h
  exact Nat.succ_ne_zero k

theorem declaredLanes_timeline : (p.timeline locale options).declaredLanes = p.lanes :=
  declaredLanes_assembled _ _ _ _ _ fun _ hlane => id_ne_of_mem_lanes p hlane

theorem declaredLabels_timeline : (p.timeline locale options).declaredLabels = p.labels := by
  rw [declaredLabels, declaredLanes_timeline, map_label_lanes]

/-- Lanes before that of a label have smaller numbers, so none of them is found in its place. -/
theorem find?_lanes {label : String} (h : label ∈ p.labels) :
    (p.lanes.find? fun lane => (lane.id : Int) = laneNumber p.labels label) =
      some ⟨laneNumber p.labels label, label⟩ := by
  have hplace : p.labels.idxOf label < p.labels.length := List.idxOf_lt_length_of_mem h
  have hplace' : p.labels.idxOf label < p.lanes.length := by rwa [length_lanes]
  rw [List.find?_eq_some_iff_getElem]
  refine ⟨decide_eq_true rfl, p.labels.idxOf label, hplace', ?_, fun k hk => ?_⟩
  · rw [getElem_lanes p hplace' hplace, List.getElem_idxOf, laneNumber]
  · rw [getElem_lanes p (Nat.lt_trans hk hplace') (Nat.lt_trans hk hplace), laneNumber]
    simp only [Bool.not_eq_true', decide_eq_false_iff_not]
    omega

variable {p} in
theorem laneLabel?_toItem {draft : Draft} (h : ∀ label ∈ draft.lane, label ∈ p.labels)
    (id line : Nat) :
    (p.timeline locale options).laneLabel? (draft.toItem p.labels id line) = draft.lane := by
  rw [laneLabel?, declaredLanes_timeline, Draft.toItem]
  cases hlane : draft.lane with
  | none => rfl
  | some label =>
    rw [Option.map_some, Option.bind_some, find?_lanes p (h label hlane), Option.map_some]

end Progress

variable (d : Dialect) (source locale : String) (options : Options)

theorem mem_labels_scan {entry : Nat × Draft} {label : String}
    (h : entry ∈ (sourceLines source).filterMap (draftAt? d)) (hlabel : label ∈ entry.2.lane) :
    label ∈ (scan d source).labels := by
  obtain ⟨line, hline, hentry⟩ := List.mem_filterMap.mp h
  rw [scan, Progress.labels_run, mem_foldl_declareLabel_iff, List.mem_filterMap]
  refine .inr ⟨line, hline, ?_⟩
  rw [laneAt?, hentry]
  exact hlabel

theorem declaredLabels_report :
    ((scan d source).report locale options).timeline.declaredLabels = (scan d source).labels := by
  rw [Progress.report, Progress.declaredLabels_timeline]

theorem map_laneLabel?_report :
    ((scan d source).report locale options).timeline.items.map
        ((scan d source).report locale options).timeline.laneLabel? =
      ((sourceLines source).filterMap (draftAt? d)).map fun entry => entry.2.lane := by
  dsimp only [Progress.report]
  rw [Progress.timeline, map_assembled _ _ _ _ _ _ (laneLabel?_onSomeLane _), ← Progress.timeline,
    items_scan]
  refine List.ext_getElem? fun i => ?_
  rw [List.getElem?_map, List.getElem?_mapIdx, List.getElem?_map, Option.map_map]
  cases hentry : ((sourceLines source).filterMap (draftAt? d))[i]? with
  | none => rfl
  | some entry =>
    have hmem := List.mem_of_getElem? hentry
    have hlabels : ∀ label ∈ entry.2.lane, label ∈ (scan d source).labels :=
      fun label hlabel => mem_labels_scan d source hmem hlabel
    exact congrArg some (Progress.laneLabel?_toItem locale options hlabels i entry.1)

end Chronicle.Script
