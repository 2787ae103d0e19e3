import Chronicle.Proofs.Calendar.CanonicalText
import Chronicle.Proofs.Script.HeadTokens
import Chronicle.Proofs.Script.LineForm
import Chronicle.Proofs.Script.Run

/-!
# What an entity line says

An entity that a line declares is made of the dates in the brackets of the line and of the text behind them.
So its dates are readable, since they were read (`readable_of_draftAt?`, `readable_of_markerAt?`), and they are in
order.

The text between the dates and the description is the *head* of the line.  Its tokens settle the lane of the
item.  Both are said here of a text alone, without reading it as an entity (`lineTokens`, `lineLabel?`), and
an item is on the lane that its line says (`lane_of_draftAt?`).
-/

namespace Chronicle.Script

open Chronicle.Calendar Chronicle.Text Chronicle.Timeline

variable {d : Dialect}

/-! ## Dates -/

theorem readable_of_readDate {text : List Char} {m : Moment} (h : readDate text = .ok m) :
    m.Readable := by
  rw [readDate] at h
  split at h
  · next n hread =>
    cases h
    exact readable_of_normalize hread
  · cases h

/-- Dates that a line can give: both are readable, and the end is not before the start. -/
structure Dated (start : Moment) (stop : Option Moment) : Prop where
  readable : start.Readable
  readableStop : ∀ m ∈ stop, m.Readable
  order : ∀ m ∈ stop, m.isBefore start = false

theorem dated_of_readDates {dates : List Char} {start : Moment} {stop : Option Moment}
    (h : readDates d dates = .ok (start, stop)) : Dated start stop := by
  rw [readDates] at h
  split at h
  · cases h
  · split at h
    · obtain ⟨m, hm, h⟩ := bind_eq_ok_iff.mp h
      cases h
      refine ⟨readable_of_readDate hm, ?_, ?_⟩
      · rintro _ ⟨⟩
      · rintro _ ⟨⟩
    · obtain ⟨m, hm, h⟩ := bind_eq_ok_iff.mp h
      obtain ⟨n, hn, h⟩ := bind_eq_ok_iff.mp h
      split at h
      · cases h
      · next hordered =>
        cases h
        refine ⟨readable_of_readDate hm, ?_, ?_⟩
        · rintro _ ⟨⟩
          exact readable_of_readDate hn
        · rintro _ ⟨⟩
          exact Bool.eq_false_iff.mpr hordered

/-! ## Entities -/

/-- What an entity is made of, once its dates and the text behind them are known. -/
inductive Builds (start : Moment) (stop : Option Moment) (head : List Char)
    (description : Option (List Char)) : Entity → Prop
  | item (extent : Extent) (hstop : extent.stop? = stop) :
    Builds start stop head description (.item (draftItem start extent head description))
  | marker (hstop : stop = none) :
    Builds start stop head description (.marker start (String.ofList (trim head)))

theorem builds_of_buildEntity {kind : EntityKind} {start : Moment} {stop : Option Moment}
    {head : List Char} {description : Option (List Char)} {entity : Entity}
    (h : buildEntity kind start stop head description = .ok entity) :
    Builds start stop head description entity := by
  cases kind with
  | marker =>
    cases stop with
    | none => cases h; exact .marker rfl
    | some stop => cases h
  | other name => cases h; exact .item (.event stop) rfl
  | item kind =>
    cases kind with
    | event => cases h; exact .item (.event stop) rfl
    | period =>
      cases stop with
      | none => cases h
      | some stop => cases h; exact .item (.period stop) rfl
    | point =>
      cases stop with
      | none => cases h; exact .item .point rfl
      | some stop => cases h

/-- The text of an entity line between its dates and its description. -/
def headText? (d : Dialect) (text : List Char) : Option (List Char) :=
  match d.classify (trim text) with
  | .entity _ body =>
    (d.bracket? body).map fun (_, rest) => (splitDescription d.descriptionSeparator.toList rest).1
  | _ => none

theorem exists_builds_of_readLine {text : List Char} {entity : Entity}
    (h : readLine d text = .ok (.entity entity)) :
    ∃ start stop head description, headText? d text = some head ∧ Dated start stop ∧
      Builds start stop head description entity := by
  simp only [readLine] at h
  split at h
  · cases h
  · next body hform =>
    rcases readFlag_cases d body with hread | hread | ⟨flag, -, hread⟩
    · rw [hread] at h
      cases h
    · rw [hread] at h
      cases h
    · rw [hread] at h
      obtain ⟨setting, -, hsetting⟩ := map_eq_ok_iff.mp h
      cases hsetting
  · next kind body hform =>
    obtain ⟨_, hread, ⟨⟩⟩ := map_eq_ok_iff.mp h
    rw [readEntity] at hread
    split at hread
    · cases hread
    · next dates rest hbracket =>
      obtain ⟨⟨start, stop⟩, hdates, hbuild⟩ := bind_eq_ok_iff.mp hread
      have hhead : headText? d text = some (splitDescription d.descriptionSeparator.toList rest).1 := by
        simp only [headText?, hform, hbracket, Option.map_some]
      exact ⟨start, stop, _, _, hhead, dated_of_readDates hdates, builds_of_buildEntity hbuild⟩
  · cases h

/-! ## Items and markers of lines -/

/-- The tokens at the ends of the content of an entity line. -/
def lineTokens (d : Dialect) (text : List Char) : List HeadToken :=
  match headText? d text with
  | some head => headTokens head
  | none => []

/-- The label of the lane that an entity line puts its item on. -/
def lineLabel? (d : Dialect) (text : List Char) : Option (List Char) :=
  (lineTokens d text).findSome? HeadToken.laneLabel?

theorem readLine_of_draftAt? {line : SourceLine} {entry : Nat × Draft} (h : draftAt? d line = some entry) :
    readLine d line.text.toList = .ok (.entity (.item entry.2)) := by
  rw [draftAt?] at h
  split at h
  · next draft hread =>
    cases h
    exact hread
  · cases h

theorem readLine_of_markerAt? {line : SourceLine} {marker : Marker} (h : markerAt? d line = some marker) :
    readLine d line.text.toList = .ok (.entity (.marker marker.start marker.label)) := by
  rw [markerAt?] at h
  split at h
  · next start label hread =>
    cases h
    exact hread
  · cases h

theorem readable_of_draftAt? {line : SourceLine} {entry : Nat × Draft} (h : draftAt? d line = some entry) :
    entry.2.start.Readable ∧ ∀ m ∈ entry.2.extent.stop?, m.Readable := by
  obtain ⟨n, draft⟩ := entry
  obtain ⟨start, stop, head, description, -, hdated, hbuilds⟩ :=
    exists_builds_of_readLine (readLine_of_draftAt? h)
  cases hbuilds with
  | item extent heq =>
    subst heq
    exact ⟨hdated.readable, hdated.readableStop⟩

/-- The lane of an item is the one that its line says. -/
theorem lane_of_draftAt? {line : SourceLine} {entry : Nat × Draft} (h : draftAt? d line = some entry) :
    entry.2.lane = (lineLabel? d line.text.toList).map String.ofList := by
  obtain ⟨n, draft⟩ := entry
  obtain ⟨start, stop, head, description, hhead, -, hbuilds⟩ :=
    exists_builds_of_readLine (readLine_of_draftAt? h)
  cases hbuilds with
  | item extent _ =>
    rw [lineLabel?, lineTokens, hhead]
    rfl

theorem readable_of_markerAt? {line : SourceLine} {marker : Marker} (h : markerAt? d line = some marker) :
    marker.start.Readable := by
  obtain ⟨m, label, n⟩ := marker
  obtain ⟨start, stop, head, description, -, hdated, hbuilds⟩ :=
    exists_builds_of_readLine (readLine_of_markerAt? h)
  cases hbuilds with
  | marker _ => exact hdated.readable

end Chronicle.Script
