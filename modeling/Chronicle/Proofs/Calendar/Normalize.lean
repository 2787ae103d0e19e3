import Chronicle.Proofs.Calendar.EraDay
import Chronicle.Proofs.Calendar.WrittenDate

/-!
# What normalizing accepts

`Moment.FirstFault` lists the faults of a moment in the order in which they are looked for: the month,
the day from 1 to 31, the hour, the minute, the second, and last a day past the end of its month.

The last check of `Moment.fault?` never mentions the length of a month.  It compares the moment with what
its own timestamp reads back as.  With a time that occurs in a day this is a statement about the date
alone (`ofTimestamp_timestamp`), and the date comes back exactly when it is real
(`civilDate_dayNumber_eq_iff`).

The main statement, `normalize_spec`, says for every text which moment it gives, or which error.
-/

namespace Chronicle.Calendar

open Chronicle.Text

namespace Moment

/-! ## Timestamps -/

/-- The time of a moment occurs in a day. -/
def HasTime (m : Moment) : Prop :=
  (0 ≤ m.hour ∧ m.hour ≤ 23) ∧ (0 ≤ m.minute ∧ m.minute ≤ 59) ∧ (0 ≤ m.second ∧ m.second ≤ 59)

/-- Of a moment read back from its timestamp, the time is the same and the date is read back from its
day number. -/
theorem ofTimestamp_timestamp {m : Moment} (h : m.HasTime) :
    ofTimestamp m.timestamp = { m with toCivilDate := civilDate (dayNumber m.toCivilDate) } := by
  obtain ⟨hhour, hminute, hsecond⟩ := h
  have hday : m.timestamp / secondsPerDay = dayNumber m.toCivilDate := by
    rw [timestamp, secondsPerDay]
    omega
  have hrest : m.timestamp % secondsPerDay = m.hour * 3600 + m.minute * 60 + m.second := by
    rw [timestamp, secondsPerDay]
    omega
  have hhour' : (m.hour * 3600 + m.minute * 60 + m.second) / 3600 = m.hour := by omega
  have hminute' : (m.hour * 3600 + m.minute * 60 + m.second) % 3600 / 60 = m.minute := by omega
  have hsecond' : (m.hour * 3600 + m.minute * 60 + m.second) % 60 = m.second := by omega
  simp only [ofTimestamp, hday, hrest, hhour', hminute', hsecond']

theorem ofTimestamp_timestamp_eq_iff {m : Moment} (h : m.HasTime) :
    ofTimestamp m.timestamp = m ↔ m.toCivilDate.Real := by
  rw [ofTimestamp_timestamp h, ← civilDate_dayNumber_eq_iff]
  constructor
  · exact fun heq => congrArg toCivilDate heq
  · intro heq
    rw [heq]

/-! ## Faults -/

/-- The first fault of a moment. -/
inductive FirstFault (m : Moment) : DateError → Prop where
  /-- There is no such month. -/
  | month : ¬ (1 ≤ m.month ∧ m.month ≤ 12) → FirstFault m (.month m.month)
  /-- No month has such a day. -/
  | day : (1 ≤ m.month ∧ m.month ≤ 12) → ¬ (1 ≤ m.day ∧ m.day ≤ 31) → FirstFault m (.day m.day)
  /-- There is no such hour. -/
  | hour : (1 ≤ m.month ∧ m.month ≤ 12) → (1 ≤ m.day ∧ m.day ≤ 31) →
      ¬ (0 ≤ m.hour ∧ m.hour ≤ 23) → FirstFault m (.hour m.hour)
  /-- There is no such minute. -/
  | minute : (1 ≤ m.month ∧ m.month ≤ 12) → (1 ≤ m.day ∧ m.day ≤ 31) →
      (0 ≤ m.hour ∧ m.hour ≤ 23) → ¬ (0 ≤ m.minute ∧ m.minute ≤ 59) →
      FirstFault m (.minute m.minute)
  /-- There is no such second. -/
  | second : (1 ≤ m.month ∧ m.month ≤ 12) → (1 ≤ m.day ∧ m.day ≤ 31) →
      (0 ≤ m.hour ∧ m.hour ≤ 23) → (0 ≤ m.minute ∧ m.minute ≤ 59) →
      ¬ (0 ≤ m.second ∧ m.second ≤ 59) → FirstFault m (.second m.second)
  /-- The day is past the end of its month. -/
  | unreal : (1 ≤ m.month ∧ m.month ≤ 12) → (1 ≤ m.day ∧ m.day ≤ 31) → m.HasTime →
      daysInMonth m.year m.month < m.day → FirstFault m (.unreal m.toCivilDate)

theorem fault?_of_firstFault {m : Moment} {e : DateError} (h : m.FirstFault e) :
    m.fault? = some e := by
  cases h with
  | month hmonth => simp [fault?, hmonth]
  | day hmonth hday => simp [fault?, hmonth, hday]
  | hour hmonth hday hhour => simp [fault?, hmonth, hday, hhour]
  | minute hmonth hday hhour hminute => simp [fault?, hmonth, hday, hhour, hminute]
  | second hmonth hday hhour hminute hsecond =>
    simp [fault?, hmonth, hday, hhour, hminute, hsecond]
  | unreal hmonth hday htime hpast =>
    have hreal : ¬ m.toCivilDate.Real := fun h => absurd h.2.2.2 (by omega)
    have hdrift := mt (ofTimestamp_timestamp_eq_iff htime).mp hreal
    obtain ⟨hhour, hminute, hsecond⟩ := htime
    simp [fault?, hmonth, hday, hhour, hminute, hsecond, hdrift]

/-- A moment is real, or there is a first fault. -/
theorem real_or_firstFault (m : Moment) : m.Real ∨ ∃ e, m.FirstFault e := by
  by_cases hmonth : 1 ≤ m.month ∧ m.month ≤ 12
  case neg => exact .inr ⟨_, .month hmonth⟩
  by_cases hday : 1 ≤ m.day ∧ m.day ≤ 31
  case neg => exact .inr ⟨_, .day hmonth hday⟩
  by_cases hhour : 0 ≤ m.hour ∧ m.hour ≤ 23
  case neg => exact .inr ⟨_, .hour hmonth hday hhour⟩
  by_cases hminute : 0 ≤ m.minute ∧ m.minute ≤ 59
  case neg => exact .inr ⟨_, .minute hmonth hday hhour hminute⟩
  by_cases hsecond : 0 ≤ m.second ∧ m.second ≤ 59
  case neg => exact .inr ⟨_, .second hmonth hday hhour hminute hsecond⟩
  by_cases hlast : m.day ≤ daysInMonth m.year m.month
  case neg => exact .inr ⟨_, .unreal hmonth hday ⟨hhour, hminute, hsecond⟩ (by omega)⟩
  exact .inl ⟨⟨hmonth.1, hmonth.2, hday.1, hlast⟩, hhour, hminute, hsecond⟩

theorem daysInMonth_le (year month : Int) : daysInMonth year month ≤ 31 := by
  rw [daysInMonth]
  repeat' split
  all_goals omega

theorem fault?_eq_none_of_real {m : Moment} (h : m.Real) : m.fault? = none := by
  obtain ⟨hdate, htime⟩ := h
  have hlast := daysInMonth_le m.year m.month
  have hback := (ofTimestamp_timestamp_eq_iff htime).mpr hdate
  obtain ⟨hlow, hhigh, hday, hpast⟩ := hdate
  obtain ⟨hhour, hminute, hsecond⟩ := htime
  have hday' : m.day ≤ 31 := by omega
  simp [fault?, hlow, hhigh, hday, hday', hhour, hminute, hsecond, hback]

theorem fault?_eq_none_iff {m : Moment} : m.fault? = none ↔ m.Real := by
  refine ⟨fun h => m.real_or_firstFault.resolve_right ?_, fault?_eq_none_of_real⟩
  rintro ⟨e, he⟩
  rw [fault?_of_firstFault he] at h
  cases h

theorem fault?_eq_some_iff {m : Moment} {e : DateError} : m.fault? = some e ↔ m.FirstFault e := by
  refine ⟨fun h => ?_, fault?_of_firstFault⟩
  rcases m.real_or_firstFault with hreal | ⟨e', he'⟩
  · rw [fault?_eq_none_of_real hreal] at h
    cases h
  · rw [fault?_of_firstFault he'] at h
    obtain rfl := Option.some.inj h
    exact he'

theorem check_eq_ok_iff {m m' : Moment} : m.check = .ok m' ↔ m.Real ∧ m' = m := by
  rw [check, ← fault?_eq_none_iff]
  cases m.fault? with
  | none => simp [eq_comm]
  | some e => simp

theorem check_eq_error_iff {m : Moment} {e : DateError} :
    m.check = .error e ↔ m.FirstFault e := by
  rw [check, ← fault?_eq_some_iff]
  cases m.fault? with
  | none => simp
  | some e => simp

end Moment

/-! ## Texts -/

theorem normalize_of_chars {text : String} {w : WrittenDate} (h : w.chars = trim text.toList) :
    normalize text = w.moment.check := by
  rw [normalize, ← h, w.read?_chars]
  simp only [w.moment_partialDate]

theorem normalize_of_not_written {text : String}
    (h : ¬ ∃ w : WrittenDate, w.chars = trim text.toList) :
    normalize text = .error (.shape text) := by
  rw [normalize]
  cases hread : PartialDate.read? (trim text.toList) with
  | none => rfl
  | some p =>
    obtain ⟨w, hw, -⟩ := exists_of_read? hread
    exact absurd ⟨w, hw⟩ h

/-- Normalizing gives a moment exactly when the text without the blanks around it is a written date
that means a real moment, and then it gives this moment.  Otherwise the error is about the shape when
the text is no written date, and else it is the first fault of what is written. -/
theorem normalize_spec (text : String) :
    (∀ m, normalize text = .ok m ↔
      ∃ w : WrittenDate, w.chars = trim text.toList ∧ w.moment.Real ∧ m = w.moment) ∧
    (∀ e, normalize text = .error e ↔
      (¬ ∃ w : WrittenDate, w.chars = trim text.toList) ∧ e = .shape text ∨
      ∃ w : WrittenDate, w.chars = trim text.toList ∧ w.moment.FirstFault e) := by
  constructor
  · intro m
    constructor
    · intro h
      by_cases hwritten : ∃ w : WrittenDate, w.chars = trim text.toList
      · obtain ⟨w, hw⟩ := hwritten
        rw [normalize_of_chars hw, Moment.check_eq_ok_iff] at h
        exact ⟨w, hw, h⟩
      · rw [normalize_of_not_written hwritten] at h
        cases h
    · rintro ⟨w, hw, hreal, rfl⟩
      rw [normalize_of_chars hw, Moment.check_eq_ok_iff]
      exact ⟨hreal, rfl⟩
  · intro e
    constructor
    · intro h
      by_cases hwritten : ∃ w : WrittenDate, w.chars = trim text.toList
      · obtain ⟨w, hw⟩ := hwritten
        rw [normalize_of_chars hw, Moment.check_eq_error_iff] at h
        exact .inr ⟨w, hw, h⟩
      · rw [normalize_of_not_written hwritten] at h
        cases h
        exact .inl ⟨hwritten, rfl⟩
    · rintro (⟨hwritten, rfl⟩ | ⟨w, hw, hfault⟩)
      · exact normalize_of_not_written hwritten
      · rw [normalize_of_chars hw, Moment.check_eq_error_iff]
        exact hfault

end Chronicle.Calendar
