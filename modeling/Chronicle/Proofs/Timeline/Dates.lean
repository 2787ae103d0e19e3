import Chronicle.Proofs.Calendar.CanonicalText
import Chronicle.Proofs.Data.Decode
import Chronicle.Timeline.Decode

/-!
# Dates from data

A date comes as a text or as a record of its components, and there are two ways to read the text.  Normalizing
checks the components once.  Reading it as data hands them on to the reader of records, which checks them again.

The second check never fails.  Normalizing gives a real date, its components are read as they are, and they pass
the check of a date (`readMoment_text`).  So the two ways agree, also in what they say of a text that is refused,
and a record is accepted when its components are those of a real date (`readMoment_agrees`).
-/

namespace Chronicle.Timeline

open Chronicle.Calendar Chronicle.Data

variable {fields : List (String × Value)} {m : Moment}

/-- A check of a date that is passed gives the date. -/
theorem checkedMoment_eq_sound_iff {result : Except DateError Moment} :
    checkedMoment result = .sound m ↔ result = .ok m := by
  cases result with
  | ok n => simp [checkedMoment]
  | error e => simp [checkedMoment, Checked.fail]

/-- A refused text is a problem with the message of its error. -/
theorem checkedMoment_of_normalize_error {text : String} {e : DateError} (h : normalize text = .error e) :
    checkedMoment (normalize text) = .fail (.rejected e.message) := by
  rw [h, checkedMoment, if_pos (writable_of_normalize h)]

/-! ## Components -/

/-- A record holds the components of a date as integers.  They may come in any order, and next to other fields. -/
structure HoldsComponents (fields : List (String × Value)) (m : Moment) : Prop where
  year : fields.lookup "year" = some (.int m.year)
  month : fields.lookup "month" = some (.int m.month)
  day : fields.lookup "day" = some (.int m.day)
  hour : fields.lookup "hour" = some (.int m.hour)
  minute : fields.lookup "minute" = some (.int m.minute)
  second : fields.lookup "second" = some (.int m.second)

theorem holdsComponents_componentFields (m : Moment) : HoldsComponents (componentFields m) m := by
  constructor <;> rfl

theorem readComponentFields_of_holds (h : HoldsComponents fields m) : readComponentFields fields = .sound m := by
  simp only [readComponentFields, required, optionalField, h.year, h.month, h.day, h.hour, h.minute, h.second,
    integer_int, Checked.under_sound, Checked.map_sound, Checked.seq_sound]

/-- Integers are read as they are, so only the check of the date is left. -/
theorem readComponentRecord_of_holds (h : HoldsComponents fields m) :
    readComponentRecord fields = checkedMoment m.check := by
  rw [readComponentRecord, readComponentFields_of_holds h, Checked.andThen]

/-! ## Texts -/

/-- What normalizing gives passes the check again. -/
theorem check_of_normalize {text : String} (h : normalize text = .ok m) : m.check = .ok m :=
  Moment.check_eq_ok_iff.mpr ⟨(readable_of_normalize h).real, rfl⟩

theorem readComponentRecord_of_normalize {text : String} (h : normalize text = .ok m)
    (hfields : HoldsComponents fields m) : readComponentRecord fields = .sound m := by
  rw [readComponentRecord_of_holds hfields, check_of_normalize h, checkedMoment]

theorem readMoment_text (text : String) : readMoment (.text text) = checkedMoment (normalize text) := by
  rw [readMoment]
  cases hnormal : normalize text with
  | ok m => exact readComponentRecord_of_normalize hnormal (holdsComponents_componentFields m)
  | error e => rfl

/-! ## Agreement -/

theorem readMoment_record_eq_sound_iff (h : HoldsComponents fields m) {n : Moment} :
    readMoment (.record fields) = .sound n ↔ m.Real ∧ n = m := by
  rw [readMoment, readComponentRecord_of_holds h, checkedMoment_eq_sound_iff, Moment.check_eq_ok_iff]

/-- A text is read as data with the same outcome as it is normalized with, and the problem with a text that is
refused is the one of normalizing it.  The components of a date that a text was normalized to are read as this date.
Of any integers as components, a date is read exactly when the check finds no fault, which is when they are
a date and a time of the calendar. -/
theorem readMoment_agrees :
    (∀ text : String,
      (∀ m, readMoment (.text text) = .sound m ↔ normalize text = .ok m) ∧
      (∀ e, normalize text = .error e → ∃ problem, readMoment (.text text) = .faulty [problem] ∧
        problem.path = [] ∧ problem.defect.label = "value_error" ∧
        problem.defect.message? = some ("Value error, " ++ e.message)) ∧
      ∀ m, normalize text = .ok m → ∀ fields, HoldsComponents fields m → readMoment (.record fields) = .sound m) ∧
    ∀ (fields : List (String × Value)) (m : Moment), HoldsComponents fields m →
      ((∃ n, readMoment (.record fields) = .sound n) ↔ m.fault? = none) ∧
      (m.fault? = none ↔ m.Real) ∧
      ∀ n, readMoment (.record fields) = .sound n → n = m := by
  refine ⟨fun text => ⟨fun m => ?_, fun e he => ?_, fun m hm fields hfields => ?_⟩,
    fun fields m hfields => ⟨?_, ?_, ?_⟩⟩
  · rw [readMoment_text, checkedMoment_eq_sound_iff]
  · refine ⟨⟨[], .rejected e.message⟩, ?_, rfl, rfl, rfl⟩
    rw [readMoment_text, checkedMoment_of_normalize_error he]
    rfl
  · exact readComponentRecord_of_normalize hm hfields
  · rw [Moment.fault?_eq_none_iff]
    constructor
    · rintro ⟨n, hn⟩
      exact ((readMoment_record_eq_sound_iff hfields).mp hn).1
    · intro hreal
      exact ⟨m, (readMoment_record_eq_sound_iff hfields).mpr ⟨hreal, rfl⟩⟩
  · exact Moment.fault?_eq_none_iff
  · intro n hn
    exact ((readMoment_record_eq_sound_iff hfields).mp hn).2

/-- A leap day that is read and read back, one that is refused since its year is no leap year, and the same day as
a record with its fields in another order, in a leap year of more digits than a text may have. -/
theorem readMoment_agrees_leapDays :
    readMoment (.text "2000-02-29T12") = .sound ⟨⟨2000, 2, 29⟩, 12, 0, 0⟩ ∧
      readMoment (.record (componentFields ⟨⟨2000, 2, 29⟩, 12, 0, 0⟩)) = .sound ⟨⟨2000, 2, 29⟩, 12, 0, 0⟩ ∧
      (∃ problem, readMoment (.text "1900-02-29") = .faulty [problem] ∧
        problem.defect.message? =
          some "Value error, Invalid date: 1900-02-29. Make sure you have correct month, day, etc.") ∧
      ∃ n, readMoment (.record [("second", .int 0), ("minute", .int 0), ("hour", .int 0), ("day", .int 29),
        ("month", .int 2), ("year", .int (-40000000000))]) = .sound n := by
  obtain ⟨htexts, hrecords⟩ := readMoment_agrees
  have hleap : normalize "2000-02-29T12" = .ok ⟨⟨2000, 2, 29⟩, 12, 0, 0⟩ := by decide +kernel
  have hcommon : normalize "1900-02-29" = .error (.unreal ⟨1900, 2, 29⟩) := by decide +kernel
  obtain ⟨problem, hfaulty, -, -, hmessage⟩ := (htexts "1900-02-29").2.1 _ hcommon
  have hfields : HoldsComponents [("second", .int 0), ("minute", .int 0), ("hour", .int 0), ("day", .int 29),
      ("month", .int 2), ("year", .int (-40000000000))] ⟨⟨-40000000000, 2, 29⟩, 0, 0, 0⟩ := by
    constructor <;> rfl
  refine ⟨((htexts _).1 _).mpr hleap, (htexts _).2.2 _ hleap _ (holdsComponents_componentFields _),
    ⟨problem, hfaulty, ?_⟩, ?_⟩
  · rw [hmessage]
    decide +kernel
  · exact (hrecords _ _ hfields).1.mpr (by decide +kernel)

end Chronicle.Timeline
