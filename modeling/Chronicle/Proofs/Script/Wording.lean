import Chronicle.Proofs.Calendar.CanonicalText
import Chronicle.Proofs.Script.Citation
import Chronicle.Proofs.Script.Outcome
import Chronicle.Proofs.Text.Printable

/-!
# The words of messages

A message about a line of the standard dialect has words of its own, among them dates and numbers, and it may quote
one text of the author.  The own words are *wording*: printable characters, and no semicolon, which is the mark between
messages (`quotes_message`).  Everything else in a message is a quotation.
-/

namespace Chronicle.Text

/-- Whether a message can use a character in its own words. -/
def isWording (c : Char) : Bool := isPrintable c && c != ';'

theorem isWording_of_isDigit {c : Char} (h : c.isDigit = true) : isWording c = true := by
  have hne : c ≠ ';' := by
    rintro rfl
    cases h
  simp [isWording, isPrintable_of_isDigit h, hne]

theorem isWording_of_not_isPrintable {c : Char} (h : isPrintable c = false) : isWording c = false := by
  rw [isWording, h, Bool.false_and]

variable {x : Char} {cs : List Char}

theorem not_mem_of_wording (hx : isWording x = false) (h : ∀ c ∈ cs, isWording c = true) : x ∉ cs := by
  intro hmem
  rw [h x hmem] at hx
  cases hx

theorem not_mem_literal (hx : isWording x = false) (h : cs.all isWording = true) : x ∉ (String.ofList cs).toList :=
  not_mem_toList_ofList (not_mem_of_wording hx (List.all_eq_true.mp h))

end Chronicle.Text

namespace Chronicle.Calendar

open Chronicle.Text

variable {x : Char}

/-! ## Dates -/

theorem not_mem_isoChars_of_wording (hx : isWording x = false) (m : Moment) : x ∉ m.isoChars := by
  refine not_mem_of_wording hx fun c hc => ?_
  have hmarks : ∀ c ∈ ['-', 'T', ':', 'Z'], isWording c = true := List.all_eq_true.mp (by decide)
  rcases Moment.isDigit_of_mem_isoChars hc with hdigit | hmark
  · exact isWording_of_isDigit hdigit
  · exact hmarks c hmark

theorem not_mem_civilIsoChars_of_wording (hx : isWording x = false) (d : CivilDate) : x ∉ d.isoChars := fun h =>
  not_mem_isoChars_of_wording hx ⟨d, 0, 0, 0⟩ (List.mem_append_left _ h)

theorem not_mem_paddedInt_of_wording (hx : isWording x = false) (width : Nat) (n : Int) : x ∉ paddedInt width n := by
  refine not_mem_of_wording hx fun c hc => ?_
  rcases Moment.isDigit_of_mem_signed hc with hdigit | rfl
  · exact isWording_of_isDigit hdigit
  · decide

theorem quotes_rangeMessage (hx : isWording x = false) (component range : String) (n : Int)
    (hcomponent : x ∉ component.toList) (hrange : x ∉ range.toList) :
    Quotes x (DateError.rangeMessage component n range) none := by
  refine .plain ?_
  rw [DateError.rangeMessage]
  simp only [String.toList_append, toList_paddedNumeral, List.mem_append, not_or]
  exact ⟨⟨⟨⟨⟨not_mem_literal hx (by decide), hcomponent⟩, not_mem_literal hx (by decide)⟩,
    not_mem_paddedInt_of_wording hx 2 n⟩, not_mem_literal hx (by decide)⟩, hrange⟩

theorem quotes_dateMessage (hx : isWording x = false) (cause : DateError) : Quotes x cause.message cause.cited? := by
  have hword {cs : List Char} (h : cs.all isWording = true) : x ∉ (String.ofList cs).toList := not_mem_literal hx h
  cases cause with
  | shape text =>
    show Quotes x ("Invalid date format: " ++ quote text) (some text)
    exact .last text (hword (by decide))
  | unreal d =>
    show Quotes x
      ("Invalid date: " ++ String.ofList d.isoChars ++ ". Make sure you have correct month, day, etc.") none
    refine .plain ?_
    simp only [String.toList_append, String.toList_ofList, List.mem_append, not_or]
    exact ⟨⟨hword (by decide), not_mem_civilIsoChars_of_wording hx d⟩, hword (by decide)⟩
  | month n => exact quotes_rangeMessage hx "month" "01-12" n (hword (by decide)) (hword (by decide))
  | day n => exact quotes_rangeMessage hx "day" "01-31" n (hword (by decide)) (hword (by decide))
  | hour n => exact quotes_rangeMessage hx "hour" "00-23" n (hword (by decide)) (hword (by decide))
  | minute n => exact quotes_rangeMessage hx "minute" "00-59" n (hword (by decide)) (hword (by decide))
  | second n => exact quotes_rangeMessage hx "second" "00-59" n (hword (by decide)) (hword (by decide))

end Chronicle.Calendar

namespace Chronicle.Script

open Chronicle.Calendar Chronicle.Text Chronicle.Timeline

variable {x : Char}

/-! ## Messages -/

/-- A message of the standard dialect quotes what it cites, and is wording otherwise. -/
theorem quotes_message (hx : isWording x = false) {error : LineError} (h : error.HasMarks .standard) :
    Quotes x error.message error.cited? := by
  have hword {cs : List Char} (h : cs.all isWording = true) : x ∉ (String.ofList cs).toList := not_mem_literal hx h
  have hmoment (m : Moment) : x ∉ m.isoChars := not_mem_isoChars_of_wording hx m
  cases error with
  | date cause => exact quotes_dateMessage hx cause
  | windowDate cause =>
    show Quotes x ("DEFAULTVIEW: " ++ cause.message) cause.cited?
    exact (quotes_dateMessage hx cause).append_left (hword (by decide))
  | reversedRange start stop =>
    show Quotes x
      ("End date " ++ String.ofList stop.isoChars ++ " precedes start date " ++ String.ofList start.isoChars) none
    refine .plain ?_
    simp only [String.toList_append, String.toList_ofList, List.mem_append, not_or]
    exact ⟨⟨⟨hword (by decide), hmoment stop⟩, hword (by decide)⟩, hmoment start⟩
  | noDates forms kind line =>
    obtain ⟨rfl, hkind⟩ := h
    have hforms : Dialect.standard.dateForms.toList.all isWording = true := by decide
    have hkinds : ∀ kind ∈ Dialect.standard.kinds, kind.name.toList.all isWording = true := by decide
    show Quotes x ("Expected " ++ Dialect.standard.dateForms ++ " after the " ++ kind.name ++ " sigil: " ++
      quote line) (some line)
    refine .last line ?_
    simp only [String.toList_append, List.mem_append, not_or]
    exact ⟨⟨⟨⟨hword (by decide), not_mem_of_wording hx (List.all_eq_true.mp hforms)⟩, hword (by decide)⟩,
      not_mem_of_wording hx (List.all_eq_true.mp (hkinds kind hkind))⟩, hword (by decide)⟩
  | unknownSortKey key allowed =>
    obtain rfl : allowed = Dialect.standard.orderKeys := h
    have hkeys : (String.intercalate ", " (sortedTexts Dialect.standard.orderKeys)).toList.all isWording = true := by
      decide
    show Quotes x ("ORDERBY: unknown sort key " ++ quote key ++
      " (use " ++ String.intercalate ", " (sortedTexts Dialect.standard.orderKeys) ++ ")") (some key)
    rw [String.append_assoc, String.append_assoc]
    refine .text key (hword (by decide)) ?_
    simp only [String.toList_append, List.mem_append, not_or]
    exact ⟨hword (by decide), not_mem_of_wording hx (List.all_eq_true.mp hkeys), hword (by decide)⟩
  | unknownLine line =>
    show Quotes x ("Unrecognized line: " ++ quote line) (some line)
    exact .last line (hword (by decide))
  | argumentsGiven arguments =>
    show Quotes x ("NOTODAY takes no arguments, got " ++ quote arguments) (some arguments)
    exact .last arguments (hword (by decide))
  | noHeight text =>
    show Quotes x ("HEIGHT needs a positive number of pixels, got " ++ quote text) (some text)
    exact .last text (hword (by decide))
  | _ => exact .plain (hword (by decide))

theorem quotes_numberedMessage (hx : isWording x = false) {issue : Issue} (h : issue.error.HasMarks .standard) :
    Quotes x issue.text issue.error.cited? := by
  have hnumber : x ∉ natText issue.line :=
    not_mem_of_wording hx fun _ hc => isWording_of_isDigit (isDigit_of_mem_natText hc)
  refine (quotes_message hx h).append_left ?_
  simp only [String.toList_append, toList_showNat, List.mem_append, not_or]
  exact ⟨⟨not_mem_literal hx (by decide), hnumber⟩, not_mem_literal hx (by decide)⟩

/-! ## Issues -/

/-- An issue of a report was found on a line with its number. -/
theorem exists_line_of_mem_issues {d : Dialect} {source : String} {issue : Issue}
    (h : issue ∈ (scan d source).issues) :
    ∃ line ∈ sourceLines source, line.number = issue.line ∧ issue.error.ArisesOn d line.text.toList := by
  rw [scan, Progress.issues_run] at h
  obtain ⟨line, hline, hissue⟩ := List.mem_filterMap.mp h
  obtain ⟨hnumber, harises⟩ := arisesOn_of_issueAt? hissue
  exact ⟨line, hline, hnumber.symm, harises⟩

end Chronicle.Script
