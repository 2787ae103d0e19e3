import Chronicle.Proofs.Script.LineNumbers
import Chronicle.Proofs.Script.Wording

/-!
# The messages about a script in one text

The messages about the lines that are wrong are put into one text with two semicolons between them, so that it
can be split again.  No message of the standard dialect has a semicolon in its own words (`quotes_issueText`), and
none ends with one.  So the text is split where the messages were joined, but it is also split inside of a message
that quotes two semicolons in a row.

The main statement is `segments_message`.  The messages are got back just when no text that they cite has the
separator in it, and what they cite stands on the lines that are wrong.
-/

namespace Chronicle.Script

open Chronicle.Text Chronicle.Timeline

/-! ## Messages -/

/-- The words of a message of the standard dialect have no semicolon. -/
theorem quotes_issueText {issue : Issue} (h : issue.error.HasMarks .standard) :
    Quotes ';' issue.text issue.error.cited? :=
  quotes_numberedMessage (by decide) h

/-! ## Splitting -/

/-- The texts that a text is split into at the separator of messages. -/
def segments (text : String) : List String :=
  (splitAll messageSeparator.toList text.toList).map String.ofList

theorem plainMark_semicolon : PlainMark ';' where
  printable := by decide
  not_alphanum := by decide
  ne_backslash := by decide
  ne_single := by decide
  ne_double := by decide

theorem messageSeparator_eq : messageSeparator.toList = [';', ';'] := rfl

section
variable {messages : List String}

/-- A text of several messages is split into what each of them is split into. -/
theorem segments_intercalate (hne : messages ≠ [])
    (h : ∀ message ∈ messages, EndsApart messageSeparator.toList message.toList) :
    segments (String.intercalate messageSeparator messages) = messages.flatMap segments := by
  have htexts : ∀ text ∈ messages.map String.toList, EndsApart messageSeparator.toList text :=
    List.forall_mem_map.mpr h
  rw [segments, String.toList_intercalate, splitAll_intercalate (by decide) (by simpa using hne) htexts,
    List.flatMap_map, List.map_flatMap]
  rfl

theorem segments_intercalate_eq_iff (hne : messages ≠ [])
    (h : ∀ message ∈ messages, EndsApart messageSeparator.toList message.toList) :
    segments (String.intercalate messageSeparator messages) = messages ↔
      ∀ message ∈ messages, ¬messageSeparator.toList <:+: message.toList := by
  have htexts : ∀ text ∈ messages.map String.toList, EndsApart messageSeparator.toList text :=
    List.forall_mem_map.mpr h
  have hmap (pieces : List (List Char)) :
      pieces.map String.ofList = messages ↔ pieces = messages.map String.toList := by
    constructor
    · rintro rfl
      simp
    · rintro rfl
      simp
  rw [segments, hmap, String.toList_intercalate,
    splitAll_intercalate_eq_iff (by decide) (by simpa using hne) htexts, List.forall_mem_map]

end

/-! ## Reports -/

/-- The messages about a script of the standard dialect stand in the order of their lines, and the text of all of
them is split where they were joined.  They are got back just when none of the texts that they cite has two
semicolons in a row, and every text that is cited stands on its line. -/
theorem segments_message {source locale : String} {options : Options} {r : Report}
    (h : parse .standard source locale options = .error (.wrongLines r)) :
    r.messages = r.issues.map (fun issue => "Line " ++ showNat issue.line ++ ": " ++ issue.error.message) ∧
      (r.issues.map Issue.line).Pairwise (· < ·) ∧
      segments r.message = r.messages.flatMap segments ∧
      (segments r.message = r.messages ↔
        ∀ issue ∈ r.issues, ∀ text ∈ issue.error.cited?, ¬[';', ';'] <:+: text.toList) ∧
      ∀ issue ∈ r.issues, ∀ text ∈ issue.error.cited?,
        ∃ line ∈ sourceLines source, line.number = issue.line ∧ text.toList <:+: line.text.toList := by
  obtain ⟨hcompile, hissues⟩ := parse_eq_wrongLines_iff.mp h
  obtain ⟨-, rfl⟩ := compile_eq_ok_iff.mp hcompile
  have hfound (issue : Issue) (hissue : issue ∈ (scan .standard source).issues) :=
    exists_line_of_mem_issues hissue
  have hquotes : ∀ issue ∈ (scan .standard source).issues, Quotes ';' issue.text issue.error.cited? := by
    intro issue hissue
    obtain ⟨line, -, -, harises⟩ := hfound issue hissue
    exact quotes_issueText harises.marks
  have hne : ((scan .standard source).report locale options).messages ≠ [] := mt List.map_eq_nil_iff.mp hissues
  have hapart : ∀ message ∈ ((scan .standard source).report locale options).messages,
      EndsApart messageSeparator.toList message.toList := by
    rw [Report.messages, List.forall_mem_map, messageSeparator_eq]
    exact fun issue hissue => endsApart_pair ((hquotes issue hissue).not_mem_getLast? plainMark_semicolon)
  refine ⟨rfl, ?_, segments_intercalate hne hapart, ?_, ?_⟩
  · rw [Progress.report, map_line_issues_scan]
    exact pairwise_acceptedNumbers _
  · rw [Report.message, segments_intercalate_eq_iff hne hapart, Report.messages, List.forall_mem_map,
      messageSeparator_eq]
    refine forall₂_congr fun issue hissue => ?_
    rw [(hquotes issue hissue).pair_infix_iff plainMark_semicolon]
    simp
  · intro issue hissue text htext
    obtain ⟨line, hline, hnumber, harises⟩ := hfound issue hissue
    exact ⟨line, hline, hnumber, harises.cited text htext⟩

/-- Single semicolons at the ends of what is cited do no harm. -/
theorem segments_message_singles :
    ∃ r : Report, parse .standard "a;\n;b" = .error (.wrongLines r) ∧
      r.message = "Line 1: Unrecognized line: 'a;';;Line 2: Unrecognized line: ';b'" ∧
      segments r.message = ["Line 1: Unrecognized line: 'a;'", "Line 2: Unrecognized line: ';b'"] := by
  have hparse : parse .standard "a;\n;b" =
      .error (.wrongLines ⟨{}, [⟨1, .unknownLine "a;"⟩, ⟨2, .unknownLine ";b"⟩]⟩) := by
    decide +kernel
  obtain ⟨-, -, -, hsplit, -⟩ := segments_message hparse
  refine ⟨_, hparse, by decide +kernel, ?_⟩
  rw [hsplit.mpr (by decide +kernel)]
  decide +kernel

/-- A line with two semicolons in a row is cited in a message that is split into two. -/
theorem segments_message_pair :
    ∃ r : Report, parse .standard "a;;b" = .error (.wrongLines r) ∧
      r.messages = ["Line 1: Unrecognized line: 'a;;b'"] ∧
      segments r.message = ["Line 1: Unrecognized line: 'a", "b'"] ∧ segments r.message ≠ r.messages := by
  refine ⟨⟨{}, [⟨1, .unknownLine "a;;b"⟩]⟩, ?_, ?_, ?_, ?_⟩ <;> decide +kernel

end Chronicle.Script
