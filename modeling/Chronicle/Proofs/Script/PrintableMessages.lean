import Chronicle.Proofs.Script.Wording
import Chronicle.Proofs.Text.Lines

/-!
# Messages are printable

Whatever is on a line that is refused, the message about it is one line of printable text.  What the author has written
gets into a message only through a quotation, which escapes all that is not printable, and the other words of a message
are printable themselves.

This is said of single messages and of all of them in one text (`shownOnOneLine_messages`).
-/

namespace Chronicle.Script

open Chronicle.Text Chronicle.Timeline

/-- A text that shows as it is, on one line: its characters are printable and no line ends, and the plain space is the
only blank. -/
def ShownOnOneLine (text : String) : Prop :=
  ∀ c ∈ text.toList, isPrintable c = true ∧ c ≠ '\n' ∧ c ≠ '\r' ∧ (isBlank c = true → c = ' ')

theorem shownOnOneLine_of_printable {text : String} (h : ∀ c ∈ text.toList, isPrintable c = true) :
    ShownOnOneLine text := by
  intro c hc
  refine ⟨h c hc, ?_, ?_, eq_space_of_isPrintable (h c hc)⟩
  · rintro rfl
    cases h '\n' hc
  · rintro rfl
    cases h '\r' hc

theorem isPrintable_of_mem_message {issue : Issue} (h : issue.error.HasMarks .standard) :
    ∀ c ∈ issue.text.toList, isPrintable c = true := by
  intro c hc
  by_contra hnot
  rw [Bool.not_eq_true] at hnot
  exact (quotes_numberedMessage (isWording_of_not_isPrintable hnot) h).not_mem hnot hc

/-- The messages about the lines that are wrong are each one line of printable text, and so are all of them together,
whatever the script is. -/
theorem shownOnOneLine_messages {source locale : String} {options : Options} {r : Report}
    (h : parse .standard source locale options = .error (.wrongLines r)) :
    r.messages ≠ [] ∧ (∀ message ∈ r.messages, ShownOnOneLine message) ∧ ShownOnOneLine r.message := by
  obtain ⟨hcompile, hissues⟩ := parse_eq_wrongLines_iff.mp h
  obtain ⟨-, rfl⟩ := compile_eq_ok_iff.mp hcompile
  have hprintable : ∀ message ∈ ((scan .standard source).report locale options).messages,
      ∀ c ∈ message.toList, isPrintable c = true := by
    refine List.forall_mem_map.mpr fun issue hissue => ?_
    obtain ⟨line, -, -, harises⟩ := exists_line_of_mem_issues hissue
    exact isPrintable_of_mem_message harises.marks
  refine ⟨mt List.map_eq_nil_iff.mp hissues, fun message hmessage => ?_, ?_⟩
  · exact shownOnOneLine_of_printable (hprintable message hmessage)
  · refine shownOnOneLine_of_printable ?_
    rw [Report.message, String.toList_intercalate]
    exact forall_mem_intercalate (List.all_eq_true.mp (by decide)) (List.forall_mem_map.mpr hprintable)

/-- A mark that turns the direction of writing, a blank without width, and a line separator are all escaped. -/
theorem shownOnOneLine_messages_escapes :
    ∃ r : Report,
      parse .standard "\u202eabc\n- [20\u200b20] x\r> NOTODAY a\u2028\u00a0b" = .error (.wrongLines r) ∧
      r.messages =
        ["Line 1: Unrecognized line: '\\u202eabc'", "Line 2: Invalid date format: '20\\u200b20'",
          "Line 3: NOTODAY takes no arguments, got 'a\\u2028\\xa0b'"] ∧
      ∀ message ∈ r.messages, ShownOnOneLine message := by
  have hparse : parse .standard "\u202eabc\n- [20\u200b20] x\r> NOTODAY a\u2028\u00a0b" =
      .error (.wrongLines ⟨{}, [⟨1, .unknownLine "\u202eabc"⟩, ⟨2, .date (.shape "20\u200b20")⟩,
        ⟨3, .argumentsGiven "a\u2028\u00a0b"⟩]⟩) := by
    decide +kernel
  obtain ⟨-, hmessages, -⟩ := shownOnOneLine_messages hparse
  exact ⟨_, hparse, by decide +kernel, hmessages⟩

end Chronicle.Script
