import Chronicle.Proofs.Text.Lines
import Chronicle.Script.Compile
import Mathlib.Data.List.Chain
import Mathlib.Logic.Function.Iterate

/-!
# Line breaks

A line ends with a line feed, a carriage return, or a carriage return and a line feed, and a source text may have all
three.  `BrokenLines` are lines with a break of any kind between each and the next.  The text that they make has just
these lines (`lines_chars`): no break is lost, and none counts twice.

A cursor hands out the lines of its source one by one (`LineCursor.handsOut_ofSource`).  So it makes no difference to
the cursor, nor to what comes of a script, which breaks stand between the lines (`lineBreaks_irrelevant`).
-/

namespace Chronicle

namespace Text

/-- A way to end a line. -/
inductive LineBreak where
  | lineFeed
  | carriageReturn
  /-- A carriage return and a line feed, which end one line together. -/
  | both
  deriving DecidableEq, Repr

def LineBreak.chars : LineBreak → List Char
  | .lineFeed => ['\n']
  | .carriageReturn => ['\r']
  | .both => ['\r', '\n']

/-- Lines with a break between each and the next. -/
structure BrokenLines where
  first : List Char
  /-- The further lines, each behind the break that comes before it. -/
  more : List (LineBreak × List Char)
  plain : ∀ line ∈ first :: more.map Prod.snd, IsPlainLine line
  /-- An empty line does not bring a carriage return and a line feed together, which would then end one line. -/
  apart : more.IsChain fun before after => before = (.carriageReturn, []) → after.1 ≠ .lineFeed

/-- The characters of lines with their breaks before them. -/
def brokenChars (more : List (LineBreak × List Char)) : List Char :=
  more.flatMap fun (ending, line) => ending.chars ++ line

namespace BrokenLines

def lines (l : BrokenLines) : List (List Char) := l.first :: l.more.map Prod.snd

def chars (l : BrokenLines) : List Char := l.first ++ brokenChars l.more

/-- The lines and their breaks as a source text. -/
def source (l : BrokenLines) : String := String.ofList l.chars

end BrokenLines

/-! ## Every break becomes one line feed -/

theorem unifyBreaks_append_of_not_mem {cs : List Char} (h : '\r' ∉ cs) (rest : List Char) :
    unifyBreaks (cs ++ rest) = cs ++ unifyBreaks rest := by
  induction cs with
  | nil => rfl
  | cons c cs ih =>
    have hc : c ≠ '\r' := (List.ne_of_not_mem_cons h).symm
    have hcs := ih (List.not_mem_of_not_mem_cons h)
    rw [unifyBreaks] at hcs ⊢
    rw [List.cons_append, joinCrLf_cons hc, List.map_cons, hcs, if_neg hc, List.cons_append]

theorem joinCrLf_carriageReturn {rest : List Char} (h : rest.head? ≠ some '\n') :
    joinCrLf ('\r' :: rest) = '\r' :: joinCrLf rest := by
  cases rest with
  | nil => rfl
  | cons c rest => rw [joinCrLf, if_neg fun hbreak => h (congrArg some hbreak.2)]

/-- A break counts once, unless it is a carriage return to which a line feed is added. -/
theorem unifyBreaks_chars_append {ending : LineBreak} {rest : List Char}
    (h : ending = .carriageReturn → rest.head? ≠ some '\n') :
    unifyBreaks (ending.chars ++ rest) = '\n' :: unifyBreaks rest := by
  cases ending with
  | lineFeed =>
    rw [LineBreak.chars, List.singleton_append, unifyBreaks, joinCrLf_cons (by decide)]
    rfl
  | carriageReturn =>
    rw [LineBreak.chars, List.singleton_append, unifyBreaks, joinCrLf_carriageReturn (h rfl)]
    rfl
  | both =>
    have hboth : joinCrLf ('\r' :: '\n' :: rest) = '\n' :: joinCrLf rest := by
      rw [joinCrLf, if_pos ⟨rfl, rfl⟩, joinCrLf_cons (by decide)]
    rw [LineBreak.chars, List.cons_append, List.singleton_append, unifyBreaks, hboth]
    rfl

/-- What follows a break starts with a line feed only if the line is empty and the next break is a line feed. -/
theorem head?_append_brokenChars {line : List Char} (hline : IsPlainLine line)
    {more : List (LineBreak × List Char)} (h : line = [] → ∀ next ∈ more.head?, next.1 ≠ .lineFeed) :
    (line ++ brokenChars more).head? ≠ some '\n' := by
  cases line with
  | cons c line => exact fun heq => hline.1 (Option.some_inj.mp heq ▸ List.mem_cons_self)
  | nil =>
    cases more with
    | nil => simp [brokenChars]
    | cons next more =>
      obtain ⟨ending, line⟩ := next
      have hending : ending ≠ .lineFeed := h rfl _ rfl
      cases ending with
      | lineFeed => exact absurd rfl hending
      | carriageReturn => simp [brokenChars, LineBreak.chars]
      | both => simp [brokenChars, LineBreak.chars]

theorem unifyBreaks_append_brokenChars {first : List Char} {more : List (LineBreak × List Char)}
    (hplain : ∀ line ∈ first :: more.map Prod.snd, IsPlainLine line)
    (hapart : more.IsChain fun before after => before = (.carriageReturn, []) → after.1 ≠ .lineFeed) :
    unifyBreaks (first ++ brokenChars more) = joinLines (first :: more.map Prod.snd) := by
  induction more generalizing first with
  | nil =>
    rw [brokenChars, List.flatMap_nil, List.append_nil, unifyBreaks_of_not_mem (hplain first (by simp)).2]
    simp [joinLines]
  | cons entry more ih =>
    obtain ⟨ending, line⟩ := entry
    obtain ⟨hfirst, hmore⟩ := List.forall_mem_cons.mp hplain
    obtain ⟨hhead, htail⟩ := List.isChain_cons.mp hapart
    have hline : ending = .carriageReturn → (line ++ brokenChars more).head? ≠ some '\n' := by
      rintro rfl
      exact head?_append_brokenChars (hmore line (by simp)) fun hempty next hnext =>
        hhead next hnext (by rw [hempty])
    have hsplit : brokenChars ((ending, line) :: more) = ending.chars ++ (line ++ brokenChars more) := by
      simp [brokenChars]
    rw [hsplit, unifyBreaks_append_of_not_mem hfirst.2, unifyBreaks_chars_append hline, ih hmore htail]
    exact (joinLines_cons first (List.cons_ne_nil _ _)).symm

namespace BrokenLines

theorem unifyBreaks_chars (l : BrokenLines) : unifyBreaks l.chars = joinLines l.lines :=
  unifyBreaks_append_brokenChars l.plain l.apart

/-- Broken lines are lines of the text that they make, and it has no others. -/
theorem lines_chars (l : BrokenLines) : Text.lines l.chars = l.lines := by
  rw [Text.lines, unifyBreaks_chars]
  exact lineFeedPieces_joinLines (List.cons_ne_nil _ _) fun line hline => (l.plain line hline).1

/-- A carriage return, an empty line and a line feed would be one break. -/
example : Text.lines "a\r\nb".toList = ["a".toList, "b".toList] := by decide

/-- The breaks might as well all be line feeds. -/
theorem sourceLines_source (l : BrokenLines) :
    sourceLines l.source = sourceLines (String.ofList (joinLines l.lines)) := by
  have hlines : Text.lines (joinLines l.lines) = l.lines := lines_joinLines (List.cons_ne_nil _ _) l.plain
  rw [sourceLines, sourceLines, source, String.toList_ofList, String.toList_ofList, lines_chars, hlines]

end BrokenLines

/-! ## A cursor that is asked for lines -/

namespace LineCursor

/-- The cursor after it has been asked for a line.  When there are no more, it stays where it is. -/
def advance (cursor : LineCursor) : LineCursor := (cursor.next?.map Prod.snd).getD cursor

/-- The cursor hands out the texts one after the other, numbered from 1, and nothing after them.  Its position is the
number of texts that it has handed out. -/
structure HandsOut (cursor : LineCursor) (texts : List (List Char)) : Prop where
  next : ∀ n, (advance^[n] cursor).next?.map Prod.fst = texts[n]?.map fun text => ⟨n + 1, String.ofList text⟩
  position : ∀ n, (advance^[n] cursor).position = min n texts.length

theorem advance_eq (cursor : LineCursor) :
    cursor.advance = ⟨cursor.rest.drop 1, cursor.position + min 1 cursor.rest.length⟩ := by
  obtain ⟨rest, position⟩ := cursor
  cases rest with
  | nil => rfl
  | cons text rest => simp [advance, next?]

theorem iterate_advance (cursor : LineCursor) (n : Nat) :
    advance^[n] cursor = ⟨cursor.rest.drop n, cursor.position + min n cursor.rest.length⟩ := by
  induction n with
  | zero => simp
  | succ n ih =>
    have hposition : min n cursor.rest.length + min 1 (cursor.rest.length - n) = min (n + 1) cursor.rest.length := by
      omega
    rw [Function.iterate_succ_apply', ih, advance_eq, List.drop_drop, List.length_drop, Nat.add_assoc, hposition]

theorem map_fst_next? (cursor : LineCursor) :
    cursor.next?.map Prod.fst = cursor.rest.head?.map fun text => ⟨cursor.position + 1, text⟩ := by
  obtain ⟨rest, position⟩ := cursor
  cases rest <;> rfl

theorem handsOut_ofSource (source : String) : (ofSource source).HandsOut (lines source.toList) where
  next n := by
    rw [iterate_advance, map_fst_next?, List.head?_drop, ofSource, List.getElem?_map, Option.map_map]
    rcases Nat.lt_or_ge n (lines source.toList).length with hn | hn
    · rw [List.getElem?_eq_getElem hn, List.length_map, Nat.min_eq_left hn.le, Nat.zero_add]
      rfl
    · rw [List.getElem?_eq_none hn]
      rfl
  position n := by rw [iterate_advance, ofSource, List.length_map, Nat.zero_add]

end LineCursor

end Text

/-! ## Scripts -/

namespace Script

open Chronicle.Text Chronicle.Timeline

theorem parse_congr {s₁ s₂ : String} (h : sourceLines s₁ = sourceLines s₂) (d : Dialect) (locale : String)
    (options : Options) : parse d s₁ locale options = parse d s₂ locale options := by
  rw [parse, compile, h]
  rfl

/-- Whatever the breaks between them are, a cursor hands out the lines, and the script comes to the same as with line
feeds.  No line that a cursor hands out has a line end in it. -/
theorem lineBreaks_irrelevant (l : BrokenLines) :
    (LineCursor.ofSource l.source).HandsOut l.lines ∧
      (∀ (d : Dialect) (locale : String) (options : Options),
        parse d l.source locale options = parse d (String.ofList (joinLines l.lines)) locale options) ∧
      ∀ (source : String) (n : Nat) (line : SourceLine),
        (LineCursor.advance^[n] (.ofSource source)).next?.map Prod.fst = some line →
          '\n' ∉ line.text.toList ∧ '\r' ∉ line.text.toList := by
  refine ⟨?_, parse_congr l.sourceLines_source, fun source n line hline => ?_⟩
  · have hhands := LineCursor.handsOut_ofSource l.source
    rwa [BrokenLines.source, String.toList_ofList, l.lines_chars] at hhands
  · rw [(LineCursor.handsOut_ofSource source).next n] at hline
    obtain ⟨text, htext, rfl⟩ := Option.map_eq_some_iff.mp hline
    rw [String.toList_ofList]
    exact isPlainLine_of_mem_lines (List.mem_of_getElem? htext)

/-- Breaks of all kinds, also at both ends and around empty lines, and a wrong line behind them. -/
theorem lineBreaks_irrelevant_mixed :
    ∃ l : BrokenLines,
      l.source = "\r- [2020] a\r\n\r\r\nx\n" ∧
      l.lines = ["", "- [2020] a", "", "", "x", ""].map String.toList ∧
      (LineCursor.ofSource "\r- [2020] a\r\n\r\r\nx\n").HandsOut l.lines ∧
      parse .standard "\r- [2020] a\r\n\r\r\nx\n" = parse .standard "\n- [2020] a\n\n\nx\n" ∧
      (∃ r : Report, parse .standard "\n- [2020] a\n\n\nx\n" = .error (.wrongLines r) ∧
        r.messages = ["Line 5: Unrecognized line: 'x'"]) ∧
      '\r' ∉ "x".toList := by
  obtain ⟨hhands, hparse, hplain⟩ := lineBreaks_irrelevant
    { first := []
      more :=
        [(.carriageReturn, "- [2020] a".toList), (.both, []), (.carriageReturn, []), (.both, "x".toList),
          (.lineFeed, [])]
      plain := by simp [IsPlainLine]
      apart := by simp }
  refine ⟨_, by decide, by decide, hhands, hparse .standard "en" {}, ?_, ?_⟩
  · exact ⟨⟨{ items := [{ id := 0, content := "a", start := { year := 2020, month := 1, day := 1 },
                          sourceLine := 2, extent := .event none }] }, [⟨5, .unknownLine "x"⟩]⟩,
      by decide +kernel, by decide +kernel⟩
  · exact (hplain "\r- [2020] a\r\n\r\r\nx\n" 4 ⟨5, "x"⟩ (by decide)).2

end Script

end Chronicle
