import Chronicle.Proofs.Text.Split
import Chronicle.Text.Lines
import Mathlib.Data.List.Nodup

/-!
# Lines of a text

A *plain* line has no line end in it.  The lines of any text are plain (`isPlainLine_of_mem_lines`), and
plain lines that are joined by line feeds come back as they were (`lines_joinLines`).  So a text may be
taken apart into lines, changed line by line, and put together again.

The lines of a source text are numbered from 1 without gaps (`map_number_sourceLines`).  Two texts with a
line feed between them have the lines of both (`sourceLines_append`).  `rewriteLines` changes the lines of
a source text and keeps their numbers (`sourceLines_rewriteLines`).

Lines in front of others have a line feed each (`joinLines_append`).  Such *ended* lines are `endLines`.
-/

namespace Chronicle.Text

/-- A line without a line end in it. -/
def IsPlainLine (line : List Char) : Prop := '\n' ∉ line ∧ '\r' ∉ line

/-- Lines as one text. -/
def joinLines (pieces : List (List Char)) : List Char := ['\n'].intercalate pieces

/-! ## Pieces between line feeds -/

theorem lineFeedPieces_ne_nil (cs : List Char) : lineFeedPieces cs ≠ [] := by
  cases cs with
  | nil => simp [lineFeedPieces]
  | cons c rest =>
    rw [lineFeedPieces]
    split
    · simp
    · exact consFirst_ne_nil _ _

theorem lineFeedPieces_of_not_mem {cs : List Char} (h : '\n' ∉ cs) : lineFeedPieces cs = [cs] := by
  induction cs with
  | nil => rfl
  | cons c rest ih =>
    have hc : c ≠ '\n' := fun heq => h (heq ▸ List.mem_cons_self)
    rw [lineFeedPieces, if_neg hc, ih fun hmem => h (List.mem_cons_of_mem _ hmem)]
    rfl

theorem consFirst_append (c : Char) {pieces : List (List Char)} (h : pieces ≠ [])
    (more : List (List Char)) : consFirst c (pieces ++ more) = consFirst c pieces ++ more := by
  cases pieces with
  | nil => exact absurd rfl h
  | cons piece rest => rfl

/-- A line feed ends a piece, whatever stands on either side of it. -/
theorem lineFeedPieces_append_lineFeed (cs rest : List Char) :
    lineFeedPieces (cs ++ '\n' :: rest) = lineFeedPieces cs ++ lineFeedPieces rest := by
  induction cs with
  | nil => simp [lineFeedPieces]
  | cons c cs ih =>
    rw [List.cons_append, lineFeedPieces, lineFeedPieces, ih]
    split
    · rfl
    · exact consFirst_append c (lineFeedPieces_ne_nil cs) _

theorem lineFeedPieces_append {cs : List Char} (h : '\n' ∉ cs) (rest : List Char) :
    lineFeedPieces (cs ++ '\n' :: rest) = cs :: lineFeedPieces rest := by
  rw [lineFeedPieces_append_lineFeed, lineFeedPieces_of_not_mem h, List.singleton_append]

theorem lineFeedPieces_joinLines {pieces : List (List Char)} (hne : pieces ≠ [])
    (h : ∀ piece ∈ pieces, '\n' ∉ piece) : lineFeedPieces (joinLines pieces) = pieces := by
  induction pieces with
  | nil => exact absurd rfl hne
  | cons piece rest ih =>
    cases rest with
    | nil => simp [joinLines, lineFeedPieces_of_not_mem (h piece (by simp))]
    | cons next rest =>
      have hrest := ih (by simp) fun piece hmem => h piece (List.mem_cons_of_mem _ hmem)
      rw [joinLines] at hrest ⊢
      rw [List.intercalate_cons_cons, List.append_assoc, List.singleton_append,
        lineFeedPieces_append (h piece (by simp)), hrest]

theorem joinLines_consFirst (c : Char) {pieces : List (List Char)} (h : pieces ≠ []) :
    joinLines (consFirst c pieces) = c :: joinLines pieces := by
  obtain ⟨piece, rest, rfl⟩ := List.exists_cons_of_ne_nil h
  cases rest <;> simp [joinLines, consFirst, List.intercalate]

theorem joinLines_cons (piece : List Char) {rest : List (List Char)} (h : rest ≠ []) :
    joinLines (piece :: rest) = piece ++ '\n' :: joinLines rest := by
  obtain ⟨next, more, rfl⟩ := List.exists_cons_of_ne_nil h
  simp [joinLines, List.intercalate]

/-- A text is what its pieces are joined to. -/
theorem joinLines_lineFeedPieces (cs : List Char) : joinLines (lineFeedPieces cs) = cs := by
  induction cs with
  | nil => rfl
  | cons c rest ih =>
    rw [lineFeedPieces]
    split
    · next hc => rw [joinLines_cons [] (lineFeedPieces_ne_nil rest), ih, hc, List.nil_append]
    · rw [joinLines_consFirst c (lineFeedPieces_ne_nil rest), ih]

/-- The characters of a piece are characters of the text, and none of them is a line feed. -/
theorem mem_lineFeedPieces {cs piece : List Char} (h : piece ∈ lineFeedPieces cs) :
    ∀ c ∈ piece, c ∈ cs ∧ c ≠ '\n' := by
  induction cs generalizing piece with
  | nil =>
    simp only [lineFeedPieces, List.mem_singleton] at h
    simp [h]
  | cons d rest ih =>
    rw [lineFeedPieces] at h
    intro c hc
    split at h
    · rcases List.mem_cons.mp h with rfl | h
      · cases hc
      · exact (ih h c hc).imp_left (List.mem_cons_of_mem _)
    · next hd =>
      obtain ⟨first, more, hpieces⟩ := List.exists_cons_of_ne_nil (lineFeedPieces_ne_nil rest)
      rw [hpieces, consFirst] at h
      rcases List.mem_cons.mp h with rfl | h
      · rcases List.mem_cons.mp hc with rfl | hc
        · exact ⟨List.mem_cons_self, hd⟩
        · exact (ih (by simp [hpieces]) c hc).imp_left (List.mem_cons_of_mem _)
      · exact (ih (by simp [hpieces, h]) c hc).imp_left (List.mem_cons_of_mem _)

/-! ## Ended lines -/

/-- Lines as one text, with a line feed at the end of each. -/
def endLines (pieces : List (List Char)) : List Char := pieces.flatMap fun piece => piece ++ ['\n']

theorem endLines_cons (piece : List Char) (rest : List (List Char)) :
    endLines (piece :: rest) = piece ++ '\n' :: endLines rest := by
  simp [endLines]

theorem endLines_append (front back : List (List Char)) :
    endLines (front ++ back) = endLines front ++ endLines back :=
  List.flatMap_append

theorem endLines_concat (front : List (List Char)) (piece : List Char) :
    endLines (front ++ [piece]) = endLines front ++ piece ++ ['\n'] := by
  rw [endLines_append, endLines_cons, List.append_assoc]
  rfl

/-- The lines in front of a line have a line feed at their ends. -/
theorem joinLines_append (front : List (List Char)) {back : List (List Char)} (h : back ≠ []) :
    joinLines (front ++ back) = endLines front ++ joinLines back := by
  induction front with
  | nil => rfl
  | cons piece rest ih =>
    rw [List.cons_append, joinLines_cons piece (List.append_ne_nil_of_right_ne_nil rest h), ih, endLines_cons,
      List.append_assoc, List.cons_append]

/-- A line is followed by a line feed or by nothing. -/
theorem exists_joinLines_cons (piece : List Char) (rest : List (List Char)) :
    ∃ after, joinLines (piece :: rest) = piece ++ after ∧ ∀ c ∈ after.head?, c = '\n' := by
  by_cases h : rest = []
  · exact ⟨[], by simp [h, joinLines], by simp⟩
  · exact ⟨'\n' :: joinLines rest, joinLines_cons piece h, by simp⟩

theorem count_endLines {pieces : List (List Char)} (h : ∀ piece ∈ pieces, '\n' ∉ piece) :
    (endLines pieces).count '\n' = pieces.length := by
  induction pieces with
  | nil => rfl
  | cons piece rest ih =>
    obtain ⟨hpiece, hrest⟩ := List.forall_mem_cons.mp h
    rw [endLines_cons, List.count_append, List.count_eq_zero.mpr hpiece, List.count_cons_self, ih hrest,
      Nat.zero_add, List.length_cons]

theorem endLines_of_ne_nil {pieces : List (List Char)} (h : pieces ≠ []) :
    endLines pieces = joinLines pieces ++ ['\n'] := by
  obtain ⟨front, piece, rfl⟩ := List.eq_nil_or_concat' pieces |>.resolve_left h
  rw [joinLines_append front (List.cons_ne_nil _ _), endLines_concat, joinLines, List.intercalate_singleton]

/-- Ended lines are pieces of any text that starts with them. -/
theorem lineFeedPieces_endLines_append {pieces : List (List Char)} (h : ∀ piece ∈ pieces, '\n' ∉ piece)
    (rest : List Char) : lineFeedPieces (endLines pieces ++ rest) = pieces ++ lineFeedPieces rest := by
  induction pieces with
  | nil => rfl
  | cons piece more ih =>
    obtain ⟨hpiece, hmore⟩ := List.forall_mem_cons.mp h
    rw [endLines_cons, List.append_assoc, List.cons_append, lineFeedPieces_append hpiece, ih hmore, List.cons_append]

/-- A text that a line feed ends is one of ended lines. -/
theorem exists_endLines {cs : List Char} (h : ∀ c ∈ cs.getLast?, c = '\n') :
    ∃ pieces, cs = endLines pieces ∧ ∀ piece ∈ pieces, ∀ c ∈ piece, c ∈ cs ∧ c ≠ '\n' := by
  rcases List.eq_nil_or_concat' cs with rfl | ⟨front, c, rfl⟩
  · exact ⟨[], rfl, by simp⟩
  · obtain rfl : c = '\n' := h c (by simp)
    refine ⟨lineFeedPieces front, ?_, fun piece hpiece c hc => ?_⟩
    · rw [endLines_of_ne_nil (lineFeedPieces_ne_nil _), joinLines_lineFeedPieces]
    · exact (mem_lineFeedPieces hpiece c hc).imp_left (List.mem_append_left _)

/-- A line with a line feed or nothing behind it is a piece. -/
theorem exists_lineFeedPieces_cons {piece after : List Char} (hpiece : '\n' ∉ piece)
    (hafter : ∀ c ∈ after.head?, c = '\n') :
    ∃ rest, lineFeedPieces (piece ++ after) = piece :: rest ∧ ∀ line ∈ rest, ∀ c ∈ line, c ∈ after := by
  cases after with
  | nil => exact ⟨[], by rw [List.append_nil, lineFeedPieces_of_not_mem hpiece], by simp⟩
  | cons c after =>
    obtain rfl : c = '\n' := hafter c rfl
    exact ⟨lineFeedPieces after, lineFeedPieces_append hpiece after,
      fun line hline c hc => List.mem_cons_of_mem _ (mem_lineFeedPieces hline c hc).1⟩

/-! ## Unified line ends -/

theorem joinCrLf_of_not_mem {cs : List Char} (h : '\r' ∉ cs) : joinCrLf cs = cs := by
  fun_induction joinCrLf cs with
  | case1 => rfl
  | case2 => rfl
  | case3 c d rest hbreak ih => exact absurd (hbreak.1 ▸ List.mem_cons_self) h
  | case4 c d rest hbreak ih => rw [ih fun hmem => h (List.mem_cons_of_mem _ hmem)]

theorem unifyBreaks_of_not_mem {cs : List Char} (h : '\r' ∉ cs) : unifyBreaks cs = cs := by
  rw [unifyBreaks, joinCrLf_of_not_mem h]
  refine (List.map_congr_left fun c hc => ?_).trans (List.map_id _)
  exact if_neg fun (heq : c = '\r') => h (heq ▸ hc)

theorem not_mem_unifyBreaks (cs : List Char) : '\r' ∉ unifyBreaks cs := by
  rw [unifyBreaks, List.mem_map]
  rintro ⟨c, -, heq⟩
  split at heq
  · exact absurd heq (by decide)
  · next hc => exact hc heq

theorem joinCrLf_cons {c : Char} (h : c ≠ '\r') (rest : List Char) :
    joinCrLf (c :: rest) = c :: joinCrLf rest := by
  cases rest with
  | nil => rfl
  | cons d rest => rw [joinCrLf, if_neg fun hbreak => h hbreak.1]

/-- A line feed makes one line end with a carriage return before it, and with nothing else. -/
theorem joinCrLf_append_lineFeed {cs : List Char} (h : cs.getLast? ≠ some '\r') (rest : List Char) :
    joinCrLf (cs ++ '\n' :: rest) = joinCrLf cs ++ '\n' :: joinCrLf rest := by
  fun_induction joinCrLf cs with
  | case1 => exact joinCrLf_cons (by decide) rest
  | case2 c =>
    have hc : c ≠ '\r' := by simpa using h
    rw [List.singleton_append, joinCrLf_cons hc, joinCrLf_cons (by decide)]
    rfl
  | case3 c d more hbreak ih =>
    rw [List.getLast?_cons_cons] at h
    rw [List.cons_append, List.cons_append, joinCrLf, if_pos hbreak]
    exact ih h
  | case4 c d more hbreak ih =>
    rw [List.getLast?_cons_cons] at h
    rw [List.cons_append, List.cons_append, joinCrLf, if_neg hbreak, List.cons_append]
    exact congrArg (c :: ·) (ih h)

theorem unifyBreaks_append_lineFeed {cs : List Char} (h : cs.getLast? ≠ some '\r')
    (rest : List Char) :
    unifyBreaks (cs ++ '\n' :: rest) = unifyBreaks cs ++ '\n' :: unifyBreaks rest := by
  rw [unifyBreaks, joinCrLf_append_lineFeed h, List.map_append, List.map_cons]
  rfl

/-! ## Lines -/

theorem lines_ne_nil (cs : List Char) : lines cs ≠ [] := lineFeedPieces_ne_nil _

theorem isPlainLine_of_mem_lines {cs line : List Char} (h : line ∈ lines cs) : IsPlainLine line :=
  ⟨fun hmem => (mem_lineFeedPieces h _ hmem).2 rfl,
    fun hmem => not_mem_unifyBreaks cs (mem_lineFeedPieces h _ hmem).1⟩

/-- What holds of the characters of all pieces and of what stands between them holds of the whole text. -/
theorem forall_mem_intercalate {between : List Char} {pieces : List (List Char)} {P : Char → Prop}
    (hbetween : ∀ c ∈ between, P c) (h : ∀ piece ∈ pieces, ∀ c ∈ piece, P c) :
    ∀ c ∈ between.intercalate pieces, P c := by
  induction pieces with
  | nil => simp
  | cons piece rest ih =>
    obtain ⟨hpiece, hrest⟩ := List.forall_mem_cons.mp h
    cases rest with
    | nil => simpa using hpiece
    | cons next rest =>
      rw [List.intercalate_cons_cons, List.forall_mem_append, List.forall_mem_append]
      exact ⟨⟨hpiece, hbetween⟩, ih hrest⟩

theorem not_mem_joinLines {pieces : List (List Char)} {c : Char} (hc : c ≠ '\n')
    (h : ∀ piece ∈ pieces, c ∉ piece) : c ∉ joinLines pieces := by
  have hbetween : ∀ d ∈ ['\n'], d ≠ c := List.forall_mem_singleton.mpr hc.symm
  have hpieces : ∀ piece ∈ pieces, ∀ d ∈ piece, d ≠ c := by
    rintro piece hpiece d hd rfl
    exact h piece hpiece hd
  exact fun hmem => forall_mem_intercalate hbetween hpieces c hmem rfl

theorem lines_joinLines {pieces : List (List Char)} (hne : pieces ≠ [])
    (h : ∀ piece ∈ pieces, IsPlainLine piece) : lines (joinLines pieces) = pieces := by
  rw [lines, unifyBreaks_of_not_mem (not_mem_joinLines (by decide) fun piece hmem => (h piece hmem).2)]
  exact lineFeedPieces_joinLines hne fun piece hmem => (h piece hmem).1

theorem lines_append_lineFeed {cs : List Char} (h : cs.getLast? ≠ some '\r') (rest : List Char) :
    lines (cs ++ '\n' :: rest) = lines cs ++ lines rest := by
  rw [lines, unifyBreaks_append_lineFeed h, lineFeedPieces_append_lineFeed]
  rfl

/-! ## Numbered lines -/

theorem getElem?_sourceLines (source : String) (i : Nat) :
    (sourceLines source)[i]? =
      (lines source.toList)[i]?.map fun text => ⟨i + 1, String.ofList text⟩ := by
  rw [sourceLines, List.getElem?_map, List.getElem?_zipIdx, Option.map_map]
  simp [Function.comp_def]

theorem sourceLines_ne_nil (source : String) : sourceLines source ≠ [] := by
  simp [sourceLines, lines_ne_nil]

theorem map_number_sourceLines (source : String) :
    (sourceLines source).map SourceLine.number = List.range' 1 (lines source.toList).length := by
  have hnumbers : (sourceLines source).map SourceLine.number =
      ((lines source.toList).zipIdx.map Prod.snd).map (1 + ·) := by
    rw [sourceLines, List.map_map, List.map_map]
    exact List.map_congr_left fun _ _ => Nat.add_comm _ _
  rw [hnumbers, List.zipIdx_map_snd, List.map_add_range']

/-- The numbers of the lines increase. -/
theorem pairwise_sourceLines (source : String) :
    (sourceLines source).Pairwise fun a b => a.number < b.number := by
  rw [← List.pairwise_map (R := (· < ·)), map_number_sourceLines]
  exact List.pairwise_lt_range'

/-- No two lines have the same number. -/
theorem eq_of_number_eq {source : String} {a b : SourceLine} (ha : a ∈ sourceLines source)
    (hb : b ∈ sourceLines source) (h : a.number = b.number) : a = b := by
  refine List.inj_on_of_nodup_map ?_ ha hb h
  rw [map_number_sourceLines]
  exact List.nodup_range'

theorem isPlainLine_of_mem_sourceLines {source : String} {line : SourceLine}
    (h : line ∈ sourceLines source) : IsPlainLine line.text.toList := by
  rw [sourceLines, List.mem_map] at h
  obtain ⟨⟨text, i⟩, hmem, rfl⟩ := h
  rw [String.toList_ofList]
  exact isPlainLine_of_mem_lines (List.fst_mem_of_mem_zipIdx hmem)

/-- A text without line ends is one line. -/
theorem sourceLines_of_isPlainLine {line : List Char} (h : IsPlainLine line) :
    sourceLines (String.ofList line) = [⟨1, String.ofList line⟩] := by
  have hlines : lines line = [line] := by
    have hjoin := lines_joinLines (List.cons_ne_nil line []) (by simpa using h)
    rwa [joinLines, List.intercalate_singleton] at hjoin
  rw [sourceLines, String.toList_ofList, hlines]
  rfl

theorem length_sourceLines (source : String) :
    (sourceLines source).length = (lines source.toList).length := by
  rw [sourceLines, List.length_map, List.length_zipIdx]

/-- The line, a number of lines further down. -/
def SourceLine.shift (n : Nat) (line : SourceLine) : SourceLine :=
  { line with number := line.number + n }

/-- The lines of two texts with a line feed between them are those of the one and then those of the other.
A carriage return before the line feed would be part of the same line end. -/
theorem sourceLines_append {s₁ : String} (h : s₁.toList.getLast? ≠ some '\r') (s₂ : String) :
    sourceLines (s₁ ++ "\n" ++ s₂) =
      sourceLines s₁ ++ (sourceLines s₂).map (SourceLine.shift (sourceLines s₁).length) := by
  have hlines : lines (s₁ ++ "\n" ++ s₂).toList = lines s₁.toList ++ lines s₂.toList := by
    rw [String.toList_append, String.toList_append, List.append_assoc]
    exact lines_append_lineFeed h s₂.toList
  refine List.ext_getElem? fun i => ?_
  rw [getElem?_sourceLines, hlines]
  rcases Nat.lt_or_ge i (lines s₁.toList).length with hi | hi
  · rw [List.getElem?_append_left hi, List.getElem?_append_left (by rwa [length_sourceLines]),
      getElem?_sourceLines]
  · rw [List.getElem?_append_right hi, List.getElem?_append_right (by rwa [length_sourceLines]),
      List.getElem?_map, getElem?_sourceLines, Option.map_map, length_sourceLines]
    have hnumber : i + 1 = i - (lines s₁.toList).length + 1 + (lines s₁.toList).length := by omega
    simp only [Function.comp_def, SourceLine.shift, ← hnumber]

/-! ## What a cursor hands out -/

theorem LineCursor.length_rest_of_next? {cursor next : LineCursor} {line : SourceLine}
    (h : cursor.next? = some (line, next)) : next.rest.length < cursor.rest.length := by
  rw [next?] at h
  split at h
  · cases h
  · next hrest =>
    cases h
    simp [hrest]

/-- The lines that a cursor hands out until there are no more. -/
def LineCursor.drain (cursor : LineCursor) : List SourceLine :=
  match _h : cursor.next? with
  | none => []
  | some (line, next) => line :: next.drain
termination_by cursor.rest.length
decreasing_by exact length_rest_of_next? _h

theorem LineCursor.drain_eq (rest : List String) (position : Nat) :
    drain ⟨rest, position⟩ =
      (rest.zipIdx position).map fun (text, i) => ⟨i + 1, text⟩ := by
  induction rest generalizing position with
  | nil => rw [drain]; rfl
  | cons text rest ih =>
    rw [drain]
    simp only [next?]
    rw [ih]
    rfl

theorem LineCursor.drain_ofSource (source : String) :
    (ofSource source).drain = sourceLines source := by
  rw [ofSource, drain_eq, sourceLines, List.zipIdx_map, List.map_map]
  rfl

/-! ## Rewritten lines -/

/-- A source text with other texts for its lines. -/
def rewriteLines (change : SourceLine → List Char) (source : String) : String :=
  String.ofList (joinLines ((sourceLines source).map change))

theorem sourceLines_rewriteLines {change : SourceLine → List Char} {source : String}
    (h : ∀ line ∈ sourceLines source, IsPlainLine (change line)) :
    sourceLines (rewriteLines change source) =
      (sourceLines source).map fun line => ⟨line.number, String.ofList (change line)⟩ := by
  have hlines : lines (rewriteLines change source).toList = (sourceLines source).map change := by
    rw [rewriteLines, String.toList_ofList]
    refine lines_joinLines (by simp [sourceLines_ne_nil]) fun piece hmem => ?_
    obtain ⟨line, hline, rfl⟩ := List.mem_map.mp hmem
    exact h line hline
  refine List.ext_getElem? fun i => ?_
  rw [getElem?_sourceLines, hlines, List.getElem?_map, List.getElem?_map, Option.map_map]
  cases hline : (sourceLines source)[i]? with
  | none => rfl
  | some line =>
    rw [getElem?_sourceLines] at hline
    obtain ⟨text, -, rfl⟩ := Option.map_eq_some_iff.mp hline
    rfl

end Chronicle.Text
