import Chronicle.Proofs.Script.LineParts
import Chronicle.Proofs.Script.Outcome
import Chronicle.Proofs.Calendar.CanonicalText
import Chronicle.Proofs.Text.Lines

/-!
# Lines that declare an item

An `ItemLine` is a line of the standard dialect that is made of the parts of an item: a sigil, the canonical
texts of its dates in brackets, the content, a tag, a lane and a description.  Everything but the dates and the
content may be absent, and the content may be empty.

The parts say what keeps them apart.  Nothing in the content is a token of its own, so that only the tag and the
lane are taken off.  In front of the description there is neither its separator nor a link span.  And no part
has a line end in it.

Reading the line cuts it five times: behind the sigil, at the brackets, between the dates, in front of the
description, and between the content and the tokens.  Each cut falls where the line was put together, and so the
item is read back (`parse_chars`).
-/

namespace Chronicle.Script

open Chronicle.Calendar Chronicle.Text Chronicle.Timeline

/-- The parts of a line that declares an item. -/
structure ItemLine where
  start : Moment
  extent : Extent
  content : List Char
  tag : Option (List Char) := none
  label : Option (List Char) := none
  description : Option (List Char) := none
  start_readable : start.Readable
  stop_readable : ∀ stop ∈ extent.stop?, stop.Readable
  stop_not_before : ∀ stop ∈ extent.stop?, stop.isBefore start = false
  /-- No token is taken off the content, and no blank. -/
  content_unsplit : splitHead content = ⟨content, none, none⟩
  tag_formed : ∀ name ∈ tag, name ≠ [] ∧ ∀ c ∈ name, isTagChar c
  label_formed : ∀ text ∈ label, IsLabel text
  description_formed : ∀ text ∈ description, text ≠ [] ∧ IsTrimmed text
  content_plain : IsPlainLine content
  label_plain : ∀ text ∈ label, IsPlainLine text
  description_plain : ∀ text ∈ description, IsPlainLine text
  content_undivided : IsUndivided '|' content
  label_undivided : ∀ text ∈ label, IsUndivided '|' text

namespace ItemLine

variable (l : ItemLine)

/-! ## The text of the line -/

def sigil : Char :=
  match l.extent with
  | .event _ => '-'
  | .period _ => '@'
  | .point => '*'

/-- What stands in the brackets. -/
def dates : List Char :=
  l.start.isoChars ++
    match l.extent.stop? with
    | some stop => '~' :: stop.isoChars
    | none => []

/-- The tokens behind the content. -/
def tokens : List HeadToken := l.tag.toList.map .tag ++ l.label.toList.map .lane

/-- The description with its separator. -/
def described : List Char :=
  match l.description with
  | some text => ' ' :: '|' :: ' ' :: text
  | none => []

/-- What stands behind the brackets and the blank after them. -/
def tail : List Char := l.content ++ spaced l.tokens ++ l.described

def chars : List Char := l.sigil :: ' ' :: '[' :: (l.dates ++ ']' :: ' ' :: l.tail)

/-! ## The timeline of the line -/

/-- The item that the line declares. -/
def item : Item where
  id := 0
  content := String.ofList l.content
  start := l.start
  lane := l.label.map fun _ => 1
  color := l.tag.map String.ofList
  description := l.description.map String.ofList
  link := (l.description.bind firstLink?).map String.ofList
  sourceLine := 1
  extent := l.extent

/-- The lanes that the line declares. -/
def lanes : List Lane :=
  match l.label with
  | some text => [⟨1, String.ofList text⟩, ⟨0, " "⟩]
  | none => []

/-! ## Parts -/

variable {l}

theorem formed_of_mem_tokens {token : HeadToken} (h : token ∈ l.tokens) : token.Formed := by
  rcases List.mem_append.mp h with htag | hlane
  · obtain ⟨name, hname, rfl⟩ := List.mem_map.mp htag
    exact l.tag_formed name (Option.mem_toList.mp hname)
  · obtain ⟨text, htext, rfl⟩ := List.mem_map.mp hlane
    exact (l.label_formed text (Option.mem_toList.mp htext)).chars

theorem isContent : IsContent l.content :=
  isContent_of_splitHead (by rw [l.content_unsplit])

theorem not_mem_dates {c : Char} (hdigit : c.isDigit = false) (hmark : c ∉ ['-', 'T', ':', 'Z'])
    (hrange : c ≠ '~') : c ∉ l.dates := by
  rw [dates, List.mem_append, not_or]
  refine ⟨Moment.not_mem_isoChars hdigit hmark, ?_⟩
  split
  · rw [List.mem_cons, not_or]
    exact ⟨hrange, Moment.not_mem_isoChars hdigit hmark⟩
  · exact List.not_mem_nil

/-- A character that no token is made of is not in the tokens unless it is in the label. -/
theorem not_mem_spaced {c : Char} (htag : isTagChar c = false) (hmark : c ∉ [' ', '#', '\x7b', '\x7d'])
    (hlabel : ∀ text ∈ l.label, c ∉ text) : c ∉ spaced l.tokens := by
  simp only [List.mem_cons, List.not_mem_nil, or_false, not_or] at hmark
  obtain ⟨hblank, hhash, hopening, hclosing⟩ := hmark
  intro hmem
  obtain ⟨token, htoken, hc⟩ := List.mem_flatMap.mp hmem
  have hchars := (List.mem_cons.mp hc).resolve_left hblank
  rcases List.mem_append.mp htoken with hname | htext
  · obtain ⟨name, hof, rfl⟩ := List.mem_map.mp hname
    have hin := (List.mem_cons.mp hchars).resolve_left hhash
    rw [(l.tag_formed name (Option.mem_toList.mp hof)).2 c hin] at htag
    cases htag
  · obtain ⟨text, hof, rfl⟩ := List.mem_map.mp htext
    have hin := (List.mem_cons.mp hchars).resolve_left hopening
    rcases List.mem_append.mp hin with hin | hin
    · exact hlabel text (Option.mem_toList.mp hof) hin
    · exact hclosing (List.mem_singleton.mp hin)

theorem not_mem_chars {c : Char} (hc : c = '\n' ∨ c = '\r') (hcontent : c ∉ l.content)
    (hlabel : ∀ text ∈ l.label, c ∉ text) (hdescription : ∀ text ∈ l.description, c ∉ text) :
    c ∉ l.chars := by
  have hsigil : c ≠ l.sigil := by
    rcases hc with rfl | rfl <;> (rw [sigil]; split <;> decide)
  have hdates : c ∉ l.dates := by
    rcases hc with rfl | rfl <;> exact not_mem_dates (by decide) (by decide) (by decide)
  have htokens : c ∉ spaced l.tokens := by
    rcases hc with rfl | rfl <;> exact not_mem_spaced (by decide) (by decide) hlabel
  have hdescribed : c ∉ l.described := by
    rw [described]
    split
    · next text htext => rcases hc with rfl | rfl <;> simp [hdescription text htext]
    · exact List.not_mem_nil
  rcases hc with rfl | rfl <;> simp [chars, tail, hsigil, hdates, hcontent, htokens, hdescribed]

theorem isPlainLine_chars : IsPlainLine l.chars :=
  ⟨not_mem_chars (.inl rfl) l.content_plain.1 (fun text h => (l.label_plain text h).1)
      fun text h => (l.description_plain text h).1,
    not_mem_chars (.inr rfl) l.content_plain.2 (fun text h => (l.label_plain text h).2)
      fun text h => (l.description_plain text h).2⟩

/-! ## The line without the blanks around it -/

theorem endsSolid_tail : EndsSolid l.tail := by
  rw [tail]
  cases hdescription : l.description with
  | none =>
    have hdescribed : l.described = [] := by rw [described, hdescription]
    rw [hdescribed, List.append_nil]
    exact endsSolid_append_spaced (fun token => formed_of_mem_tokens) isContent.trimmed.stop
  | some text =>
    obtain ⟨hne, htrimmed⟩ := l.description_formed text hdescription
    have hdescribed : l.described = [' ', '|', ' '] ++ text := by rw [described, hdescription]; rfl
    rw [hdescribed, ← List.append_assoc]
    exact htrimmed.stop.append hne _

/-- A blank is taken off the end of the line when nothing stands behind the brackets. -/
theorem exists_trim_chars :
    ∃ gap, (∀ c ∈ gap, c = ' ') ∧
      trim l.chars = l.sigil :: ' ' :: '[' :: (l.dates ++ ']' :: (gap ++ l.tail)) := by
  have hsigil : StartsSolid (l.sigil :: ' ' :: '[' :: (l.dates ++ [']'])) := by
    rw [startsSolid_cons, sigil]
    split <;> decide
  have hbracket : EndsSolid (l.sigil :: ' ' :: '[' :: (l.dates ++ [']'])) := by
    have hlast : EndsSolid [']'] := by rintro c ⟨⟩; decide
    exact hlast.append (List.cons_ne_nil _ _) (l.sigil :: ' ' :: '[' :: l.dates)
  have hchars (rest : List Char) : l.sigil :: ' ' :: '[' :: (l.dates ++ ']' :: rest) =
      (l.sigil :: ' ' :: '[' :: (l.dates ++ [']'])) ++ rest := by simp
  by_cases htail : l.tail = []
  · refine ⟨[], by simp, ?_⟩
    rw [chars, htail, hchars, List.append_nil]
    exact @trim_append_append _ [] [' '] (by simp) isBlank_of_mem_space ⟨hsigil, hbracket⟩
  · refine ⟨[' '], by simp, trim_eq_self ⟨?_, ?_⟩⟩
    · rw [chars, hchars]
      exact hsigil.append (List.cons_ne_nil _ _) _
    · rw [chars, hchars]
      exact (endsSolid_tail.append htail [' ']).append (List.cons_ne_nil _ _) _

/-! ## Cuts -/

theorem classify_sigil (rest : List Char) :
    Dialect.standard.classify (l.sigil :: rest) = .entity (.item l.extent.kind) rest := by
  rw [sigil]
  cases l.extent <;> rfl

theorem readDate_isoChars {m : Moment} (h : m.Readable) : readDate m.isoChars = .ok m := by
  have hread : normalize (String.ofList m.isoChars) = .ok m := h.normalize_isoChars
  rw [readDate, hread]

theorem readDates_dates : readDates .standard l.dates = .ok (l.start, l.extent.stop?) := by
  have hstart : '~' ∉ l.start.isoChars := Moment.not_mem_isoChars (by decide) (by decide)
  have hread := readDate_isoChars l.start_readable
  rw [readDates, if_neg (by decide), dates]
  cases hstop : l.extent.stop? with
  | none =>
    have hcut : cutAt? Dialect.standard.rangeSeparator.toList l.start.isoChars = none :=
      cutAt?_of_not_mem hstart
    simp only [List.append_nil, hcut, hread]
    rfl
  | some stop =>
    have hcut : cutAt? Dialect.standard.rangeSeparator.toList
        (l.start.isoChars ++ '~' :: stop.isoChars) = some (l.start.isoChars, stop.isoChars) :=
      cutAt?_append hstart _
    have hordered : ¬stop.isBefore l.start = true := by simp [l.stop_not_before stop hstop]
    simp only [hcut, hread, readDate_isoChars (l.stop_readable stop hstop)]
    exact if_neg hordered

theorem passedOver_blanks {gap : List Char} (h : ∀ c ∈ gap, c = ' ') : PassedOver '|' gap := by
  refine passedOver_of_not_mem (fun hmem => ?_) fun hmem => ?_
  · exact absurd (h _ hmem) (by decide)
  · exact absurd (h _ hmem) (by decide)

theorem passedOver_token {token : HeadToken} (h : token ∈ l.tokens) :
    PassedOver '|' (' ' :: token.chars) := by
  have hformed := formed_of_mem_tokens h
  rcases List.mem_append.mp h with htag | hlane
  · obtain ⟨name, -, rfl⟩ := List.mem_map.mp htag
    have hname (c : Char) (hc : isTagChar c = false) : c ∉ name := fun hmem =>
      ne_of_isTagChar (hformed.2 c hmem) c hc rfl
    refine passedOver_of_not_mem ?_ ?_
    · simp [HeadToken.chars, hname '|' (by decide)]
    · simp [HeadToken.chars, hname '[' (by decide)]
  · obtain ⟨text, htext, rfl⟩ := List.mem_map.mp hlane
    have hundivided := l.label_undivided text (Option.mem_toList.mp htext)
    have hopening : PassedOver '|' [' ', '\x7b'] := passedOver_of_not_mem (by decide) (by decide)
    have hclosing : PassedOver '|' ['\x7d'] := passedOver_of_not_mem (by decide) (by decide)
    have hlabel := hundivided.passedOver.append hclosing fun _ => by decide
    exact hopening.append hlabel fun hlast => absurd hlast (by decide)

theorem head?_spaced_ne (tokens : List HeadToken) : (spaced tokens).head? ≠ some '[' := by
  cases tokens with
  | nil => simp [spaced]
  | cons token rest => simp [spaced]

theorem passedOver_spaced {tokens : List HeadToken} (h : ∀ token ∈ tokens, token ∈ l.tokens) :
    PassedOver '|' (spaced tokens) := by
  induction tokens with
  | nil => exact passedOver_blanks (by simp [spaced])
  | cons token rest ih =>
    obtain ⟨htoken, hrest⟩ := List.forall_mem_cons.mp h
    exact (passedOver_token htoken).append (ih hrest) fun _ => head?_spaced_ne rest

/-- There is one token of each sort at most, so their order does not matter. -/
theorem findSome?_tokens {order : List HeadToken} (h : order = l.tokens ∨ order = l.tokens.reverse) :
    order.findSome? HeadToken.tagName? = l.tag ∧ order.findSome? HeadToken.laneLabel? = l.label := by
  have hlane : ∀ text ∈ l.label, (HeadToken.lane text).laneLabel? = some text := fun text htext =>
    laneLabel?_eq_some_iff.mpr
      ⟨text, rfl, trim_eq_self (l.label_formed text htext).trimmed, (l.label_formed text htext).ne_nil⟩
  have htagName (name : List Char) : (HeadToken.tag name).tagName? = some name := rfl
  have htagLabel (name : List Char) : (HeadToken.tag name).laneLabel? = none := rfl
  have hlaneName (text : List Char) : (HeadToken.lane text).tagName? = none := rfl
  cases htag : l.tag with
  | none =>
    cases hlabel : l.label with
    | none => rcases h with rfl | rfl <;> simp [tokens, htag, hlabel]
    | some text => rcases h with rfl | rfl <;> simp [tokens, htag, hlabel, hlaneName, hlane text hlabel]
  | some name =>
    cases hlabel : l.label with
    | none => rcases h with rfl | rfl <;> simp [tokens, htag, hlabel, htagName, htagLabel]
    | some text =>
      rcases h with rfl | rfl <;>
        simp [tokens, htag, hlabel, htagName, htagLabel, hlaneName, hlane text hlabel]

/-- The text in front of the description. -/
def head (gap more : List Char) : List Char := gap ++ (l.content ++ spaced l.tokens ++ more)

/-- What the line declares, before it has a number. -/
def draft (l : ItemLine) : Draft where
  content := String.ofList l.content
  start := l.start
  lane := l.label.map String.ofList
  color := l.tag.map String.ofList
  description := l.description.map String.ofList
  link := (l.description.bind firstLink?).map String.ofList
  extent := l.extent

section
variable {gap more : List Char} (hgap : ∀ c ∈ gap, c = ' ') (hmore : ∀ c ∈ more, c = ' ')
include hgap hmore

theorem passedOver_head : PassedOver '|' (l.head gap more) := by
  have hcontent := l.content_undivided.passedOver
  have htokens : PassedOver '|' (spaced l.tokens) := passedOver_spaced fun _ => id
  have hbefore : gap.getLast? ≠ some '[' := fun hlast =>
    absurd (hgap _ (List.mem_of_getLast? hlast)) (by decide)
  have hbehind : more.head? ≠ some '[' := fun hfirst =>
    absurd (hmore _ (List.mem_of_mem_head? hfirst)) (by decide)
  have hall := (hcontent.append htokens fun _ => head?_spaced_ne l.tokens).append
    (passedOver_blanks hmore) fun _ => hbehind
  exact (passedOver_blanks hgap).append hall fun hlast => absurd hlast hbefore

theorem splitHead_head : splitHead (l.head gap more) = ⟨l.content, l.tag, l.label⟩ := by
  have hblank {cs : List Char} (h : ∀ c ∈ cs, c = ' ') : ∀ c ∈ cs, isBlank c := fun c hc =>
    isBlank_of_mem_space c (List.mem_singleton.mpr (h c hc))
  have horder : readingOrder l.content l.tokens = l.tokens ∨
      readingOrder l.content l.tokens = l.tokens.reverse := by
    rw [readingOrder]
    split
    · exact .inl rfl
    · exact .inr rfl
  obtain ⟨htag, hlabel⟩ := findSome?_tokens horder
  rw [head, splitHead_spaced isContent (fun token => formed_of_mem_tokens) (hblank hgap) (hblank hmore), htag,
    hlabel]

theorem draftItem_head :
    draftItem l.start l.extent (l.head gap more) (l.description.map (' ' :: ·)) = l.draft := by
  simp only [draftItem, splitHead_head hgap hmore, draft]
  cases hdescription : l.description with
  | none => rfl
  | some text =>
    obtain ⟨hne, htrimmed⟩ := l.description_formed text hdescription
    have htrim : trim (' ' :: text) = text := trim_append isBlank_of_mem_space htrimmed
    simp [htrim, nonempty?, hne]

end

theorem exists_splitDescription_tail {gap : List Char} (hgap : ∀ c ∈ gap, c = ' ') :
    ∃ more, (∀ c ∈ more, c = ' ') ∧
      splitDescription ['|'] (gap ++ l.tail) = (l.head gap more, l.description.map (' ' :: ·)) := by
  cases hdescription : l.description with
  | none =>
    have htail : gap ++ l.tail = l.head gap [] := by rw [tail, described, hdescription, head]
    refine ⟨[], by simp, ?_⟩
    rw [htail]
    exact splitDescription_of_passedOver (passedOver_head hgap (by simp))
  | some text =>
    have htail : gap ++ l.tail = l.head gap [' '] ++ '|' :: ' ' :: text := by
      simp [tail, described, hdescription, head]
    refine ⟨[' '], by simp, ?_⟩
    rw [htail]
    exact splitDescription_append (passedOver_head hgap (by simp)) (by decide) _

/-! ## The item -/

theorem buildEntity_extent (extent : Extent) (start : Moment) (head : List Char)
    (description : Option (List Char)) :
    buildEntity (.item extent.kind) start extent.stop? head description =
      .ok (.item (draftItem start extent head description)) := by
  cases extent <;> rfl

theorem readEntity_tail {gap : List Char} (hgap : ∀ c ∈ gap, c = ' ') (line : List Char) :
    readEntity .standard (.item l.extent.kind) (' ' :: '[' :: (l.dates ++ ']' :: (gap ++ l.tail))) line =
      .ok (.item l.draft) := by
  have hdates : ']' ∉ l.dates := not_mem_dates (by decide) (by decide) (by decide)
  have hbracketed : Bracketed (' ' :: '[' :: (l.dates ++ ']' :: (gap ++ l.tail))) l.dates (gap ++ l.tail) :=
    ⟨hdates, [' '], isBlank_of_mem_space, rfl⟩
  obtain ⟨more, hmore, hsplit⟩ := @exists_splitDescription_tail l gap hgap
  have hsplit' : splitDescription Dialect.standard.descriptionSeparator.toList (gap ++ l.tail) =
      (l.head gap more, l.description.map (' ' :: ·)) :=
    hsplit
  rw [readEntity, bracket?_eq_some_iff.mpr hbracketed]
  simp only [readDates_dates, hsplit']
  refine (buildEntity_extent l.extent l.start _ _).trans ?_
  rw [draftItem_head hgap hmore]

theorem readLine_chars : readLine .standard l.chars = .ok (.entity (.item l.draft)) := by
  obtain ⟨gap, hgap, htrim⟩ := @exists_trim_chars l
  rw [readLine]
  simp only [htrim, classify_sigil, readEntity_tail hgap]
  rfl

theorem report_addItem (l : ItemLine) (locale : String) (options : Options) :
    (({} : Progress).addItem 1 l.draft).report locale options =
      ⟨{ items := [l.item], lanes := l.lanes, locale := chosenLocale locale, options }, []⟩ := by
  have hlane : l.draft.lane = l.label.map String.ofList := rfl
  cases hlabel : l.label with
  | none =>
    rw [hlabel, Option.map_none] at hlane
    have hitem : l.item = l.draft.toItem [] 0 1 := by simp [item, draft, Draft.toItem, hlabel]
    have hlanes : l.lanes = [] := by rw [lanes, hlabel]
    rw [Progress.addItem, hlane, hitem, hlanes]
    rfl
  | some text =>
    rw [hlabel, Option.map_some] at hlane
    have hitem : l.item = l.draft.toItem [String.ofList text] 0 1 := by
      simp [item, draft, Draft.toItem, laneNumber, hlabel]
    have hlanes : l.lanes = [⟨1, String.ofList text⟩, ⟨0, " "⟩] := by rw [lanes, hlabel]
    have hsome : (l.draft.toItem [String.ofList text] 0 1).onSomeLane =
        l.draft.toItem [String.ofList text] 0 1 := by
      simp [Item.onSomeLane, Draft.toItem, hlane]
    rw [Progress.addItem, hlane, hitem, hlanes, ← hsome]
    rfl

/-- A line that declares an item is read as it was put together. -/
theorem parse_chars (l : ItemLine) (locale : String) (options : Options) :
    parse .standard (String.ofList l.chars) locale options =
      .ok { items := [l.item], lanes := l.lanes, locale := chosenLocale locale, options } := by
  have hrun : readLines .standard {} (sourceLines (String.ofList l.chars)) =
      .ok (({} : Progress).addItem 1 l.draft) := by
    rw [sourceLines_of_isPlainLine isPlainLine_chars]
    simp only [readLines, Progress.step, String.toList_ofList, readLine_chars, Progress.apply]
  have hdeclared : (({} : Progress).addItem 1 l.draft).LanesDeclared :=
    Progress.lanesDeclared_addItem (fun _ hitem => absurd hitem List.not_mem_nil) 1 l.draft
  rw [parse_eq_ok_iff, compile, hrun]
  exact (Progress.finish_eq hdeclared).trans (congrArg Except.ok (l.report_addItem locale options))

/-- A range with stray marks in its content, and with a separator and a link in its description. -/
def bastille : ItemLine where
  start := { year := 1789, month := 7, day := 14 }
  extent := .event (some { year := 1789, month := 7, day := 17, hour := 12 })
  content := "Fall of \x7bthe # Bastille ~ [".toList
  tag := some "blue-white-red".toList
  label := some "Île de France".toList
  description := some "See [[Bastille|the fortress]] | https://example.com/a".toList
  start_readable := ⟨by decide, by decide⟩
  stop_readable := by
    rintro _ ⟨⟩
    exact ⟨by decide, by decide⟩
  stop_not_before := by
    rintro _ ⟨⟩
    decide
  content_unsplit := by decide +kernel
  tag_formed := by
    rintro _ ⟨⟩
    exact ⟨by decide, List.all_eq_true.mp (by decide +kernel)⟩
  label_formed := by
    rintro _ ⟨⟩
    exact ⟨by decide, ⟨by decide, by decide⟩, List.all_eq_true.mp (by decide)⟩
  description_formed := by
    rintro _ ⟨⟩
    exact ⟨by decide, ⟨by decide, by decide⟩⟩
  content_plain := ⟨by decide, by decide⟩
  label_plain := by
    rintro _ ⟨⟩
    exact ⟨by decide, by decide⟩
  description_plain := by
    rintro _ ⟨⟩
    exact ⟨by decide, by decide⟩
  content_undivided := ⟨by decide, by decide⟩
  label_undivided := by
    rintro _ ⟨⟩
    exact ⟨by decide, by decide⟩

theorem parse_chars_bastille :
    parse .standard
        ("- [1789-07-14T00:00:00Z~1789-07-17T12:00:00Z] Fall of \x7bthe # Bastille ~ [ #blue-white-red" ++
          " \x7bÎle de France\x7d | See [[Bastille|the fortress]] | https://example.com/a") =
      .ok
        { items :=
            [{ id := 0
               content := "Fall of \x7bthe # Bastille ~ ["
               start := { year := 1789, month := 7, day := 14 }
               lane := some 1
               color := some "blue-white-red"
               description := some "See [[Bastille|the fortress]] | https://example.com/a"
               link := some "[[Bastille|the fortress]]"
               sourceLine := 1
               extent := .event (some { year := 1789, month := 7, day := 17, hour := 12 }) }]
          lanes := [⟨1, "Île de France"⟩, ⟨0, " "⟩] } := by
  have htext : String.ofList bastille.chars =
      "- [1789-07-14T00:00:00Z~1789-07-17T12:00:00Z] Fall of \x7bthe # Bastille ~ [ #blue-white-red" ++
        " \x7bÎle de France\x7d | See [[Bastille|the fortress]] | https://example.com/a" := by
    decide +kernel
  have hparse := parse_chars bastille "en" {}
  rw [htext] at hparse
  exact hparse.trans (by decide +kernel)

end ItemLine

end Chronicle.Script
