import Chronicle.Data.JsonText
import Chronicle.Proofs.Text.Decimal
import Chronicle.Text.Cut

/-!
# JSON text read back

The text of a value says what the value is: `Json.read?` reads JSON without knowing how it is laid out, and from the
text of a value it gets this value (`Json.read?_jsonText`).  So different values have different texts.

*Reader.*  A value starts with a mark, a digit or a letter, and its first character tells which sort it is.  Blanks may
stand between any two parts.  A string may hold any character but controls, and escapes of all sorts.  The reader goes
down one level at a time, and `fuel` bounds how often.  A text is long enough to be its own bound.

*Reading back.*  A number goes on as long as digits follow, so what stands behind a value must not go on with it
(`EndsNumber`).  Every value is followed by a comma or a line end.  The induction is on the fuel, for values, elements
and fields at once, and what is written is shorter than the fuel that is left for it.
-/

namespace Chronicle.Data.Json

open Chronicle.Text

/-! ## A reader of JSON -/

def isJsonBlank (c : Char) : Bool := c = ' ' || c = '\t' || c = '\n' || c = '\r'

def skipBlanks (cs : List Char) : List Char := cs.dropWhile isJsonBlank

/-- The value of a hexadecimal digit. -/
def hexDigit? (c : Char) : Option Nat :=
  if c.isDigit then some (c.toNat - '0'.toNat)
  else if 'a' ≤ c ∧ c ≤ 'f' then some (c.toNat - 'a'.toNat + 10)
  else if 'A' ≤ c ∧ c ≤ 'F' then some (c.toNat - 'A'.toNat + 10)
  else none

/-- The character whose code these hexadecimal digits write. -/
def hexChar? (cs : List Char) : Option Char := do
  let code ← cs.foldlM (fun code c => (hexDigit? c).map (16 * code + ·)) 0
  if code.isValidChar then return Char.ofNat code else none

/-- The character that a letter or a mark stands for behind a backslash. -/
def namedEscape? (c : Char) : Option Char :=
  match c with
  | '\x22' | '\\' | '/' => some c
  | 'b' => some '\x08'
  | 'f' => some '\x0c'
  | 'n' => some '\n'
  | 'r' => some '\r'
  | 't' => some '\t'
  | _ => none

/-- Reads the rest of a string behind its opening quote, and what follows it. -/
def readString : List Char → Option (List Char × List Char)
  | '\x22' :: rest => some ([], rest)
  | '\\' :: 'u' :: c₁ :: c₂ :: c₃ :: c₄ :: rest => do
    let c ← hexChar? [c₁, c₂, c₃, c₄]
    let (cs, rest) ← readString rest
    return (c :: cs, rest)
  | '\\' :: letter :: rest => do
    let c ← namedEscape? letter
    let (cs, rest) ← readString rest
    return (c :: cs, rest)
  | c :: rest => do
    if c.toNat < 0x20 then none
    else
      let (cs, rest) ← readString rest
      return (c :: cs, rest)
  | [] => none

/-- Reads a number without a sign, whose digits may go on behind a point. -/
def readMagnitude (sign : Int) (cs : List Char) : Option (Value × List Char) :=
  let digits := cs.takeWhile Char.isDigit
  if digits = [] then none
  else
    match cs.dropWhile Char.isDigit with
    | '.' :: rest =>
      let places := rest.takeWhile Char.isDigit
      some (.decimal (sign * digitsValue (digits ++ places)) places.length, rest.dropWhile Char.isDigit)
    | rest => some (.int (sign * digitsValue digits), rest)

def readNumber : List Char → Option (Value × List Char)
  | '-' :: rest => readMagnitude (-1) rest
  | cs => readMagnitude 1 cs

def readWord : List Char → Option (Value × List Char)
  | 'n' :: 'u' :: 'l' :: 'l' :: rest => some (.null, rest)
  | 't' :: 'r' :: 'u' :: 'e' :: rest => some (.bool true, rest)
  | 'f' :: 'a' :: 'l' :: 's' :: 'e' :: rest => some (.bool false, rest)
  | _ => none

mutual

/-- Reads a value, and what follows it. -/
def readValue : (fuel : Nat) → List Char → Option (Value × List Char)
  | 0, _ => none
  | fuel + 1, cs =>
    match skipBlanks cs with
    | [] => none
    | c :: rest =>
      if c = '\x22' then do
        let (s, rest) ← readString rest
        return (.text (String.ofList s), rest)
      else if c = '[' then
        match skipBlanks rest with
        | ']' :: rest => some (.list [], rest)
        | _ => do
          let (values, rest) ← readElements fuel rest
          return (.list values, rest)
      else if c = '\x7b' then
        match skipBlanks rest with
        | '\x7d' :: rest => some (.record [], rest)
        | _ => do
          let (fields, rest) ← readFields fuel rest
          return (.record fields, rest)
      else if c = '-' || c.isDigit then readNumber (c :: rest)
      else readWord (c :: rest)

/-- Reads the elements of a list that has some, up to its end. -/
def readElements : (fuel : Nat) → List Char → Option (List Value × List Char)
  | 0, _ => none
  | fuel + 1, cs => do
    let (value, rest) ← readValue fuel cs
    match skipBlanks rest with
    | ',' :: rest =>
      let (values, rest) ← readElements fuel rest
      return (value :: values, rest)
    | ']' :: rest => return ([value], rest)
    | _ => none

/-- Reads the fields of a record that has some, up to its end. -/
def readFields : (fuel : Nat) → List Char → Option (List (String × Value) × List Char)
  | 0, _ => none
  | fuel + 1, cs => do
    let '\x22' :: rest := skipBlanks cs | none
    let (name, rest) ← readString rest
    let ':' :: rest := skipBlanks rest | none
    let (value, rest) ← readValue fuel rest
    match skipBlanks rest with
    | ',' :: rest =>
      let (fields, rest) ← readFields fuel rest
      return ((String.ofList name, value) :: fields, rest)
    | '\x7d' :: rest => return ([(String.ofList name, value)], rest)
    | _ => none

end

/-- The value that a text writes in JSON. -/
def read? (text : String) : Option Value := do
  let (value, rest) ← readValue (text.toList.length + 1) text.toList
  if skipBlanks rest = [] then return value else none

/-! ## Blanks -/

theorem skipBlanks_newLine_append (level : Nat) (cs : List Char) :
    skipBlanks (newLine level ++ cs) = skipBlanks cs := by
  refine List.dropWhile_append_of_pos fun c hc => ?_
  rcases List.mem_cons.mp hc with rfl | hc
  · rfl
  · rw [List.eq_of_mem_replicate hc]
    rfl

theorem skipBlanks_cons {c : Char} (h : isJsonBlank c = false) (cs : List Char) : skipBlanks (c :: cs) = c :: cs := by
  rw [skipBlanks, List.dropWhile_cons, h]
  rfl

/-! ## Strings -/

theorem exists_hexDigits {code : Nat} (h : code < 0x20) :
    ∃ c₁ c₂ c₃ c₄, hexDigits 4 code = [c₁, c₂, c₃, c₄] ∧ hexChar? [c₁, c₂, c₃, c₄] = some (Char.ofNat code) := by
  have hcodes : ∀ code < 0x20, hexChar? (hexDigits 4 code) = some (Char.ofNat code) := by decide +kernel
  exact ⟨_, _, _, _, rfl, hcodes code h⟩

theorem readString_cons {c : Char} (hquote : c ≠ '\x22') (hbackslash : c ≠ '\\') (hcontrol : ¬c.toNat < 0x20)
    (rest : List Char) : readString (c :: rest) = do
      let (cs, after) ← readString rest
      return (c :: cs, after) := by
  rw [readString]
  · rw [if_neg hcontrol]
  all_goals simp_all

theorem readString_jsonEscape (c : Char) (rest : List Char) :
    readString (jsonEscape c ++ rest) = do
      let (cs, after) ← readString rest
      return (c :: cs, after) := by
  unfold jsonEscape
  split_ifs with hquote hbackslash hb hf hn hr ht hcontrol
  rotate_left 7
  · obtain ⟨c₁, c₂, c₃, c₄, hdigits, hchar⟩ := exists_hexDigits hcontrol
    rw [hdigits]
    change (hexChar? [c₁, c₂, c₃, c₄]).bind _ = _
    rw [hchar, Char.ofNat_toNat]
    rfl
  · exact readString_cons hquote hbackslash hcontrol rest
  -- The characters that have an escape of their own.
  all_goals
    subst c
    rfl

theorem readString_flatMap (cs rest : List Char) :
    readString (cs.flatMap jsonEscape ++ '\x22' :: rest) = some (cs, rest) := by
  induction cs with
  | nil => rfl
  | cons c cs ih =>
    rw [List.flatMap_cons, List.append_assoc, readString_jsonEscape, ih]
    rfl

/-! ## Numbers -/

/-- What can stand behind a number: it starts with no digit and with no point. -/
def EndsNumber (rest : List Char) : Prop := ∀ c ∈ rest.head?, c.isDigit = false ∧ c ≠ '.'

section
variable {digits places rest : List Char}

theorem readMagnitude_digits (sign : Int) (hne : digits ≠ []) (hdigits : ∀ c ∈ digits, c.isDigit = true)
    (hrest : EndsNumber rest) :
    readMagnitude sign (digits ++ rest) = some (.int (sign * digitsValue digits), rest) := by
  obtain ⟨htake, hdrop⟩ := span_append hdigits fun c hc => (hrest c hc).1
  simp only [readMagnitude, htake, hdrop, if_neg hne]
  split
  · exact absurd rfl (hrest '.' rfl).2
  · rfl

theorem readMagnitude_point (sign : Int) (hne : digits ≠ []) (hdigits : ∀ c ∈ digits, c.isDigit = true)
    (hplaces : ∀ c ∈ places, c.isDigit = true) (hrest : EndsNumber rest) :
    readMagnitude sign (digits ++ '.' :: (places ++ rest)) =
      some (.decimal (sign * digitsValue (digits ++ places)) places.length, rest) := by
  obtain ⟨htake, hdrop⟩ := span_append_cons '.' hdigits rfl (places ++ rest)
  obtain ⟨htake', hdrop'⟩ := span_append hplaces fun c hc => (hrest c hc).1
  simp only [readMagnitude, htake, hdrop, if_neg hne, htake', hdrop']

theorem readNumber_signed (n : Int) (hne : digits ≠ []) (hdigits : ∀ c ∈ digits, c.isDigit = true) :
    readNumber ((if n < 0 then ['-'] else []) ++ (digits ++ rest)) =
      readMagnitude (if n < 0 then -1 else 1) (digits ++ rest) := by
  split
  · rfl
  · obtain ⟨c, tail, rfl⟩ := List.exists_cons_of_ne_nil hne
    have hdigit := hdigits c (.head _)
    rw [List.nil_append, List.cons_append, readNumber]
    rintro _ ⟨⟩
    cases hdigit

end

theorem sign_mul_natAbs (n : Int) : (if n < 0 then -1 else 1) * (n.natAbs : Int) = n := by
  split <;> omega

theorem natText_ne_nil (n : Nat) : natText n ≠ [] := List.ne_nil_of_length_pos Nat.length_toDigits_pos

variable {rest : List Char}

theorem intText_eq (n : Int) : intText n = (if n < 0 then ['-'] else []) ++ natText n.natAbs := by
  rw [intText]
  split <;> rfl

theorem readNumber_intText (n : Int) (hrest : EndsNumber rest) :
    readNumber (intText n ++ rest) = some (.int n, rest) := by
  have hdigits : ∀ c ∈ natText n.natAbs, c.isDigit = true := fun c hc => isDigit_of_mem_natText hc
  rw [intText_eq, List.append_assoc, readNumber_signed n (natText_ne_nil _) hdigits,
    readMagnitude_digits _ (natText_ne_nil _) hdigits hrest, digitsValue_natText, sign_mul_natAbs]

/-- The digits in front of the point and behind it. -/
theorem exists_jsonDecimal (mantissa : Int) (places : Nat) :
    ∃ front back, jsonDecimal mantissa places = (if mantissa < 0 then ['-'] else []) ++ (front ++ '.' :: back) ∧
      front ≠ [] ∧ (∀ c ∈ front, c.isDigit = true) ∧ (∀ c ∈ back, c.isDigit = true) ∧ back.length = places ∧
      digitsValue (front ++ back) = mantissa.natAbs := by
  have hlength : places + 1 ≤ (paddedNat (places + 1) mantissa.natAbs).length := by
    rw [length_paddedNat]
    exact Nat.le_max_left ..
  have hdigits : ∀ c ∈ paddedNat (places + 1) mantissa.natAbs, c.isDigit = true := fun c hc =>
    isDigit_of_mem_paddedNat hc
  have hvalue := digitsValue_paddedNat (places + 1) mantissa.natAbs
  rw [jsonDecimal]
  generalize paddedNat (places + 1) mantissa.natAbs = digits at hlength hdigits hvalue
  refine ⟨digits.take (digits.length - places), digits.drop (digits.length - places), List.append_assoc .., ?_,
    fun c hc => hdigits c (List.mem_of_mem_take hc), fun c hc => hdigits c (List.mem_of_mem_drop hc), ?_, ?_⟩
  · exact List.ne_nil_of_length_pos (by rw [List.length_take]; omega)
  · rw [List.length_drop]
    omega
  · rw [List.take_append_drop, hvalue]

theorem readNumber_jsonDecimal (mantissa : Int) (places : Nat) (hrest : EndsNumber rest) :
    readNumber (jsonDecimal mantissa places ++ rest) = some (.decimal mantissa places, rest) := by
  obtain ⟨front, back, htext, hne, hfront, hback, hplaces, hvalue⟩ := exists_jsonDecimal mantissa places
  rw [htext, List.append_assoc, List.append_assoc, List.cons_append, readNumber_signed mantissa hne hfront,
    readMagnitude_point _ hne hfront hback hrest, hvalue, sign_mul_natAbs, hplaces]

/-- A character that numbers start with. -/
def StartsNumber (c : Char) : Prop := c = '-' ∨ c.isDigit = true

theorem exists_cons_signed (n : Int) {digits : List Char} (hne : digits ≠ [])
    (hdigits : ∀ c ∈ digits, c.isDigit = true) :
    ∃ c tail, (if n < 0 then ['-'] else []) ++ digits = c :: tail ∧ StartsNumber c := by
  split
  · exact ⟨'-', digits, rfl, .inl rfl⟩
  · obtain ⟨c, tail, rfl⟩ := List.exists_cons_of_ne_nil hne
    exact ⟨c, tail, rfl, .inr (hdigits c (.head _))⟩

theorem exists_cons_intText (n : Int) : ∃ c tail, intText n = c :: tail ∧ StartsNumber c := by
  rw [intText_eq]
  exact exists_cons_signed n (natText_ne_nil _) fun c hc => isDigit_of_mem_natText hc

theorem exists_cons_jsonDecimal (mantissa : Int) (places : Nat) :
    ∃ c tail, jsonDecimal mantissa places = c :: tail ∧ StartsNumber c := by
  obtain ⟨front, back, htext, hne, hfront, -⟩ := exists_jsonDecimal mantissa places
  obtain ⟨c, tail, hstart, hc⟩ := exists_cons_signed mantissa hne hfront
  refine ⟨c, tail ++ '.' :: back, ?_, hc⟩
  rw [htext, ← List.append_assoc, hstart, List.cons_append]

theorem StartsNumber.ne {c : Char} (h : StartsNumber c) :
    isJsonBlank c = false ∧ c ≠ '\x22' ∧ c ≠ '[' ∧ c ≠ '\x7b' ∧ c ≠ ']' := by
  rcases h with rfl | hdigit
  · decide
  · have hne {mark : Char} (hmark : mark.isDigit = false) : c ≠ mark := by
      rintro rfl
      rw [hdigit] at hmark
      cases hmark
    refine ⟨?_, hne rfl, hne rfl, hne rfl, hne rfl⟩
    simp [isJsonBlank, hne]

/-! ## Values -/

/-- The text of a value starts with no blank, and not as a list ends. -/
theorem exists_cons_jsonChars (value : Value) (level : Nat) :
    ∃ c tail, value.jsonChars level = c :: tail ∧ isJsonBlank c = false ∧ c ≠ ']' := by
  match value with
  | .null | .bool true | .bool false | .text s => exact ⟨_, _, rfl, by decide⟩
  | .list [] | .list (_ :: _) | .record [] | .record ((_, _) :: _) => exact ⟨_, _, rfl, by decide⟩
  | .int n =>
    obtain ⟨c, tail, htext, hc⟩ := exists_cons_intText n
    exact ⟨c, tail, htext, hc.ne.1, hc.ne.2.2.2.2⟩
  | .decimal mantissa places =>
    obtain ⟨c, tail, htext, hc⟩ := exists_cons_jsonDecimal mantissa places
    exact ⟨c, tail, htext, hc.ne.1, hc.ne.2.2.2.2⟩

/-- What starts as a number is read as one. -/
theorem readValue_of_readNumber {number : List Char} {value : Value}
    (hstart : ∃ c tail, number = c :: tail ∧ StartsNumber c)
    (h : readNumber (number ++ rest) = some (value, rest)) (fuel : Nat) :
    readValue (fuel + 1) (number ++ rest) = some (value, rest) := by
  obtain ⟨c, tail, rfl, hc⟩ := hstart
  obtain ⟨hblank, hquote, hlist, hrecord, -⟩ := hc.ne
  have hnumber : (c = '-' || c.isDigit) = true := by simpa [StartsNumber] using hc
  rw [List.cons_append] at h ⊢
  rw [readValue, skipBlanks_cons hblank]
  simp only [hquote, hlist, hrecord, hnumber, if_true, if_false]
  exact h

theorem readValue_newLine_append (level fuel : Nat) (cs : List Char) :
    readValue fuel (newLine level ++ cs) = readValue fuel cs := by
  cases fuel with
  | zero => rfl
  | succ fuel => rw [readValue, readValue, skipBlanks_newLine_append]

theorem readValue_space (fuel : Nat) (cs : List Char) : readValue fuel (' ' :: cs) = readValue fuel cs := by
  cases fuel with
  | zero => rfl
  | succ fuel => rfl

theorem jsonString_append (s : String) (rest : List Char) :
    jsonString s ++ rest = '\x22' :: (s.toList.flatMap jsonEscape ++ '\x22' :: rest) := by simp [jsonString]

theorem endsNumber_newLine_append (level : Nat) (cs : List Char) : EndsNumber (newLine level ++ cs) := by
  rintro c ⟨⟩
  decide

theorem endsNumber_comma (cs : List Char) : EndsNumber (',' :: cs) := by
  rintro c ⟨⟩
  decide

/-! ## Steps of the reader -/

section
variable {fuel : Nat} {cs after more : List Char} {value : Value} {values : List Value}
  {fields : List (String × Value)} {rest : List Char}

theorem readValue_string {s : String} (h : readString cs = some (s.toList, rest)) :
    readValue (fuel + 1) ('\x22' :: cs) = some (.text s, rest) := by
  change (do let (s, rest) ← readString cs; return (Value.text (String.ofList s), rest)) = _
  rw [h]
  simp

theorem readValue_list {c : Char} (hstart : skipBlanks cs = c :: more) (hc : c ≠ ']')
    (h : readElements fuel cs = some (values, rest)) :
    readValue (fuel + 1) ('[' :: cs) = some (.list values, rest) := by
  rw [readValue, skipBlanks_cons (by decide)]
  dsimp only
  rw [if_neg (by decide), if_pos rfl, hstart]
  split
  · next heq => exact absurd (List.cons.inj heq).1 hc
  · rw [h]
    rfl

theorem readValue_record {c : Char} (hstart : skipBlanks cs = c :: more) (hc : c ≠ '\x7d')
    (h : readFields fuel cs = some (fields, rest)) :
    readValue (fuel + 1) ('\x7b' :: cs) = some (.record fields, rest) := by
  rw [readValue, skipBlanks_cons (by decide)]
  dsimp only
  rw [if_neg (by decide), if_neg (by decide), if_pos rfl, hstart]
  split
  · next heq => exact absurd (List.cons.inj heq).1 hc
  · rw [h]
    rfl

theorem readElements_last (hvalue : readValue fuel cs = some (value, after)) (hend : skipBlanks after = ']' :: rest) :
    readElements (fuel + 1) cs = some ([value], rest) := by
  simp only [readElements, hvalue, Option.bind_eq_bind, Option.bind_some, hend]
  rfl

theorem readElements_comma (hvalue : readValue fuel cs = some (value, after)) (hcomma : skipBlanks after = ',' :: more)
    (hmore : readElements fuel more = some (values, rest)) :
    readElements (fuel + 1) cs = some (value :: values, rest) := by
  simp only [readElements, hvalue, Option.bind_eq_bind, Option.bind_some, hcomma, hmore]
  rfl

/-- The name of a field stands in front of its value. -/
inductive StartsField (cs : List Char) (name : String) (after : List Char) : Prop
  | intro {quoted colon : List Char} (hquote : skipBlanks cs = '\x22' :: quoted)
      (hstring : readString quoted = some (name.toList, colon)) (hcolon : skipBlanks colon = ':' :: after)

theorem readFields_last {name : String} {cs' : List Char} (hname : StartsField cs name cs')
    (hvalue : readValue fuel cs' = some (value, after)) (hend : skipBlanks after = '\x7d' :: rest) :
    readFields (fuel + 1) cs = some ([(name, value)], rest) := by
  obtain ⟨hquote, hstring, hcolon⟩ := hname
  simp only [readFields, hquote, hstring, hcolon, hvalue, Option.bind_eq_bind, Option.bind_some, hend,
    String.ofList_toList]
  rfl

theorem readFields_comma {name : String} {cs' : List Char} (hname : StartsField cs name cs')
    (hvalue : readValue fuel cs' = some (value, after)) (hcomma : skipBlanks after = ',' :: more)
    (hmore : readFields fuel more = some (fields, rest)) :
    readFields (fuel + 1) cs = some ((name, value) :: fields, rest) := by
  obtain ⟨hquote, hstring, hcolon⟩ := hname
  simp only [readFields, hquote, hstring, hcolon, hvalue, Option.bind_eq_bind, Option.bind_some, hcomma, hmore,
    String.ofList_toList]
  rfl

end

/-! ## Reading back -/

theorem startsField_newLine (level : Nat) (name : String) (value rest : List Char) :
    StartsField (newLine level ++ ((jsonString name ++ ':' :: ' ' :: value) ++ rest)) name
      (' ' :: (value ++ rest)) := by
  rw [List.append_assoc, jsonString_append]
  refine .intro ((skipBlanks_newLine_append level _).trans (skipBlanks_cons (by decide) _))
    (readString_flatMap name.toList _) ?_
  exact skipBlanks_cons (by decide) _

/-- The parts of a list or a record, on lines of their own. -/
def jsonLines (level : Nat) (parts : List (List Char)) : List Char :=
  newLine level ++ List.intercalate (',' :: newLine level) parts

theorem jsonLines_singleton (level : Nat) (part : List Char) : jsonLines level [part] = newLine level ++ part := by
  rw [jsonLines, List.intercalate_singleton]

theorem jsonLines_cons (level : Nat) (part next : List Char) (parts : List (List Char)) :
    jsonLines level (part :: next :: parts) = newLine level ++ (part ++ ',' :: jsonLines level (next :: parts)) := by
  rw [jsonLines, List.intercalate_cons_cons, List.append_assoc]
  rfl

theorem jsonBlock_cons (opening closing : Char) (level : Nat) (part : List Char) (parts : List (List Char)) :
    jsonBlock opening closing level (part :: parts) =
      opening :: (jsonLines (level + 1) (part :: parts) ++ (newLine level ++ [closing])) := by
  rw [jsonBlock, jsonLines, List.append_assoc, List.append_assoc]
  rintro ⟨⟩

theorem skipBlanks_jsonLines {c : Char} (h : isJsonBlank c = false) (level : Nat) (tail : List Char)
    (parts : List (List Char)) (rest : List Char) :
    ∃ more, skipBlanks (jsonLines level ((c :: tail) :: parts) ++ rest) = c :: more := by
  have hstart : ∃ more, List.intercalate (',' :: newLine level) ((c :: tail) :: parts) = c :: more := by
    cases parts with
    | nil => exact ⟨tail, List.intercalate_singleton⟩
    | cons next parts => exact ⟨_, List.intercalate_cons_cons⟩
  obtain ⟨more, hmore⟩ := hstart
  rw [jsonLines, List.append_assoc, skipBlanks_newLine_append, hmore]
  exact ⟨_, skipBlanks_cons h _⟩

theorem skipBlanks_jsonElements (value : Value) (values : List Value) (level : Nat) (rest : List Char) :
    ∃ c more, skipBlanks (jsonLines level (jsonElements level (value :: values)) ++ rest) = c :: more ∧ c ≠ ']' := by
  obtain ⟨c, tail, htext, hblank, hc⟩ := exists_cons_jsonChars value level
  rw [jsonElements, htext]
  obtain ⟨more, hmore⟩ := skipBlanks_jsonLines hblank level tail _ rest
  exact ⟨c, more, hmore, hc⟩

theorem skipBlanks_jsonFields (name : String) (value : Value) (fields : List (String × Value)) (level : Nat)
    (rest : List Char) :
    ∃ more, skipBlanks (jsonLines level (jsonFields level ((name, value) :: fields)) ++ rest) = '\x22' :: more := by
  rw [jsonFields, jsonString, List.cons_append]
  exact skipBlanks_jsonLines (by decide) level _ _ _

mutual

theorem readValue_jsonChars (value : Value) (level : Nat) {rest : List Char} (hrest : EndsNumber rest) {fuel : Nat}
    (hfuel : (value.jsonChars level).length ≤ fuel) :
    readValue fuel (value.jsonChars level ++ rest) = some (value, rest) := by
  match fuel, hfuel with
  | 0, hfuel =>
    obtain ⟨c, tail, htext, -⟩ := exists_cons_jsonChars value level
    rw [htext] at hfuel
    cases hfuel
  | fuel + 1, hfuel =>
    match value with
    | .null | .bool true | .bool false => rfl
    | .int n =>
      rw [Value.jsonChars]
      exact readValue_of_readNumber (exists_cons_intText n) (readNumber_intText n hrest) fuel
    | .decimal mantissa places =>
      rw [Value.jsonChars]
      exact readValue_of_readNumber (exists_cons_jsonDecimal mantissa places)
        (readNumber_jsonDecimal mantissa places hrest) fuel
    | .text s =>
      rw [Value.jsonChars, jsonString_append]
      exact readValue_string (readString_flatMap s.toList rest)
    | .list [] => rfl
    | .list (value :: values) =>
      rw [Value.jsonChars, jsonElements, jsonBlock_cons, ← jsonElements] at hfuel ⊢
      simp only [List.length_cons, List.length_append] at hfuel
      have hlines : (jsonLines (level + 1) (jsonElements (level + 1) (value :: values))).length < fuel := by omega
      have hread := readElements_jsonLines value values (level + 1) level rest hlines
      obtain ⟨c, more, hmore, hc⟩ := skipBlanks_jsonElements value values (level + 1) (newLine level ++ ']' :: rest)
      rw [List.cons_append, List.append_assoc, List.append_assoc, List.singleton_append]
      exact readValue_list hmore hc hread
    | .record [] => rfl
    | .record ((name, value) :: fields) =>
      rw [Value.jsonChars, jsonFields, jsonBlock_cons, ← jsonFields] at hfuel ⊢
      simp only [List.length_cons, List.length_append] at hfuel
      have hlines : (jsonLines (level + 1) (jsonFields (level + 1) ((name, value) :: fields))).length < fuel := by
        omega
      have hread := readFields_jsonLines name value fields (level + 1) level rest hlines
      obtain ⟨more, hmore⟩ := skipBlanks_jsonFields name value fields (level + 1) (newLine level ++ '\x7d' :: rest)
      rw [List.cons_append, List.append_assoc, List.append_assoc, List.singleton_append]
      exact readValue_record hmore (by decide) hread
termination_by structural fuel

theorem readElements_jsonLines (value : Value) (values : List Value) (level last : Nat) (rest : List Char) {fuel : Nat}
    (hfuel : (jsonLines level (jsonElements level (value :: values))).length < fuel) :
    readElements fuel (jsonLines level (jsonElements level (value :: values)) ++ (newLine last ++ ']' :: rest)) =
      some (value :: values, rest) := by
  match fuel, hfuel with
  | fuel + 1, hfuel =>
    match values with
    | [] =>
      rw [jsonElements, jsonElements, jsonLines_singleton] at hfuel ⊢
      rw [List.length_append] at hfuel
      rw [List.append_assoc]
      refine readElements_last ?_ ((skipBlanks_newLine_append last _).trans (skipBlanks_cons (by decide) rest))
      rw [readValue_newLine_append]
      exact readValue_jsonChars value level (endsNumber_newLine_append last _) (by omega)
    | next :: values =>
      rw [jsonElements, jsonElements, jsonLines_cons, ← jsonElements] at hfuel ⊢
      rw [List.length_append, List.length_append, List.length_cons] at hfuel
      rw [List.append_assoc, List.append_assoc, List.cons_append]
      refine readElements_comma ?_ (skipBlanks_cons (by decide) _)
        (readElements_jsonLines next values level last rest (by omega))
      rw [readValue_newLine_append]
      exact readValue_jsonChars value level (endsNumber_comma _) (by omega)
termination_by structural fuel

theorem readFields_jsonLines (name : String) (value : Value) (fields : List (String × Value)) (level last : Nat)
    (rest : List Char) {fuel : Nat}
    (hfuel : (jsonLines level (jsonFields level ((name, value) :: fields))).length < fuel) :
    readFields fuel
        (jsonLines level (jsonFields level ((name, value) :: fields)) ++ (newLine last ++ '\x7d' :: rest)) =
      some ((name, value) :: fields, rest) := by
  match fuel, hfuel with
  | fuel + 1, hfuel =>
    match fields with
    | [] =>
      rw [jsonFields, jsonFields, jsonLines_singleton] at hfuel ⊢
      simp only [List.length_append, List.length_cons] at hfuel
      rw [List.append_assoc]
      refine readFields_last (startsField_newLine level name _ _) ?_
        ((skipBlanks_newLine_append last _).trans (skipBlanks_cons (by decide) rest))
      rw [readValue_space]
      exact readValue_jsonChars value level (endsNumber_newLine_append last _) (by omega)
    | (next, nextValue) :: fields =>
      rw [jsonFields, jsonFields, jsonLines_cons, ← jsonFields] at hfuel ⊢
      simp only [List.length_append, List.length_cons] at hfuel
      rw [List.append_assoc, List.append_assoc, List.cons_append]
      refine readFields_comma (startsField_newLine level name _ _) ?_ (skipBlanks_cons (by decide) _)
        (readFields_jsonLines next nextValue fields level last rest (by omega))
      rw [readValue_space]
      exact readValue_jsonChars value level (endsNumber_comma _) (by omega)
termination_by structural fuel

end

/-- The JSON text of a value says what the value is. -/
theorem read?_jsonText (value : Value) : read? value.jsonText = some value := by
  have hread : readValue ((value.jsonChars 0).length + 1) (value.jsonChars 0 ++ []) = some (value, []) :=
    readValue_jsonChars value 0 (by rintro c ⟨⟩) (Nat.le_succ _)
  rw [List.append_nil] at hread
  rw [read?, Value.jsonText, String.toList_ofList, hread]
  rfl

theorem jsonText_injective : Function.Injective Value.jsonText := by
  intro value other h
  have hread := read?_jsonText value
  rw [h, read?_jsonText, Option.some.injEq] at hread
  exact hread.symm

end Chronicle.Data.Json
