import Chronicle.Text.CaseRuns

/-!
# Upper, lower and folded case

The full case mappings: a character may become several, as `ß` becomes `SS`.  Upper case and folding
look at one character at a time.  Lower case does too, but for the capital sigma, which takes its
final form `ς` at the end of a word: some letter with case stands before it and none after it, where
the characters of `skippedSpans` do not count.
-/

namespace Chronicle.Text

/-! ## Tables as mappings -/

/-- Whether the run moves this code point. -/
def CaseRun.covers (r : CaseRun) (n : Nat) : Bool :=
  r.first ≤ n && n ≤ r.last && (n - r.first) % r.stride == 0

/-- Where the run moves a code point. -/
def CaseRun.target (r : CaseRun) (n : Nat) : Char := Char.ofNat (n + r.shift).toNat

/-- A case mapping: characters that expand, and runs that shift. -/
structure CaseMap where
  /-- Characters that become several. -/
  expansions : List (Nat × List Nat)
  runs : List CaseRun

/-- The image of a character.  One that no row mentions stays as it is. -/
def CaseMap.image (m : CaseMap) (c : Char) : List Char :=
  match m.expansions.lookup c.toNat with
  | some ns => ns.map Char.ofNat
  | none =>
    match m.runs.find? (·.covers c.toNat) with
    | some r => [r.target c.toNat]
    | none => [c]

/-- Lower case of single characters. -/
def lowerMap : CaseMap := ⟨lowerExpansions, lowerRuns⟩

/-- Upper case of single characters. -/
def upperMap : CaseMap := ⟨upperExpansions, upperRuns⟩

/-- Case folding of single characters. -/
def foldMap : CaseMap := ⟨foldExpansions, foldRuns⟩

/-! ## Texts -/

/-- The text in upper case. -/
def upper (cs : List Char) : List Char := cs.flatMap upperMap.image

/-- The text with case folded away, for comparisons that ignore case. -/
def fold (cs : List Char) : List Char := cs.flatMap foldMap.image

/-- Whether the first character that counts has case. -/
def meetsCased (cs : List Char) : Bool :=
  match cs.dropWhile (inSpans skippedSpans) with
  | [] => false
  | c :: _ => inSpans casedSpans c

/-- Whether a capital sigma is final, given the characters before it, nearest first, and after. -/
def isFinalSigma (before after : List Char) : Bool := meetsCased before && !meetsCased after

/-- Lower case of one character between its neighbours. -/
def lowerAt (before : List Char) (c : Char) (after : List Char) : List Char :=
  if c = 'Σ' then [if isFinalSigma before after then 'ς' else 'σ'] else lowerMap.image c

/-- Lower case of a text, given the characters before it, nearest first. -/
def lowerFrom (before : List Char) : List Char → List Char
  | [] => []
  | c :: rest => lowerAt before c rest ++ lowerFrom (c :: before) rest

/-- The text in lower case. -/
def lower (cs : List Char) : List Char := lowerFrom [] cs

end Chronicle.Text
