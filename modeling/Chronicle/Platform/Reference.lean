import Chronicle.Text.Blank

/-!
# References in settings

A value in a settings file may refer to other names.  `${NAME}` stands for the value of `NAME`, and
`${NAME:-TEXT}` for `TEXT` where `NAME` is not known.  A dollar sign that starts neither stands for itself.
What a reference stands for is not read again.
-/

namespace Chronicle.Platform

/-- A reference to the value of a name. -/
structure Reference where
  name : List Char
  /-- The text that stands in where the name is not known. -/
  fallback : List Char
  deriving DecidableEq, Repr

/-- Whether a character can be part of a name that is referred to. -/
def isReferenceChar (c : Char) : Bool := c != '}' && c != ':'

/-- The reference that a text goes on with behind `${`, and what follows it. -/
def readReference? (cs : List Char) : Option (Reference × List Char) :=
  let name := cs.takeWhile isReferenceChar
  match cs.dropWhile isReferenceChar with
  | '}' :: rest => some (⟨name, []⟩, rest)
  | ':' :: '-' :: more =>
    match more.dropWhile (· != '}') with
    | _ :: rest => some (⟨name, more.takeWhile (· != '}')⟩, rest)
    | [] => none
  | _ => none

theorem length_readReference?_le {cs rest : List Char} {r : Reference}
    (h : readReference? cs = some (r, rest)) : rest.length ≤ cs.length := by
  have hlen := (List.dropWhile_sublist (l := cs) isReferenceChar).length_le
  unfold readReference? at h
  simp only at h
  split at h
  · next rest' hname =>
    obtain ⟨_, rfl⟩ := Prod.mk.inj (Option.some.inj h)
    rw [hname, List.length_cons] at hlen
    omega
  · next more hname =>
    rw [hname, List.length_cons, List.length_cons] at hlen
    split at h
    · next c rest' hmore =>
      obtain ⟨_, rfl⟩ := Prod.mk.inj (Option.some.inj h)
      have htail := (List.dropWhile_sublist (l := more) (· != '}')).length_le
      rw [hmore, List.length_cons] at htail
      omega
    · simp at h
  · simp at h

/-- A value with its references replaced.  A known name without a value stands for nothing. -/
def expand (known : String → Option (Option String)) (cs : List Char) : List Char :=
  match cs with
  | [] => []
  | '$' :: '{' :: more =>
    match _hread : readReference? more with
    | some (r, rest) =>
      let value : List Char :=
        match known (String.ofList r.name) with
        | none => r.fallback
        | some value => (value.getD "").toList
      value ++ expand known rest
    | none => '$' :: expand known ('{' :: more)
  | c :: rest => c :: expand known rest
termination_by cs.length
decreasing_by
  · have hlen := length_readReference?_le _hread
    simp only [List.length_cons]
    omega
  · simp
  · simp

end Chronicle.Platform
