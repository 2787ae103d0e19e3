import Chronicle.Script.Line
import Chronicle.Text.Lines
import Chronicle.Timeline.Assemble

/-!
# From a script to a timeline

A script is read line by line.  `Progress` is what the lines so far have declared.  A line that is wrong
adds an issue with its number and changes nothing else, so the timeline is made of the lines that are
right.  Only a fault stops the reading.

Items are numbered from 0 in source order.  Lanes are numbered from 1, in the order in which their labels
first occur.  A flag that is set again takes the later value.
-/

namespace Chronicle.Script

open Chronicle.Calendar Chronicle.Text Chronicle.Timeline

/-! ## Line by line -/

/-- What the lines so far have declared. -/
structure Progress where
  items : List Item := []
  markers : List Marker := []
  /-- The labels of the lanes, in the order in which they were declared. -/
  labels : List String := []
  flags : Flags := {}
  issues : List Issue := []
  deriving DecidableEq, Repr

/-- The labels, with a further one unless it is there already. -/
def declareLabel (labels : List String) (label : String) : List String :=
  if labels.contains label then labels else labels ++ [label]

def laneNumber (labels : List String) (label : String) : Nat := labels.idxOf label + 1

/-- The item of a draft, with its number, its line, and the number of its lane among some labels. -/
def Draft.toItem (draft : Draft) (labels : List String) (id line : Nat) : Item :=
  { id
    content := draft.content
    start := draft.start
    lane := draft.lane.map fun label => (laneNumber labels label : Int)
    color := draft.color
    description := draft.description
    link := draft.link
    sourceLine := line
    extent := draft.extent }

namespace Progress

/-- Declares the lane of a draft, if it has one. -/
def declare (p : Progress) : Option String → Progress
  | none => p
  | some label => { p with labels := declareLabel p.labels label }

def addItem (p : Progress) (line : Nat) (draft : Draft) : Progress :=
  let p := p.declare draft.lane
  { p with items := p.items ++ [draft.toItem p.labels p.items.length line] }

/-- Does what a line says. -/
def apply (p : Progress) (line : Nat) : Effect → Progress
  | .none => p
  | .flag setting => { p with flags := setting.apply p.flags }
  | .entity (.item draft) => p.addItem line draft
  | .entity (.marker start label) => { p with markers := p.markers ++ [⟨start, label, line⟩] }

/-- Notes that a line is wrong. -/
def note (p : Progress) (line : Nat) (error : LineError) : Progress :=
  { p with issues := p.issues ++ [⟨line, error⟩] }

/-- Reads a further line. -/
def step (d : Dialect) (p : Progress) (line : SourceLine) : Except Fault Progress :=
  match readLine d line.text.toList with
  | .ok effect => .ok (p.apply line.number effect)
  | .error (.line error) => .ok (p.note line.number error)
  | .error (.fault fault) => .error fault

/-- The lanes that were declared. -/
def lanes (p : Progress) : List Lane :=
  p.labels.zipIdx.map fun (label, i) => ⟨i + 1, label⟩

end Progress

/-- Reads lines until they are used up or one has a fault. -/
def readLines (d : Dialect) (p : Progress) : List SourceLine → Except Fault Progress
  | [] => .ok p
  | line :: rest =>
    match p.step d line with
    | .ok p => readLines d p rest
    | .error fault => .error fault

/-! ## The whole script -/

/-- What comes of a script. -/
structure Report where
  timeline : Timeline
  issues : List Issue
  deriving DecidableEq, Repr

/-- The messages about the lines that are wrong. -/
def Report.messages (r : Report) : List String := r.issues.map Issue.text

/-- Stands between the messages when they are put into one text. -/
def messageSeparator : String := ";;"

/-- All messages in one text. -/
def Report.message (r : Report) : String := String.intercalate messageSeparator r.messages

/-- The locale of a timeline: the one that is asked for, or English when that is blank. -/
def chosenLocale (locale : String) : String :=
  if (trim locale.toList).isEmpty then "en" else trimmed locale

/-- Puts together what the lines have declared. -/
def Progress.finish (p : Progress) (locale : String) (options : Options) : Except Fault Report :=
  match assemble p.items p.markers p.lanes p.flags (chosenLocale locale) options with
  | .ok timeline => .ok ⟨timeline, p.issues⟩
  | .error cause => .error (.unknownLane cause)

/-- Makes a timeline of a script. -/
def compile (d : Dialect) (source : String) (locale : String := "en") (options : Options := {}) :
    Except Fault Report :=
  match readLines d {} (sourceLines source) with
  | .ok p => p.finish locale options
  | .error fault => .error fault

/-- Why a script is refused. -/
inductive Refusal where
  /-- Some lines are wrong.  The report has the timeline of the others. -/
  | wrongLines (report : Report)
  | fault (fault : Fault)
  deriving DecidableEq, Repr

/-- The timeline of a script, unless it is refused. -/
def parse (d : Dialect) (source : String) (locale : String := "en") (options : Options := {}) :
    Except Refusal Timeline :=
  match compile d source locale options with
  | .ok report => if report.issues.isEmpty then .ok report.timeline else .error (.wrongLines report)
  | .error fault => .error (.fault fault)

end Chronicle.Script
