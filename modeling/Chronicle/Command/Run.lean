import Chronicle.Command.FileName
import Chronicle.Command.Markup
import Chronicle.Data.JsonText
import Chronicle.Document.Extract
import Chronicle.Locale.Display
import Chronicle.Script.CheatSheet
import Chronicle.Script.Compile
import Chronicle.Settings
import Chronicle.Timeline.Dump
import Chronicle.Timeline.Order

/-!
# Running a command

A command writes plain text to the output, and markup to the console: lines, rules, tables and panels.
It ends with status 0, or with status 1 when a date or a line of a script is wrong.  It may also break
down, because the settings are wrong, a file is no text, a script has a fault, or something cannot be shown.

A `Host` is what a command finds where it runs.  Everything here is a function of the host and of what is asked for.
-/

namespace Chronicle.Command

open Chronicle.Calendar Chronicle.Data Chronicle.Document Chronicle.Locale Chronicle.Script
  Chronicle.Text Chronicle.Timeline

/-! ## What a command does -/

/-- What is asked for on the command line. -/
inductive Request where
  | compile (file : String) (locale : Option String) (json roundRanges : Bool)
  | normalize (date : String)
  | format (start : String) (stop : Option String) (locale : Option String)
  | locales
  | cheatSheet
  deriving DecidableEq, Repr

/-- Something shown on the console, in markup. -/
inductive ConsoleEvent where
  | print (text : String)
  | rule (title : String)
  | table (title : Option String) (columns : List String) (rows : List (List String))
  | panel (title body : String)
  deriving DecidableEq, Repr

/-- Why a command breaks down. -/
inductive Breakdown where
  | settings (problems : List Problem)
  | notText
  | fault (fault : Fault)
  | incomparable (cause : Incomparable)
  /-- A number cannot be written. -/
  | overlong
  deriving DecidableEq, Repr

/-- What a command has done. -/
structure Outcome where
  status : Nat := 0
  output : String := ""
  console : List ConsoleEvent := []
  breakdown : Option Breakdown := none
  deriving DecidableEq, Repr

/-- Where a command runs. -/
structure Host where
  file? : String → Option ByteArray
  /-- The settings, or why there are none. -/
  settings : Except Breakdown Settings
  /-- The names for dates where no service is given. -/
  names : DateNames
  /-- The name of a locale in its own language, as far as it is known. -/
  localeName : String → String
  attributes : KindAttributes

/-- A command that breaks down before it has done anything. -/
def Outcome.broken (breakdown : Breakdown) : Outcome := { status := 1, breakdown := some breakdown }

/-- A command that writes a line and succeeds. -/
def Outcome.line (text : String) : Outcome := { output := text ++ "\n" }

/-- A command that writes a line, if the line can be written. -/
def Outcome.line? : Option String → Outcome
  | some text => .line text
  | none => .broken .overlong

/-- A date that was refused. -/
def Outcome.badDate (e : DateError) : Outcome :=
  { status := 1
    console :=
      [.print ("[bold red]" ++ e.label ++ ":[/bold red] " ++ escapeMarkup e.message)] }

/-! ## Compiling the scripts of a file -/

def fileBlocks (path text : String) : List Block :=
  if isMarkdown path then extractBlocks text else [⟨.document, text, 1⟩]

/-- Compiles blocks in the standard dialect until one has a fault. -/
def compileBlocks (locale : String) (options : Options) :
    List Block → List (Block × Report) × Option Fault
  | [] => ([], none)
  | block :: rest =>
    match compile .standard block.source locale options with
    | .error fault => ([], some fault)
    | .ok report =>
      let (reports, fault) := compileBlocks locale options rest
      ((block, report) :: reports, fault)

/-- The status after blocks: 1 when a line of one of them is wrong. -/
def blocksStatus (reports : List (Block × Report)) : Nat :=
  if reports.any fun (_, report) => !report.issues.isEmpty then 1 else 0

/-! ## Reports as JSON -/

/-- A block and what came of it, as data. -/
def entryValue? (block : Block) (report : Report) : Option Value := do
  let result ← report.timeline.toValue?
  return .record [
    ("kind", .text block.kind.name),
    ("line", .int block.line),
    ("errors", .list (report.messages.map .text)),
    ("result", result)]

/-- Writes the blocks and what came of them as JSON.  Nothing is written if there is a fault behind them. -/
def jsonOutcome (reports : List (Block × Report)) (fault : Option Fault) : Outcome :=
  match reports.mapM fun (block, report) => entryValue? block report with
  | none => .broken .overlong
  | some entries =>
    match fault with
    | some fault => .broken (.fault fault)
    | none => { Outcome.line (Value.list entries).jsonText with status := blocksStatus reports }

/-! ## Reports on the console -/

/-- Something to show on the console.  It may break down before it is shown. -/
abbrev Showing := Except Breakdown ConsoleEvent

/-- What is shown before something breaks down. -/
def shown : List Showing → List ConsoleEvent × Option Breakdown
  | [] => ([], none)
  | .error breakdown :: _ => ([], some breakdown)
  | .ok event :: rest =>
    let (events, breakdown) := shown rest
    (event :: events, breakdown)

/-- What is written, or a breakdown if it cannot be. -/
def written {α : Type} : Option α → Except Breakdown α
  | some a => .ok a
  | none => .error .overlong

/-- What flags say, a line for each that is set. -/
def flagLines? (flags : Flags) : Option (List String) := do
  let orderBy : List String :=
    match flags.orderBy with
    | some (key :: keys) => ["Order by: " ++ String.intercalate ", " (key :: keys)]
    | _ => []
  let view : List String ←
    match flags.defaultView with
    | some window => do
      pure ["Default view: " ++ (← window.start.isoText?) ++ " → " ++ (← window.stop.isoText?)]
    | none => pure []
  let marker : List String := if flags.hideCurrentTime then ["Current-time marker hidden"] else []
  let height : List String :=
    match flags.height with
    | some pixels => if pixels = 0 then [] else ["Height: " ++ showNat pixels ++ "px"]
    | none => []
  return orderBy ++ view ++ marker ++ height

def laneLabel (lanes : List Lane) (lane : Option Int) : String :=
  match lane with
  | none => ""
  | some n => ((lanes.find? fun l => (l.id : Int) = n).map Lane.label).getD ""

def itemRow (host : Host) (t : Timeline) (item : Item) : Except Breakdown (List String) := do
  let dates ← written (display host.names none item.start item.extent.stop? t.locale)
  return [showNat item.id, item.extent.kind.name, escapeMarkup dates, escapeMarkup item.content,
    escapeMarkup (item.color.getD ""), escapeMarkup (laneLabel t.lanes item.lane), showNat item.sourceLine]

def itemTable (host : Host) (t : Timeline) : Showing := do
  let items ← (orderItems host.attributes (t.flags.orderBy.getD []) t.items).mapError .incomparable
  return .table none ["#", "Kind", "When", "Content", "Color", "Group", "Line"] (← items.mapM (itemRow host t))

def markerLine (host : Host) (t : Timeline) (marker : Marker) : Showing := do
  let date ← written (display host.names none marker.start none t.locale)
  return .print (" [magenta]|[/magenta] " ++ escapeMarkup date ++ ": " ++ escapeMarkup marker.label)

def flagPanel (flags : Flags) : List Showing :=
  match flagLines? flags with
  | none => [.error .overlong]
  | some [] => []
  | some lines => [.ok (.panel "Flags" (escapeMarkup (String.intercalate "\n" lines)))]

def timelineShowings (host : Host) (t : Timeline) : List Showing :=
  itemTable host t :: (t.markers.map (markerLine host t) ++ flagPanel t.flags)

def documentLine (block : Block) (issue : Issue) : Nat := block.line + issue.line - 1

def issueEvents (block : Block) (report : Report) : List ConsoleEvent :=
  match report.issues with
  | [] => []
  | issues =>
    .print ("[bold red]❌ " ++ showNat issues.length ++ " problem(s):[/bold red]") ::
      issues.map fun issue =>
        .print ("  - " ++ escapeMarkup issue.text ++ " [dim](document line " ++
          showNat (documentLine block issue) ++ ")[/dim]")

/-- Shows a block and what came of it. -/
def blockShowings (host : Host) (position : Nat) (block : Block) (report : Report) : List Showing :=
  .ok (.rule ("[bold]Block " ++ showNat position ++ "[/bold] (" ++ block.kind.name ++ ", line " ++
      showNat block.line ++ ")")) ::
    ((issueEvents block report).map .ok ++ timelineShowings host report.timeline)

/-- Shows the blocks and what came of them, up to a fault behind them. -/
def consoleOutcome (host : Host) (reports : List (Block × Report)) (fault : Option Fault) : Outcome :=
  let showings := reports.zipIdx.flatMap fun ((block, report), i) => blockShowings host (i + 1) block report
  match shown (showings ++ fault.toList.map fun fault => .error (.fault fault)) with
  | (console, none) => { status := blocksStatus reports, console }
  | (console, some breakdown) => { status := 1, console, breakdown := some breakdown }

/-! ## Compiling a file -/

/-- A locale that is asked for and not empty, or else the one of the settings. -/
def localeOr (locale : Option String) (settings : Settings) : String :=
  match locale with
  | some code => if code.isEmpty then settings.locale else code
  | none => settings.locale

/-- Compiles the scripts of a file. -/
def runCompile (host : Host) (settings : Settings) (path : String) (content : ByteArray) (locale : Option String)
    (json roundRanges : Bool) : Outcome :=
  match String.fromUTF8? content with
  | none => .broken .notText
  | some text =>
    match fileBlocks path (String.ofList (unifyBreaks text.toList)) with
    | [] =>
      { console := [.print ("[yellow]No chronos blocks found in " ++
          escapeMarkup (fileName path) ++ ".[/yellow]")] }
    | blocks =>
      let options : Options := ⟨roundRanges || settings.roundRanges, settings.useUtc⟩
      let (reports, fault) := compileBlocks (localeOr locale settings) options blocks
      if json then jsonOutcome reports fault else consoleOutcome host reports fault

/-! ## The other commands -/

/-- Writes a date in full. -/
def runNormalize (date : String) : Outcome :=
  match normalize date with
  | .ok m => .line? m.isoText?
  | .error e => .badDate e

/-- Writes a date or a range in a locale. -/
def runDisplay (host : Host) (start : Moment) (stop : Option Moment) (locale : Option String) :
    Outcome :=
  match locale.filter (!·.isEmpty) with
  | some code => .line? (display host.names none start stop code)
  | none =>
    match host.settings with
    | .ok settings => .line? (display host.names none start stop settings.locale)
    | .error breakdown => .broken breakdown

/-- Reads a date or a range and writes it in a locale. -/
def runFormat (host : Host) (start : String) (stop locale : Option String) : Outcome :=
  match normalize start with
  | .error e => .badDate e
  | .ok first =>
    match stop with
    | none => runDisplay host first none locale
    | some stop =>
      match normalize stop with
      | .error e => .badDate e
      | .ok last => runDisplay host first (some last) locale

/-- Lists the known locales with their names and directions. -/
def runLocales (host : Host) : Outcome :=
  { console :=
      [.table (some "Known locales") ["Code", "Name", "Direction"]
        ((knownCodes []).map fun code =>
          [code, escapeMarkup (host.localeName code),
            if isRightToLeft code then "rtl" else "ltr"])] }

/-- Does what is asked for.  There is no answer when the file to compile does not exist. -/
def Request.run? (host : Host) : Request → Option Outcome
  | .compile path locale json roundRanges => do
    let content ← host.file? path
    match host.settings with
    | .error breakdown => return .broken breakdown
    | .ok settings => return runCompile host settings path content locale json roundRanges
  | .normalize date => some (runNormalize date)
  | .format start stop locale => some (runFormat host start stop locale)
  | .locales => some (runLocales host)
  | .cheatSheet => some (.line Script.cheatSheet)

end Chronicle.Command
