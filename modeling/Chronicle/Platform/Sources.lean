import Chronicle.Data.Decode
import Chronicle.Platform.Entry
import Chronicle.Platform.Reference
import Chronicle.Settings
import Chronicle.Text.Case

/-!
# Where settings come from

Settings come from variables of the environment and from settings files.  A name is looked up in the
environment first, in any case, and then in the files, the most specific file first.  What is nowhere set
has a default.  So has what the first file that names it names without a value.

Within a file, an entry may refer to the entries above it and to the variables of the environment.

`prepare` fixes the kind of environment before the look-up, so that no file can change it.
-/

namespace Chronicle.Platform

open Chronicle.Data Chronicle.Text

/-! ## Sources -/

structure SettingsSources where
  environment : List (String × String) := []
  files : List (String × String) := []
  deriving DecidableEq, Repr

/-- The settings files, the most specific first. -/
def settingsFiles : List String := [".env.prod", ".env.test", ".env.dev", ".env.local", ".env"]

/-- The name of the variable that holds the kind of environment. -/
def environmentVariable : String := "CHRONOLINE_ENV"

/-- The text of a settings file.  A byte order mark in front of it does not count. -/
def fileText (content : String) : List Char :=
  match unifyBreaks content.toList with
  | '\ufeff' :: rest => rest
  | cs => cs

/-- Sets the value of a name.  A name that is there already keeps its place. -/
def setValue (values : List (String × Option String)) (name : String) (value : Option String) :
    List (String × Option String) :=
  if values.any (·.1 == name) then
    values.map fun entry => if entry.1 == name then (name, value) else entry
  else values ++ [(name, value)]

/-- The values of some entries, with their references replaced. -/
def entryValues (environment : List (String × String)) (entries : List Entry) :
    List (String × Option String) :=
  entries.foldl
    (fun values entry =>
      let known (name : String) : Option (Option String) :=
        (values.lookup name).or ((environment.lookup name).map some)
      setValue values entry.name
        (entry.value.map fun value => String.ofList (expand known value.toList)))
    []

/-- The value of a name, in any case, where the last one counts. -/
def lastValue? {α : Type} (values : List (String × α)) (name : String) : Option α :=
  (values.reverse.find? fun entry => lower entry.1.toList = lower name.toList).map (·.2)

/-- What a settings file says about a name. -/
def SettingsSources.fileValue? (sources : SettingsSources) (name file : String) :
    Option (Option String) :=
  (sources.files.lookup file).bind fun content =>
    lastValue? (entryValues sources.environment (readEntries (fileText content))) name

def SettingsSources.value? (sources : SettingsSources) (name : String) : Option String :=
  (lastValue? sources.environment name).or
    (settingsFiles.findSome? (sources.fileValue? name)).join

/-- Fixes the kind of environment, unless the environment does so itself. -/
def SettingsSources.prepare (sources : SettingsSources) : SettingsSources :=
  if (sources.environment.lookup environmentVariable).isSome then sources
  else { sources with environment := sources.environment ++ [(environmentVariable, "dev")] }

/-! ## Reading settings -/

def readWord {α : Type} (words : List (String × α)) (s : String) : Checked α :=
  match words.lookup s with
  | some a => .sound a
  | none => .fail .notAllowed

/-- Reads a text that is not empty. -/
def readNonempty (s : String) : Checked String :=
  if s.isEmpty then .fail .emptyText else .sound s

def readTruthWord (s : String) : Checked Bool := (Value.text s).truth

def SettingsSources.read {α : Type} (sources : SettingsSources) (name : String) (absent : α)
    (decode : String → Checked α) : Checked α :=
  match sources.value? name with
  | some s => (decode s).under (.field name)
  | none => .sound absent

def SettingsSources.settings (sources : SettingsSources) : Checked Settings :=
  (fun environment logLevel locale roundRanges useUtc =>
      ⟨environment, logLevel, locale, roundRanges, useUtc⟩)
    <$> sources.read environmentVariable .dev (readWord Environment.words)
    <*> sources.read "LOG_LEVEL" .info (readWord LogLevel.words)
    <*> sources.read "CHRONOLINE_LOCALE" "en" readNonempty
    <*> sources.read "CHRONOLINE_ROUND_RANGES" false readTruthWord
    <*> sources.read "CHRONOLINE_USE_UTC" true readTruthWord

/-- Reads the settings of a run of the program. -/
def loadSettings (sources : SettingsSources) : Checked Settings := sources.prepare.settings

end Chronicle.Platform
