import Chronicle.Platform.LocalNames
import Chronicle.Platform.Sources
import Chronicle.Platform.Words

/-!
# The program on a platform

`run?` runs a command line where there are variables of the environment and files.  The settings come from these, and
names for dates from the conventions of each locale.
-/

namespace Chronicle.Platform

open Chronicle.Command Chronicle.Data

/-- Where settings come from.  There is no answer when a settings file is no text. -/
def sources? (environment : List (String × String)) (file? : String → Option ByteArray) : Option SettingsSources :=
  let contents : List (String × ByteArray) :=
    settingsFiles.filterMap fun name => (file? name).map fun bytes => (name, bytes)
  let texts : Option (List (String × String)) :=
    contents.mapM fun (name, bytes) => (String.fromUTF8? bytes).map fun text => (name, text)
  texts.map fun files => ⟨environment, files⟩

/-- The settings of a run, or why there are none. -/
def settingsOf (environment : List (String × String)) (file? : String → Option ByteArray) :
    Except Breakdown Settings :=
  match sources? environment file? with
  | none => .error .notText
  | some sources =>
    match loadSettings sources with
    | .sound settings => .ok settings
    | .faulty problems => .error (.settings problems)

/-- A host with these variables and files.  It does not look behind the fields of an item. -/
def hostOf (environment : List (String × String)) (file? : String → Option ByteArray) : Host where
  file? := file?
  settings := settingsOf environment file?
  names := localNames
  localeName := localeName
  attributes _ := none

/-- Runs a command line.  There is no answer when it is used wrongly. -/
def run? (environment : List (String × String)) (file? : String → Option ByteArray) (words : List String) :
    Option Outcome := do
  (← requestOfWords? words).run? (hostOf environment file?)

end Chronicle.Platform
