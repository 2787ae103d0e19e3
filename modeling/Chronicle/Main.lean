import Chronicle.Platform.Program

/-!
# The command line program

`main` reads what a command may need, the environment, the settings files and the file that is named, hands
it to `run?`, and shows what comes back.  Console markup is shown as it is, a table as one line for each row.
-/

namespace Chronicle.Main

open Chronicle.Command Chronicle.Platform Chronicle.Text

def settingsVariables : List String :=
  ["CHRONOLINE_ENV", "LOG_LEVEL", "CHRONOLINE_LOCALE", "CHRONOLINE_ROUND_RANGES",
    "CHRONOLINE_USE_UTC"]

/-- The content of a file, if it can be read. -/
def readFile? (path : String) : IO (Option ByteArray) := do
  try
    return some (← IO.FS.readBinFile path)
  catch _ => return none

/-- The variables of the environment.  Where the system does not list them, only the settings variables
are looked up. -/
def readEnvironment : IO (List (String × String)) := do
  match ((← readFile? "/proc/self/environ").bind String.fromUTF8?) with
  | some listing =>
    return (splitAll ['\x00'] listing.toList).filterMap fun entry =>
      (cutAt? ['='] entry).map fun (name, value) => (String.ofList name, String.ofList value)
  | none =>
    settingsVariables.filterMapM fun name => do
      return (← IO.getEnv name).map fun value => (name, value)

/-- The settings files and the file that a command line names. -/
def readFiles (words : List String) : IO (List (String × ByteArray)) := do
  let named : List String :=
    match requestOfWords? words with
    | some (.compile path _ _ _) => [path]
    | _ => []
  (settingsFiles ++ named).filterMapM fun path => do
    return (← readFile? path).map fun content => (path, content)

def showEvent : ConsoleEvent → IO Unit
  | .print text => IO.println text
  | .rule title => IO.println ("── " ++ title)
  | .table title columns rows => do
    if let some title := title then IO.println title
    for row in columns :: rows do
      IO.println (String.intercalate " │ " row)
  | .panel title body => IO.println (title ++ "\n" ++ body)

def overlongText : String := "A number is too long to be written."

/-- Tells why a command broke down. -/
def breakdownText : Breakdown → String
  | .settings _ => "The settings are wrong."
  | .notText => "A file is no text."
  | .fault .emptySeparator => "A separator is empty."
  | .fault (.tooManyDigits digits) => "A number has " ++ toString digits ++ " digits."
  | .fault (.unknownLane cause) => cause.message?.getD overlongText
  | .incomparable cause => "Items cannot be ordered by " ++ cause.left ++ " and " ++ cause.right ++ "."
  | .overlong => overlongText

end Chronicle.Main

open Chronicle.Command Chronicle.Main Chronicle.Platform in
/-- Runs a command line. -/
def main (words : List String) : IO UInt32 := do
  let files ← readFiles words
  match run? (← readEnvironment) (fun path => files.lookup path) words with
  | none => do
    IO.eprintln "usage: parse FILE | normalize DATE | format START [END] | locales | cheatsheet"
    return 2
  | some outcome => do
    IO.print outcome.output
    outcome.console.forM showEvent
    if let some breakdown := outcome.breakdown then IO.eprintln (breakdownText breakdown)
    return outcome.status.toUInt32
