/-!
# Settings

Five settings come from the environment that the program runs in.  What is nowhere set has a default.
-/

namespace Chronicle

/-- The kind of environment that the program runs in. -/
inductive Environment where
  | dev
  | test
  | prod
  deriving DecidableEq, Repr

def Environment.words : List (String × Environment) :=
  [("dev", .dev), ("test", .test), ("prod", .prod)]

/-- How much is logged. -/
inductive LogLevel where
  | debug
  | info
  | warning
  | error
  | critical
  deriving DecidableEq, Repr

def LogLevel.words : List (String × LogLevel) :=
  [("DEBUG", .debug), ("INFO", .info), ("WARNING", .warning), ("ERROR", .error),
    ("CRITICAL", .critical)]

def LogLevel.number : LogLevel → Nat
  | .debug => 10
  | .info => 20
  | .warning => 30
  | .error => 40
  | .critical => 50

structure Settings where
  environment : Environment := .dev
  logLevel : LogLevel := .info
  /-- The locale that is used where none is asked for. -/
  locale : String := "en"
  roundRanges : Bool := false
  useUtc : Bool := true
  deriving DecidableEq, Repr

def wordOf {α : Type} [DecidableEq α] (words : List (String × α)) (a : α) : String :=
  ((words.find? fun entry => entry.2 = a).map (·.1)).getD ""

end Chronicle
