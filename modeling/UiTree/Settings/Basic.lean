import UiTree.Journal.Record
import UiTree.Storage.Location
import UiTree.Validation.Rules

/-!
# Settings — how long to wait, and what to log

Each setting has a name and a default.  Given values are checked one by one; names that are no
settings are passed over.
-/

namespace UiTree

open Datum

structure Settings where
  /-- How long a locator waits unless told otherwise. -/
  waitTimeout : Int := 10000
  pollInterval : Int := 100
  logLevel : Level := .info
  logToFile : Bool := false
  logFile : Location := { names := ["treewright.log"] }
  colorized : Bool := true
  deriving DecidableEq, Repr

namespace Settings

/-! ## Names -/

inductive Key
  | waitTimeout
  | pollInterval
  | logLevel
  | logToFile
  | logFile
  | colorized
  deriving DecidableEq, Repr

def Key.name : Key → String
  | .waitTimeout => "WAIT_TIMEOUT_MS"
  | .pollInterval => "POLL_INTERVAL_MS"
  | .logLevel => "LOG_LEVEL"
  | .logToFile => "LOG_TO_FILE"
  | .logFile => "LOG_FILE"
  | .colorized => "COLORIZED_OUTPUT"

def Key.all : List Key :=
  [.waitTimeout, .pollInterval, .logLevel, .logToFile, .logFile, .colorized]

/-! ## Checking -/

def noLevel : String :=
  "Input should be 'DEBUG', 'INFO', 'WARNING', 'ERROR' or 'CRITICAL'"

def noPath : String := "Input is not a valid path for <class 'pathlib.Path'>"

/-- A level by its exact name. -/
def checkLevel : Json → Checked Level
  | .str s =>
    match Level.ofName? s with
    | some l => .ok l
    | none => .fail noLevel
  | _ => .fail noLevel

/-- Whatever there is, as text, is a location. -/
def checkLocation : Json → Checked Location
  | .null => .fail noPath
  | v => .ok (Location.parse v.plain)

/-- The value given for a setting, checked, or the default. -/
def checkKey {α : Type} (given : List (String × Json)) (key : Key) (default : α)
    (check : Json → Checked α) : Checked α :=
  match given.lookup key.name with
  | some v => (check v).under key.name
  | none => .ok default

/-- Settings from the values given for them. -/
def decode (given : List (String × Json)) : Checked Settings :=
  let base : Settings := {}
  let waitTimeout :=
    checkKey given .waitTimeout base.waitTimeout fun v => checkAtLeast 0 (.ofJson v)
  let pollInterval :=
    checkKey given .pollInterval base.pollInterval fun v => checkAtLeast 1 (.ofJson v)
  let logLevel := checkKey given .logLevel base.logLevel checkLevel
  let logToFile := checkKey given .logToFile base.logToFile fun v => checkTruth (.ofJson v)
  let logFile := checkKey given .logFile base.logFile checkLocation
  let colorized := checkKey given .colorized base.colorized fun v => checkTruth (.ofJson v)
  match waitTimeout, pollInterval, logLevel, logToFile, logFile, colorized with
  | .ok waitTimeout, .ok pollInterval, .ok logLevel, .ok logToFile, .ok logFile, .ok colorized =>
    .ok { waitTimeout, pollInterval, logLevel, logToFile, logFile, colorized }
  | _, _, _, _, _, _ =>
    .error (waitTimeout.issues ++ pollInterval.issues ++ logLevel.issues ++ logToFile.issues
      ++ logFile.issues ++ colorized.issues)

/-- The settings as data; the log file as seen from the working directory. -/
def payload (here : String) (s : Settings) : Json :=
  .obj [(Key.waitTimeout.name, .int s.waitTimeout), (Key.pollInterval.name, .int s.pollInterval),
    (Key.logLevel.name, .str s.logLevel.name), (Key.logToFile.name, .bool s.logToFile),
    (Key.logFile.name, .str (s.logFile.textFrom here)), (Key.colorized.name, .bool s.colorized)]

end Settings

end UiTree
