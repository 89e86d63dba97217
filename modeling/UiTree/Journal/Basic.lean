import UiTree.Journal.Record
import UiTree.Journal.Template
import UiTree.Settings.Load
import UiTree.Text.Case

/-!
# Journal — where records go

Records pass a level of the whole journal and one of each handler.  Context bound to the journal
goes into every record; a logger may carry a context of its own, fixed when it was made.  The
journal is configured from the settings when it is first used.

A console that is among the handlers may fail at a record, and then the call that logs it fails, and
the handlers behind the console do not get the record.
-/

namespace UiTree

open UiTree.Text

/-- A record as it is logged: the values are not in the places of its message yet. -/
structure Draft where
  time : String
  level : Level
  logger : String
  template : String
  values : List Json := []
  exception? : Option String := none
  context : Context := []
  deriving Repr

namespace Draft

/-- The record, if the values fit. -/
def record? (d : Draft) : Option Record :=
  (Template.fill d.template d.values).map fun message =>
    { level := d.level, logger := d.logger, message
      exception? := d.exception?, context := d.context }

/-- The line of the record, if it has one. -/
def line? (d : Draft) : Option String := d.record?.bind (Record.line? d.time)

end Draft

inductive Sink
  | console (markup : Bool)
  | file (l : Location)
  deriving DecidableEq, Repr

/-- What a console fails with at a record, if it does not take it.  One that reads markup fails at
texts that are no markup, and any console fails at values that do not fit. -/
abbrev Console := Bool → Draft → Option Failure

structure Handler where
  number : Nat
  sink : Sink
  level : Int
  deriving DecidableEq, Repr

/-- What a handler fails with at a record.  A file never fails: it may just stay without it. -/
def Handler.failure? (console : Console) (h : Handler) (d : Draft) : Option Failure :=
  match h.sink with
  | .console markup => console markup d
  | .file _ => none

structure Journal where
  folder : Folder
  environment : Environment := []
  configured : Bool := false
  console : Console := fun _ _ => none
  level : Int := Level.info.number
  handlers : List Handler := []
  bound : Context := []
  /-- Handlers made so far. -/
  made : Nat := 0

/-- A name to log under, with a context of its own or the one that is bound at the time. -/
structure Logger where
  name : String
  scope : Option Context := none
  deriving Repr

/-- A step of a journal, which changes it even if it ends with a fault. -/
abbrev Logging := ExceptT Fault (StateM Journal)

namespace Journal

def fail {α : Type} (f : Failure) : Logging α := throw (.failure f)

/-! ## Context -/

/-- A context overridden and extended by another. -/
def overlay (context extra : Context) : Context :=
  extra.foldl (fun c (k, v) => Json.insertMember k v c) context

def bind (fields : Context) : Logging Unit :=
  modify fun j => { j with bound := overlay j.bound fields }

def unbind (keys : List String) : Logging Unit :=
  modify fun j => { j with bound := j.bound.filter fun (k, _) => !keys.contains k }

/-! ## Handlers -/

def addHandler (sink : Sink) (level : Int) : Logging Handler := do
  let j ← get
  let handler : Handler := { number := j.made, sink, level }
  set { j with handlers := j.handlers ++ [handler], made := j.made + 1 }
  return handler

/-- The failure of a directory that could not be made, as told of a path. -/
def obstruction (path : String) : Folder.Obstacle → Failure
  | .occupied _ => .occupied path
  | .blocked _ => .blocked path

/-- Takes level and handlers from the settings.  If the directory of the log file cannot be made,
the journal stays without that handler and not configured. -/
def configure : Logging Unit := do
  let j ← get
  if j.configured then return
  let settings ← Settings.load j.folder j.environment []
  let level := settings.logLevel.number
  set { j with level, handlers := [] }
  let _ ← addHandler (.console settings.colorized) level
  if settings.logToFile then
    let directory := settings.logFile.parent
    match j.folder.makeDirectories directory with
    | .error o => fail (obstruction (directory.textFrom j.folder.here) o)
    | .ok folder =>
      modify fun j => { j with folder }
      let _ ← addHandler (.file settings.logFile.simplified) level
  modify fun j => { j with configured := true }

/-- Adds a file, with a level or else that of the journal. -/
def attach (path : Location) (level : Option Int) : Logging Handler := do
  configure
  let j ← get
  let path := path.simplified
  match j.folder.makeDirectories path.parent with
  | .error (.occupied l) => fail (.occupied (l.textFrom j.folder.here))
  | .error (.blocked l) => fail (.blocked (l.textFrom j.folder.here))
  | .ok folder =>
    set { j with folder }
    addHandler (.file path) (level.getD j.level)

def detach (number : Nat) : Logging Unit :=
  modify fun j => { j with handlers := j.handlers.filter (·.number != number) }

/-! ## Levels -/

def levelNames : List (String × Int) :=
  [("CRITICAL", 50), ("FATAL", 50), ("ERROR", 40), ("WARN", 30), ("WARNING", 30), ("INFO", 20),
   ("DEBUG", 10), ("NOTSET", 0)]

/-- Names that stand for something else than a level, and what is said of them. -/
def misleadingNames : List (String × Failure) :=
  [("BASIC_FORMAT",
      .foreign "ValueError" [.str "Unknown level: '%(levelname)s:%(name)s:%(message)s'"]),
   ("_STYLES",
      .foreign "TypeError" [.str ("Level not an integer or a valid string: "
        ++ "\x7b'%': (<class 'logging.PercentStyle'>, '%(levelname)s:%(name)s:%(message)s'), "
        ++ "'\x7b': (<class 'logging.StrFormatStyle'>, "
        ++ "'\x7blevelname\x7d:\x7bname\x7d:\x7bmessage\x7d'), "
        ++ "'$': (<class 'logging.StringTemplateStyle'>, "
        ++ "'$\x7blevelname\x7d:$\x7bname\x7d:$\x7bmessage\x7d')\x7d")])]

/-- The level of a name in whatever case; info for names that stand for nothing. -/
def levelOf (name : String) : Except Failure Int :=
  let name := capitals name
  match misleadingNames.lookup name with
  | some f => .error f
  | none => .ok ((levelNames.lookup name).getD Level.info.number)

/-- Sets the level of the journal and of all its handlers. -/
def setLevel (name : String) : Logging Unit := do
  configure
  match levelOf name with
  | .error f => fail f
  | .ok level =>
    modify fun j =>
      { j with level, handlers := j.handlers.map fun h => { h with level } }

/-- The level that counts: one that is not set lets warnings pass. -/
def threshold (j : Journal) : Int :=
  if j.level == 0 then Level.warning.number else j.level

/-! ## Loggers -/

/-- The full name of a logger. -/
def fullName (name : String) : String :=
  if name.isEmpty then "treewright"
  else if name == "treewright" || "treewright.".isPrefixOf name then name
  else Record.loggerName name

def logger (name : String) : Logging Logger := do
  configure
  return { name := fullName name }

/-- The name that a context cannot have: it is that of the logger itself. -/
def takenName : String := "logger"

/-- A logger with what is bound now, and a context on top. -/
def withContext (l : Logger) (context : Context) : Logging Logger := do
  if (context.lookup takenName).isSome then
    let name := takenName
    fail (.foreign "TypeError"
      [.str s!"log_with_context() got multiple values for argument '{name}'"])
  else return { l with scope := some (overlay (← get).bound context) }

/-! ## Records -/

/-- The folder after a handler got a line; one that has no text only makes the file. -/
def write (folder : Folder) (handler : Handler) (line : Option String) : Folder :=
  match handler.sink with
  | .console _ => folder
  | .file l =>
    if folder.isDirectory l then folder
    else match line with
      | some line => folder.append l (line ++ "\n")
      | none => folder.append l ""

/-- The handlers that a record is due to: it passes the level of the journal and their own. -/
def due (j : Journal) (d : Draft) : List Handler :=
  if j.threshold ≤ d.level.number then j.handlers.filter fun h => h.level ≤ d.level.number
  else []

/-- Those of them that get the record: no one that fails at it, nor any behind. -/
def reached (j : Journal) (d : Draft) : List Handler :=
  (j.due d).takeWhile fun h => (h.failure? j.console d).isNone

/-- Hands a record to the handlers that it is due to in turn, up to one that fails. -/
def emit (d : Draft) : Logging Unit := do
  let j ← get
  set { j with folder := (j.reached d).foldl (fun folder h => write folder h d.line?) j.folder }
  match (j.due d).findSome? (·.failure? j.console d) with
  | some f => fail f
  | none => return

/-- Logs a record with what is bound; its own context comes on top. -/
def record (time : String) (r : Record) : Logging Unit := do
  let context := overlay (← get).bound r.context
  emit { time, level := r.level, logger := r.logger, template := r.message
         exception? := r.exception?, context }

/-- Logs a message with values in its places. -/
def log (time : String) (l : Logger) (level : Level) (template : String) (values : List Json)
    (exception? : Option String) : Logging Unit := do
  let context := l.scope.getD (← get).bound
  emit { time, level, logger := l.name, template, values, exception?, context }

end Journal

end UiTree
