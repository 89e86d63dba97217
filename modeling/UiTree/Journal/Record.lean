import UiTree.Failure
import UiTree.Json.Writer

/-!
# Records — what is written to the log

A record has a level, the name of its logger, a message and the context that was bound to it.  Its
line is one object: these fields, then the context, whose keys override them.
-/

namespace UiTree

inductive Level
  | debug
  | info
  | warning
  | error
  | critical
  deriving DecidableEq, Repr, Inhabited

namespace Level

def number : Level → Int
  | .debug => 10
  | .info => 20
  | .warning => 30
  | .error => 40
  | .critical => 50

def name : Level → String
  | .debug => "DEBUG"
  | .info => "INFO"
  | .warning => "WARNING"
  | .error => "ERROR"
  | .critical => "CRITICAL"

def all : List Level := [.debug, .info, .warning, .error, .critical]

def ofName? (name : String) : Option Level := all.find? (·.name == name)

theorem name_of_ofName? {name : String} {l : Level} (h : ofName? name = some l) :
    l.name = name := by
  have hfound := List.find?_some h
  exact beq_iff_eq.mp hfound

end Level

abbrev Context := List (String × Json)

structure Record where
  level : Level
  logger : String
  message : String
  /-- The text of the exception that the record tells of. -/
  exception? : Option String := none
  context : Context := []
  deriving Repr

namespace Record

/-- The fields of the record itself. -/
def fields (r : Record) : List (String × Json) :=
  [("level", .str r.level.name), ("logger", .str r.logger), ("msg", .str r.message)]
    ++ (r.exception?.map fun text => ("exc_info", Json.str text)).toList

/-- Fields overridden and extended by a context. -/
def withContext (fields : List (String × Json)) (context : Context) : List (String × Json) :=
  context.foldl (fun fields (k, v) => Json.insertMember k v fields) fields

/-- The record with the time it was made. -/
def payload (time : String) (r : Record) : Json :=
  .obj (withContext (("ts", .str time) :: r.fields) r.context)

def line (time : String) (r : Record) : String :=
  (r.payload time).write false

/-- The line, if the record can be written. -/
def line? (time : String) (r : Record) : Option String :=
  if (r.payload time).isWritable then some (r.line time) else none

/-- The name of a logger of this package. -/
def loggerName (part : String) : String := "treewright." ++ part

end Record

end UiTree
