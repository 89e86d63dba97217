import UiTree.Json.Value

/-!
# Failures — what an operation can end with instead of a result

A `Failure` may be absorbed and retried.  An `Interrupt` never is: it leaves every operation at
once.  Providers and input backends raise failures of their own.  Their classes are known by name
only: a name stands for one class.
-/

namespace UiTree

open UiTree.Text

inductive Failure
  | invalidSelector (message : String)
  | elementNotFound (selector : String)
  | waitTimeout (selector : String) (timeout : Int) (condition : Option String)
  | actionFailed (action reason : String)
  | invalidKey (key reason : String)
  | permissionDenied (message : String)
  | unspecified (arguments : List Json)
  | foreign (kind : String) (arguments : List Json)
  deriving Inhabited, Repr

inductive Interrupt
  | keyboard (arguments : List Json)
  | exit (arguments : List Json)
  deriving Inhabited, Repr

inductive Raised
  | failure (f : Failure)
  | interrupt (i : Interrupt)
  deriving Inhabited, Repr

namespace Failure

/-! ## Kinds -/

/-- The name of the class of a failure, which stands for the class. -/
def kind : Failure → String
  | .invalidSelector _ => "InvalidSelector"
  | .elementNotFound _ => "ElementNotFound"
  | .waitTimeout _ _ _ => "WaitTimeout"
  | .actionFailed _ _ => "ActionFailed"
  | .invalidKey _ _ => "InvalidKey"
  | .permissionDenied _ => "PermissionDenied"
  | .unspecified _ => "WrightError"
  | .foreign kind _ => kind

/-- Failures of this library, as opposed to those of a provider or backend. -/
def isOwn : Failure → Bool
  | .foreign _ _ => false
  | _ => true

/-- The kinds an operating system call fails with, by error number. -/
def systemKinds : List (Int × String) :=
  [(1, "PermissionError"), (2, "FileNotFoundError"), (3, "ProcessLookupError"),
   (4, "InterruptedError"), (10, "ChildProcessError"), (11, "BlockingIOError"),
   (13, "PermissionError"), (17, "FileExistsError"), (20, "NotADirectoryError"),
   (21, "IsADirectoryError"), (32, "BrokenPipeError"), (103, "ConnectionAbortedError"),
   (104, "ConnectionResetError"), (108, "BrokenPipeError"), (110, "TimeoutError"),
   (111, "ConnectionRefusedError"), (114, "BlockingIOError"), (115, "BlockingIOError")]

def isSystem (kind : String) : Bool :=
  kind == "OSError" || systemKinds.any (·.2 == kind)

/-- A system failure with an error number takes the kind of that number. -/
def system (arguments : List Json) : Failure :=
  match arguments with
  | [.int number, _] | [.int number, _, _] =>
    .foreign ((systemKinds.lookup number).getD "OSError") arguments
  | _ => .foreign "OSError" arguments

/-! ## Files -/

/-- A file is not there. -/
def missing (message : String) : Failure := .foreign "FileNotFoundError" [.str message]

/-- A directory stands where a file should be. -/
def directory (path : String) : Failure :=
  .system [.int 21, .str "Is a directory", .str path]

/-- A file stands where a directory should be. -/
def occupied (path : String) : Failure :=
  .system [.int 17, .str "File exists", .str path]

/-- A file stands in the way to a directory. -/
def blocked (path : String) : Failure :=
  .system [.int 20, .str "Not a directory", .str path]

/-- Octets that are no text. -/
def undecodable : Failure := .foreign "UnicodeDecodeError" []

/-! ## Texts -/

/-- What a denied permission says unless told otherwise. -/
def noPermission : String := "Accessibility permission denied"

/-- The text of a failure that was given several arguments. -/
def argumentsText : List Json → String
  | [] => ""
  | [v] => v.plain
  | vs => "(" ++ ", ".intercalate (Json.literals vs) ++ ")"

def timeoutText (selector : String) (timeout : Int) (condition : Option String) : String :=
  let what := match condition with
    | some c => if c.isEmpty then selector else s!"{selector} ({c})"
    | none => selector
  s!"Timeout after {timeout} ms waiting for: {what}"

def foreignText (kind : String) (arguments : List Json) : String :=
  if kind == "KeyError" then
    match arguments with
    | [v] => v.literal
    | vs => argumentsText vs
  else if isSystem kind then
    match arguments with
    | [number, reason] => s!"[Errno {number.plain}] {reason.plain}"
    | [number, reason, file] => s!"[Errno {number.plain}] {reason.plain}: {file.literal}"
    | vs => argumentsText vs
  else argumentsText arguments

def message : Failure → String
  | .invalidSelector message => s!"Invalid selector: {message}"
  | .elementNotFound selector => s!"Element not found: {selector}"
  | .waitTimeout selector timeout condition => timeoutText selector timeout condition
  | .actionFailed action reason => s!"Action '{action}' failed: {reason}"
  | .invalidKey _ reason => s!"Action 'press_key' failed: {reason}"
  | .permissionDenied message => message
  | .unspecified arguments => argumentsText arguments
  | .foreign kind arguments => foreignText kind arguments

/-- The failure as a log line shows it: its kind around what it was given. -/
def shown (f : Failure) : String :=
  match f with
  | .foreign kind arguments => s!"{kind}({literalArguments (systemArguments kind arguments)})"
  | .unspecified arguments => s!"WrightError({literalArguments arguments})"
  | f => s!"{f.kind}({quoted f.message})"
where
  literalArguments (vs : List Json) : String := ", ".intercalate (Json.literals vs)
  /-- A file name given to a system failure is not among its arguments. -/
  systemArguments (kind : String) (vs : List Json) : List Json :=
    if isSystem kind && vs.length == 3 then vs.take 2 else vs

/-- What the failure holds, by name and in the order of the names. -/
def fields : Failure → List (String × Json)
  | .invalidSelector message => [("message", .str message)]
  | .elementNotFound selector => [("selector", .str selector)]
  | .waitTimeout selector timeout condition =>
    [("condition", (condition.map Json.str).getD .null), ("selector", .str selector),
     ("timeout_ms", .int timeout)]
  | .actionFailed action reason => [("action", .str action), ("reason", .str reason)]
  | .invalidKey key reason =>
    [("action", .str "press_key"), ("key", .str key), ("reason", .str reason)]
  | .permissionDenied _ | .unspecified _ | .foreign _ _ => []

/-- The wider kinds a failure counts among. -/
def families (f : Failure) : List String :=
  let own := if f.isOwn then ["WrightError", "RuntimeError"] else []
  match f with
  | .waitTimeout _ _ _ => own ++ ["TimeoutError", "OSError"]
  | .actionFailed _ _ | .invalidKey _ _ => own ++ ["ActionFailed"]
  | .foreign kind _ =>
    if kind == "RuntimeError" then [kind]
    else if kind == "TimeoutError" then [kind, "OSError"]
    else if isSystem kind then ["OSError"]
    else []
  | _ => own

/-- The text of a failure, or its kind if that is empty: never an empty reason. -/
def reason (f : Failure) : String :=
  if f.message.isEmpty then f.kind else f.message

theorem reason_of_message_ne {f : Failure} (h : f.message.isEmpty = false) :
    f.reason = f.message := by
  simp [reason, h]

end Failure

namespace Interrupt

def kind : Interrupt → String
  | .keyboard _ => "KeyboardInterrupt"
  | .exit _ => "SystemExit"

def message : Interrupt → String
  | .keyboard arguments => Failure.argumentsText arguments
  | .exit arguments => Failure.argumentsText arguments

end Interrupt

namespace Raised

def kind : Raised → String
  | .failure f => f.kind
  | .interrupt i => i.kind

def message : Raised → String
  | .failure f => f.message
  | .interrupt i => i.message

/-- The text of what was raised under the name of its kind. -/
def headline (r : Raised) : String :=
  if r.message.isEmpty then r.kind else s!"{r.kind}: {r.message}"

def families : Raised → List String
  | .failure f => f.families
  | .interrupt _ => []

def fields : Raised → List (String × Json)
  | .failure f => f.fields
  | .interrupt _ => []

/-- What is raised by the name of its kind and the arguments it is given. -/
def ofKind (kind : String) (arguments : List Json) : Raised :=
  match kind, arguments with
  | "InvalidSelector", [message] => .failure (.invalidSelector message.plain)
  | "ElementNotFound", [selector] => .failure (.elementNotFound selector.plain)
  | "WaitTimeout", [selector, .int timeout] => .failure (.waitTimeout selector.plain timeout none)
  | "WaitTimeout", [selector, .int timeout, .str condition] =>
    .failure (.waitTimeout selector.plain timeout (some condition))
  | "WaitTimeout", [selector, .int timeout, .null] =>
    .failure (.waitTimeout selector.plain timeout none)
  | "ActionFailed", [action, reason] => .failure (.actionFailed action.plain reason.plain)
  | "InvalidKey", [key, reason] => .failure (.invalidKey key.plain reason.plain)
  | "PermissionDenied", [] => .failure (.permissionDenied Failure.noPermission)
  | "PermissionDenied", [message] => .failure (.permissionDenied message.plain)
  | "WrightError", _ => .failure (.unspecified arguments)
  | "KeyboardInterrupt", _ => .interrupt (.keyboard arguments)
  | "SystemExit", _ => .interrupt (.exit arguments)
  | "OSError", _ => .failure (.system arguments)
  | kind, arguments => .failure (.foreign kind arguments)

instance : Coe Failure Raised := ⟨.failure⟩

end Raised

end UiTree
