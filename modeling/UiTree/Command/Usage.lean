import UiTree.Text.Quoted
import UiTree.Text.Similar

/-!
# Usage — what the commands take, and what is said when it is not that
-/

namespace UiTree.Command

open UiTree.Text

def program : String := "treewright"

/-- The names of the commands. -/
inductive Name
  | config
  | parse
  | tree
  | find
  | expect
  deriving DecidableEq, Repr

namespace Name

def all : List Name := [.config, .parse, .tree, .find, .expect]

def text : Name → String
  | .config => "config"
  | .parse => "parse"
  | .tree => "tree"
  | .find => "find"
  | .expect => "expect"

def ofText? (s : String) : Option Name := all.find? (·.text == s)

theorem ofText?_text (n : Name) : ofText? n.text = some n := by
  cases n <;> decide

end Name

/-! ## Operands -/

/-- What an expectation can be about. -/
def conditions : List String := ["exists", "not-exists", "enabled", "disabled", "focused"]

def conditionHint : String := "\x7b" ++ "|".intercalate conditions ++ "\x7d"

/-- What the operands of a command are called. -/
def operandNames : Name → List String
  | .config => []
  | .parse => ["SELECTOR"]
  | .tree => ["SNAPSHOT"]
  | .find => ["SNAPSHOT", "SELECTOR"]
  | .expect => ["SNAPSHOT", "SELECTOR", conditionHint]

/-! ## Options -/

structure Grammar where
  /-- Options with a value. -/
  valued : List String
  /-- Options without one. -/
  flags : List String
  /-- The long names, for suggestions. -/
  long : List String
  /-- Options may come after operands. -/
  interspersed : Bool

/-- The options before a command. -/
def outer : Grammar :=
  { valued := ["--log-level", "--log-file"], flags := ["--version", "-h", "--help"]
    long := ["--log-level", "--log-file", "--version", "--help"], interspersed := false }

/-- The options of a command. -/
def inner : Name → Grammar
  | .expect =>
    { valued := ["--timeout"], flags := ["-h", "--help"], long := ["--timeout", "--help"]
      interspersed := true }
  | _ => { valued := [], flags := ["-h", "--help"], long := ["--help"], interspersed := true }

/-! ## Usage -/

/-- The program itself, or one of its commands. -/
abbrev Scope := Option Name

def path : Scope → String
  | none => program
  | some n => s!"{program} {n.text}"

/-- The usage in one line; that of a long one goes on below its operands. -/
def usage : Scope → String
  | none => s!"Usage: {program} [OPTIONS] COMMAND [ARGS]..."
  | some .expect =>
    s!"Usage: {program} expect [OPTIONS] SNAPSHOT SELECTOR \x7bexists|not-\n"
      ++ "                         exists|enabled|disabled|focused\x7d"
  | some n =>
    let command := n.text
    " ".intercalate (s!"Usage: {program} {command} [OPTIONS]" :: operandNames n)

/-- Why the arguments cannot be used. -/
inductive Misuse
  | unknownOption (name : String) (near : List String)
  | missingValue (option : String)
  | needlessValue (option : String)
  | unknownCommand (name : String) (near : List String)
  | missingCommand
  | missingOperand (name : String)
  | extraOperands (operands : List String)
  | notAmong (hint value : String) (choices : List String)
  | notInteger (hint value : String)
  | directory (hint path : String)
  deriving DecidableEq, Repr

namespace Misuse

/-- Names that may have been meant. -/
def suggestion : List String → String
  | [] => ""
  | [name] =>
    let name := quoted name
    s!" Did you mean {name}?"
  | names =>
    let names := ", ".intercalate ((names.mergeSort fun a b => !(b < a)).map quoted)
    s!" (Did you mean one of: {names}?)"

def message : Misuse → String
  | .unknownOption name near =>
    let name := quoted name
    s!"No such option {name}." ++ suggestion near
  | .missingValue option => s!"Option '{option}' requires an argument."
  | .needlessValue option => s!"Option '{option}' does not take a value."
  | .unknownCommand name near =>
    let name := quoted name
    s!"No such command {name}." ++ suggestion near
  | .missingCommand => "Missing command."
  | .missingOperand name =>
    let choices :=
      if name == conditionHint then
        " Choose from:\n\t" ++ ",\n\t".intercalate conditions
      else ""
    s!"Missing argument '{name}'." ++ choices
  | .extraOperands operands =>
    let shown := " ".intercalate operands
    match operands with
    | [_] => s!"Got unexpected extra argument ({shown})"
    | _ => s!"Got unexpected extra arguments ({shown})"
  | .notAmong hint value choices =>
    let value := quoted value
    let choices := ", ".intercalate (choices.map quoted)
    s!"Invalid value for '{hint}': {value} is not one of {choices}."
  | .notInteger hint value =>
    let value := quoted value
    s!"Invalid value for '{hint}': {value} is not a valid integer."
  | .directory hint path =>
    let path := quoted path
    s!"Invalid value for '{hint}': File {path} is a directory."

/-- What is wrong with the form of an option is told without the usage. -/
def showsUsage : Misuse → Bool
  | .missingValue _ | .needlessValue _ => false
  | _ => true

/-- The whole complaint about the arguments of a scope. -/
def text (scope : Scope) (m : Misuse) : String :=
  let message := m.message
  let complaint := s!"Error: {message}\n"
  if m.showsUsage then
    let usage := usage scope
    let path := path scope
    s!"{usage}\nTry '{path} --help' for help.\n\n" ++ complaint
  else complaint

end Misuse

end UiTree.Command
