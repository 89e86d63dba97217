import UiTree.Failure
import UiTree.Validation.Issue

/-!
# Faults — failures, and data that did not pass their checks
-/

namespace UiTree

inductive Fault
  | failure (f : Failure)
  | invalid (issues : List Issue)
  /-- A text that could not be read, by the kind of what it failed with and its message. -/
  | unread (kind message : String)
  deriving Repr

namespace Fault

def kind : Fault → String
  | .failure f => f.kind
  | .invalid _ => "ValidationError"
  | .unread kind _ => kind

def message : Fault → String
  | .failure f => f.message
  | .invalid issues => Issue.summary issues
  | .unread _ message => message

end Fault

end UiTree
