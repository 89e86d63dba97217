import UiTree.Journal.Record

/-!
# Waits — trying again until a deadline

An attempt comes to a value, to nothing yet, or to something raised.  A failure is remembered and
tried again; an interrupt ends the wait at once.  At the deadline the last failure is the outcome,
or a timeout if there was none.
-/

namespace UiTree

open UiTree.Text

/-- What is waited for, and for how long. -/
structure Wait where
  timeout : Int := 10000
  interval : Int := 100
  label : String := ""
  condition : Option String := none
  deriving Repr

/-- What an attempt comes to. -/
inductive Reply (α : Type)
  | nothing
  | value (a : α)
  | raised (r : Raised)

namespace Reply

/-- The reply of a step that came to a value, to none, or to something raised. -/
def ofResult {α : Type} : Except Raised (Option α) → Reply α
  | .ok (some a) => .value a
  | .ok none => .nothing
  | .error r => .raised r

/-- The reply of a predicate: a value that counts as false is nothing yet, and any other is worth
`done`. -/
def truth {α β : Type} (isTrue : α → Bool) (done : β) : Reply α → Reply β
  | .nothing => .nothing
  | .value a => if isTrue a then .value done else .nothing
  | .raised r => .raised r

end Reply

namespace Wait

def budget (w : Wait) : Int := max 0 w.timeout

/-- The pause between two attempts is never empty. -/
def pause (w : Wait) : Int := max 1 w.interval

def deadlineFrom (w : Wait) (start : Int) : Int := start + w.budget

theorem pause_pos (w : Wait) : 1 ≤ w.pause := by
  unfold pause; omega

/-! ## Notes

Lines are logged as the wait goes on.  Logging a line is assumed not to fail. -/

def note (message : String) : Record :=
  { level := .debug, logger := Record.loggerName "core.waiter", message }

/-- A failure is noted unless the one before it was of the same kind.  Two classes of failures that
share a name count as one kind. -/
def retryNotes (w : Wait) (mark : String) (last : Option Failure) (f : Failure) : List Record :=
  if last.any (·.kind == f.kind) then []
  else [note s!"{mark}Attempt for {quoted w.label} raised {f.shown}; still polling"]

def expiryNote (w : Wait) : Option Failure → Record
  | some f =>
    note s!"Wait for {quoted w.label} expired after {w.timeout} ms; raising last error: {f.shown}"
  | none => note s!"Wait for {quoted w.label} timed out after {w.timeout} ms"

/-- The failure at the deadline. -/
def expiry (w : Wait) (last : Option Failure) : Failure :=
  last.getD (.waitTimeout w.label w.timeout w.condition)

end Wait

end UiTree
