import UiTree.Page.Locator

/-!
# Expectations — conditions that must come to hold

An expectation polls a locator until its check holds.  A tree that cannot be read, or a selector
that cannot be resolved in it, counts as no element; an attribute of the element that cannot be
read counts as a failed attempt.
-/

namespace UiTree

open UiTree.Text Session

/-- What can be expected of an element. -/
inductive Check
  | exists
  | notExists
  | enabled
  | disabled
  | focused
  | text (s : String)
  | exactText (s : String)
  | value (s : String)
  | containsValue (s : String)
  deriving DecidableEq, Repr

namespace Check

def description : Check → String
  | .exists => "exists"
  | .notExists => "not exists"
  | .enabled => "enabled"
  | .disabled => "disabled"
  | .focused => "focused"
  | .text s => s!"text contains {quoted s}"
  | .exactText s => s!"text equals {quoted s}"
  | .value s => s!"value equals {quoted s}"
  | .containsValue s => s!"value contains {quoted s}"

/-- The attributes of the element that a check looks at. -/
def reads : Check → List Attribute
  | .exists | .notExists => []
  | .enabled | .disabled => [.enabled]
  | .focused => [.focused]
  | .text _ | .exactText _ => Element.textReads
  | .value _ | .containsValue _ => [.value]

/-- Whether a check holds of the element found, or of none. -/
def holds : Check → Option Attributes → Bool
  | .notExists, a => a.isNone
  | _, none => false
  | .exists, some _ => true
  | .enabled, some a => a.enabled
  | .disabled, some a => !a.enabled
  | .focused, some a => a.focused
  | .text s, some a => Selector.containsFolded s (Element.text a)
  | .exactText s, some a => Element.text a == s
  | .value s, some a => a.value == some s
  | .containsValue s, some a => a.value.any (Selector.containsFolded s)

/-- A check by its name, with the text it is about. -/
def ofName? (name text : String) : Option Check :=
  match name with
  | "to_exist" => some .exists
  | "to_not_exist" => some .notExists
  | "to_be_enabled" => some .enabled
  | "to_be_disabled" => some .disabled
  | "to_be_focused" => some .focused
  | "to_have_text" => some (.text text)
  | "to_have_exact_text" => some (.exactText text)
  | "to_have_value" => some (.value text)
  | "to_contain_value" => some (.containsValue text)
  | _ => none

end Check

structure Expectation where
  locator : Locator
  timeout : Int
  interval : Int
  deriving Repr

namespace Expectation

/-- Timeout and interval are those of the locator unless given. -/
def ofLocator (locator : Locator) (timeout interval : Option Int) : Expectation :=
  { locator, timeout := timeout.getD locator.timeout, interval := interval.getD locator.interval }

def withTimeout (e : Expectation) (timeout : Int) : Expectation := { e with timeout }

def text (e : Expectation) : String :=
  s!"Expectation(locator={e.locator.text}, timeout_ms={e.timeout}, interval_ms={e.interval})"

def logger : String := Record.loggerName "core.expect"

/-- The element as it is now; nothing if it cannot be resolved for whatever failure. -/
def current (e : Expectation) : Effect (Option Target) :=
  tryCatch e.locator.tryResolve fun
    | .failure f => do
      let shown := quoted e.locator.selector
      note { level := .debug, logger
             message := s!"Resolving {shown} failed, treating as absent: {f.shown}" }
      return none
    | .interrupt i => throw (.interrupt i)

def wait (e : Expectation) (c : Check) : Wait :=
  { timeout := e.timeout, interval := e.interval, label := e.locator.selector
    condition := some c.description }

/-- One look at the element. -/
def attempt (e : Expectation) (c : Check) : Effect (Option Unit) := do
  let found ← match ← e.current with
    | none => pure none
    | some t => some <$> look t c.reads
  return if c.holds found then some () else none

/-- Polls until the check holds.  A selector that is malformed fails at once. -/
def check (e : Expectation) (c : Check) : Effect Unit := do
  let _ ← e.locator.parse
  waitFor (e.wait c) (e.attempt c)

end Expectation

end UiTree
