import UiTree.Page.Dispatcher
import UiTree.Selector.Reader

/-!
# Locators — elements found anew every time

A locator is a selector with the time to wait for it.  It looks at the current tree whenever it is
used and keeps nothing in between.
-/

namespace UiTree

open UiTree.Text Session

structure Locator where
  selector : String
  timeout : Int
  interval : Int
  deriving Repr

/-- What an element must be besides found. -/
inductive Condition
  | any
  | enabled
  | focused
  | hasValue
  deriving DecidableEq, Repr

namespace Condition

/-- The attributes that a condition looks at. -/
def reads : Condition → List Attribute
  | .any => []
  | .enabled => [.enabled]
  | .focused => [.focused]
  | .hasValue => [.value]

def holds (c : Condition) (a : Attributes) : Bool :=
  match c with
  | .any => true
  | .enabled => a.enabled
  | .focused => a.focused
  | .hasValue => a.value.any (!·.isEmpty)

/-- Whether the condition holds of an element, as far as that can be read. -/
def met (c : Condition) (t : Target) : Effect Bool := do
  return c.holds (← look t c.reads)

def ofName? : String → Option Condition
  | "any" => some .any
  | "enabled" => some .enabled
  | "focused" => some .focused
  | "has_value" => some .hasValue
  | _ => none

end Condition

namespace Locator

def withTimeout (l : Locator) (timeout : Int) : Locator := { l with timeout }

def text (l : Locator) : String :=
  s!"Locator(selector={quoted l.selector}, timeout_ms={l.timeout}, interval_ms={l.interval})"

def logger : String := Record.loggerName "core.locator"

def wait (l : Locator) (condition : Option String) : Wait :=
  { timeout := l.timeout, interval := l.interval, label := l.selector, condition }

def parse (l : Locator) : Effect Selector :=
  ofParsed (Selector.parse l.selector)

/-! ## Resolution -/

/-- Everything the selector finds in the current tree. -/
def search (l : Locator) : Effect (List Target) := do
  let selector ← l.parse
  let i ← readSource
  let tree := ((← get).frame i).tree
  check i (selector.readings tree)
  return (selector.find tree).map fun n => { frame := i, path := n.path }

/-- The first element found. -/
def resolve (l : Locator) : Effect Target := do
  match ← l.search with
  | t :: _ => return t
  | [] => fail (.elementNotFound l.selector)

/-- Nothing instead of a failure to find the element, whoever reports it. -/
def tryResolve (l : Locator) : Effect (Option Target) := do
  tryCatch (some <$> l.resolve) fun
    | .failure (.elementNotFound _) => return none
    | r => throw r

/-- One look for an element that passes a test. -/
def attemptBy (l : Locator) (test : Target → Effect Bool) : Effect (Option Target) := do
  match ← l.tryResolve with
  | none => return none
  | some t => return if ← test t then some t else none

/-- Polls until an element is found that passes a test.  A selector that is malformed fails at
once. -/
def waitForElementBy (l : Locator) (test : Target → Effect Bool) (description : Option String) :
    Effect Target := do
  let _ ← l.parse
  waitFor (l.wait description) (l.attemptBy test)

/-- One look for an element that meets the condition. -/
def attempt (l : Locator) (condition : Condition) : Effect (Option Target) :=
  l.attemptBy condition.met

/-- Polls until an element is found that meets the condition. -/
def waitForElement (l : Locator) (condition : Condition) (description : Option String) :
    Effect Target :=
  l.waitForElementBy condition.met description

/-! ## Actions -/

/-- Focus needs an element only, every other action an enabled one. -/
def needed : Action → Condition × String
  | .focus => (.any, "exists")
  | _ => (.enabled, "enabled")

def actionNote (l : Locator) (a : Action) : Record :=
  { level := .info, logger, message := s!"{a.name} -> {l.selector}"
    context := [("selector", .str l.selector), ("action", .str a.name)] }

/-- Waits for the element and calls a method of the dispatcher on it, once.  The line about it comes
first; the method is called because logging the line is assumed not to fail. -/
def actWith {α : Type} (l : Locator) (a : Action) (method : Target → Effect α) : Effect Unit := do
  let (condition, description) := needed a
  let t ← l.waitForElement condition (some description)
  note (l.actionNote a)
  let _ ← dispatch a.name (method t)

/-- An action; the text is for those that take one. -/
def act (l : Locator) (a : Action) (text : String) : Effect Unit :=
  l.actWith a fun t => perform a t text

/-! ## Values -/

def textContent (l : Locator) : Effect String := do
  let t ← l.waitForElement .any (some "exists")
  return Element.text (← look t Element.textReads)

def getValue (l : Locator) : Effect (Option String) := do
  let t ← l.waitForElement .any (some "exists")
  return (← look t [.value]).value

/-! ## Queries -/

/-- A single attempt, with a fallback for every failure. -/
def singleShot {α : Type} (l : Locator) (fallback : α) (query : Effect α) : Effect α :=
  tryCatch query fun
    | .failure f => do
      note { level := .debug, logger
             message := s!"{quoted l.selector} query failed, treating as empty: {f.shown}" }
      return fallback
    | .interrupt i => throw (.interrupt i)

def isVisible (l : Locator) : Effect Bool :=
  l.singleShot false do return (← l.tryResolve).isSome

def isEnabled (l : Locator) : Effect Bool :=
  l.singleShot false do
    match ← l.tryResolve with
    | none => return false
    | some t => return (← look t [.enabled]).enabled

def all (l : Locator) : Effect (List Target) :=
  l.singleShot [] l.search

def count (l : Locator) : Effect Nat := do
  return (← l.all).length

end Locator

namespace Session

/-- A locator of the page, with its timeout unless another is given. -/
def locator (s : Session) (selector : String) (timeout : Option Int) : Locator :=
  { selector, timeout := timeout.getD s.timeout, interval := s.interval }

/-- The current tree as text. -/
def treeSnapshot : Effect String := do
  let i ← readSource
  let tree := ((← get).frame i).tree
  check i tree.renderReadings
  return tree.render 0

end Session

end UiTree
