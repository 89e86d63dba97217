import UiTree.Element.Outage
import UiTree.KeyChord
import UiTree.Wait.Polling

/-!
# Sessions — a page over a tree that may change

The tree comes from a source.  A fixed source is one tree; a live one is asked anew every time, and
answers with the first of its frames that is still current, or fails.  The session keeps the clock,
the frames as they are now, and what the dispatcher did.
-/

namespace UiTree

/-- What a dispatcher can do to an element. -/
inductive Action
  | click
  | doubleClick
  | type
  | clear
  | focus
  | pressKey
  deriving DecidableEq, Repr, Inhabited

namespace Action

def all : List Action := [.click, .doubleClick, .type, .clear, .focus, .pressKey]

def name : Action → String
  | .click => "click"
  | .doubleClick => "double_click"
  | .type => "type"
  | .clear => "clear"
  | .focus => "focus"
  | .pressKey => "press_key"

def ofName? (name : String) : Option Action := all.find? (·.name == name)

theorem ofName?_name (a : Action) : ofName? a.name = some a := by
  cases a <;> decide

end Action

/-- An element of one of the frames. -/
structure Target where
  frame : Nat
  path : Path
  deriving DecidableEq, Repr, Inhabited

/-- What an action was done with. -/
inductive Argument
  | none
  | text (s : String)
  | chord (c : KeyChord)
  deriving DecidableEq, Repr, Inhabited

structure Event where
  action : Action
  target : Target
  argument : Argument
  deriving DecidableEq, Repr

/-- What a source answers with while it is current. -/
structure Frame where
  tree : Element := .empty
  /-- The source fails instead of answering. -/
  failing : Option Raised := none
  /-- Current up to this many readings of the source. -/
  untilRead : Option Int := none
  /-- Current before this clock. -/
  untilClock : Option Int := none
  outages : List Outage := []

structure Session where
  frames : List Frame
  /-- The source is asked anew every time. -/
  live : Bool
  /-- The clocks at which the source was asked. -/
  readings : List Int := []
  clock : Int := 0
  /-- The frame whose tree the dispatcher works on, if it is one of them. -/
  dispatcherFrame : Option Nat
  /-- Actions that the dispatcher fails at. -/
  failing : List (Action × Raised) := []
  history : List Event := []
  notes : List Record := []
  /-- Timeout and interval of locators that have none of their own. -/
  timeout : Int
  interval : Int

/-- A step of a session, which changes it even if it ends with something raised. -/
abbrev Effect := ExceptT Raised (StateM Session)

namespace Session

def fail {α : Type} (f : Failure) : Effect α := throw (.failure f)

def ofParsed {α : Type} : Except Failure α → Effect α
  | .ok a => pure a
  | .error f => fail f

/-- Logs a record.  The call is assumed not to fail: a journal logs it as it should unless its
console fails at it. -/
def note (r : Record) : Effect Unit :=
  modify fun s => { s with notes := s.notes ++ [r] }

def record (action : Action) (target : Target) (argument : Argument) : Effect Unit :=
  modify fun s => { s with history := s.history ++ [{ action, target, argument }] }

/-! ## Frames -/

def Frame.isCurrent (f : Frame) (reads : Nat) (clock : Int) : Bool :=
  f.untilRead.all (fun n => (reads : Int) ≤ n) && f.untilClock.all (fun t => clock < t)

/-- How often the source was asked. -/
def reads (s : Session) : Nat := s.readings.length

/-- The frame that answers a reading, by its number and the clock: the first current one, else the
last. -/
def frameAt (s : Session) (reads : Nat) (clock : Int) : Nat :=
  match s.frames.findIdx? fun f => Frame.isCurrent f reads clock with
  | some i => i
  | none => s.frames.length - 1

def frame (s : Session) (i : Nat) : Frame := s.frames[i]?.getD {}

/-- Asks the source for the tree: the number of its frame. -/
def readSource : Effect Nat := do
  let s ← get
  if s.live then
    let s := { s with readings := s.readings ++ [s.clock] }
    set s
    let i := s.frameAt s.reads s.clock
    match (s.frame i).failing with
    | some r => throw r
    | none => return i
  else return 0

/-! ## Elements -/

def attributes (s : Session) (t : Target) : Attributes :=
  (((s.frame t.frame).tree.get? t.path).map (·.attributes)).getD {}

/-- Fails at the first of the readings that is out. -/
def check (i : Nat) (readings : List Selector.Reading) : Effect Unit := do
  match Outage.first? ((← get).frame i).outages readings with
  | some r => throw r
  | none => pure ()

/-- The attributes of an element, as far as they are wanted. -/
def look (t : Target) (wanted : List Attribute) : Effect Attributes := do
  check t.frame (wanted.map (t.path, ·))
  return (← get).attributes t

def changeFrame (s : Session) (i : Nat) (f : Element → Element) : Session :=
  { s with frames := s.frames.modify i fun frame => { frame with tree := f frame.tree } }

def change (t : Target) (f : Attributes → Attributes) : Effect Unit :=
  modify fun s => s.changeFrame t.frame (Element.modify f t.path)

/-! ## Waiting -/

/-- One attempt at a clock, with the notes it makes. -/
def attempt {α : Type} (body : Effect (Option α)) (now : Int) (s : Session) : Attempt Session α :=
  let (result, after) := body.run { s with clock := now, notes := [] }
  { reply := .ofResult result, notes := after.notes, state := { after with notes := s.notes } }

/-- Polls a body from the session's clock on. -/
def waitFor {α : Type} (w : Wait) (body : Effect (Option α)) : Effect α := do
  let s ← get
  let polled := w.poll (attempt body) s.clock s
  set { polled.state with clock := polled.clock, notes := s.notes ++ polled.notes }
  match polled.outcome with
  | .ok a => return a
  | .error r => throw r

end Session

end UiTree
