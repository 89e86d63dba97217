import UiTree.Page.Session
import UiTree.Timing

/-!
# The dispatcher — actions on elements

An action checks everything before it changes anything, and is recorded when it is done.  Focus
is moved over the whole tree of the dispatcher.
-/

namespace UiTree.Session

/-- The dispatcher may have been told to fail. -/
def checkFailing (a : Action) : Effect Unit := do
  match (← get).failing.lookup a with
  | some r => throw r
  | none => pure ()

def requireEnabled (a : Action) (t : Target) : Effect Unit := do
  let x ← look t [.enabled]
  if !x.enabled then fail (.actionFailed a.name "element is disabled")

/-! ## Focus -/

/-- The elements that a walk reaches before it meets an outage. -/
def reached (outages : List Outage) : List Located → List Located
  | [] => []
  | n :: ns =>
    n :: if (Outage.at? outages (n.path, .children)).isSome then [] else reached outages ns

/-- The tree with the focus of the elements at the paths set: on for `focused`, else off. -/
def setFocus (focused : Option Path) (paths : List Path) (e : Element) : Element :=
  paths.foldl (fun e p => e.modify (fun a => { a with focused := focused == some p }) p) e

/-- Moves the focus of the dispatcher's tree to an element, off everything else. -/
def moveFocus (t : Target) : Effect Unit := do
  let s ← get
  match s.dispatcherFrame with
  | none => pure ()
  | some i => do
    let root := (s.frame i).tree.root
    let walk := root :: root.descendants
    let focused := if t.frame == i then some t.path else none
    let met := reached (s.frame i).outages walk
    set (s.changeFrame i (setFocus focused (met.map (·.path))))
    check i (walk.map fun n => (n.path, .children))

/-! ## Actions -/

def click (t : Target) : Effect Unit := do
  checkFailing .click
  requireEnabled .click t
  record .click t .none

def doubleClick (t : Target) : Effect Unit := do
  checkFailing .doubleClick
  requireEnabled .doubleClick t
  record .doubleClick t .none

/-- Text goes to the end of the value. -/
def type (t : Target) (text : String) : Effect Unit := do
  checkFailing .type
  requireEnabled .type t
  let x ← look t [.value]
  change t fun a => { a with value := some (x.value.getD "" ++ text) }
  record .type t (.text text)

def clear (t : Target) : Effect Unit := do
  checkFailing .clear
  requireEnabled .clear t
  change t fun a => { a with value := some "" }
  record .clear t .none

def focus (t : Target) : Effect Unit := do
  checkFailing .focus
  moveFocus t
  record .focus t .none

/-- The element takes the focus before it gets the keys. -/
def pressKey (t : Target) (keys : String) : Effect KeyChord := do
  checkFailing .pressKey
  let chord ← ofParsed (KeyChord.parse keys)
  focus t
  record .pressKey t (.chord chord)
  return chord

/-- An action by its name; the text is for those that take one. -/
def perform (a : Action) (t : Target) (text : String) : Effect Argument := do
  match a with
  | .click => click t; return .none
  | .doubleClick => doubleClick t; return .none
  | .type => type t text; return .none
  | .clear => clear t; return .none
  | .focus => focus t; return .none
  | .pressKey => return .chord (← pressKey t text)

/-! ## Dispatch -/

/-- Failures of this library stay as they are; any other becomes the failure of the action. -/
def normalize (label : String) : Raised → Raised
  | .failure f => .failure (if f.isOwn then f else .actionFailed label f.reason)
  | .interrupt i => .interrupt i

/-- What a body without a label is called. -/
def unlabelled : String := "_run"

/-- Runs an action, notes the time it took and normalizes what it raises. -/
def dispatch {α : Type} (label : String) (body : Effect α) : Effect α := fun s =>
  let (outcome, after) := body.run s
  let took := (Stopwatch.start s.clock).elapsed after.clock
  let after := { after with notes := after.notes ++ [Timing.note .debug label unlabelled took] }
  match outcome with
  | .ok a => (.ok a, after)
  | .error r => (.error (normalize label r), after)

/-- The events of an action, or all of them. -/
def actions (s : Session) (name : Option String) : List Event :=
  s.history.filter fun e => name.all (· == e.action.name)

end UiTree.Session
