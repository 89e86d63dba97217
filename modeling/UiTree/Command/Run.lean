import UiTree.Command.Options
import UiTree.Element.Drawing
import UiTree.Journal.Basic
import UiTree.Page.Expectation
import UiTree.Selector.Dump
import UiTree.Snapshot.Load

/-!
# Running a command

A command ends with an exit code and what it printed.  Code 2 is for arguments, selectors and
snapshots that cannot be used, code 1 for elements that are not found or not as expected, and for a
text that cannot be put out.  Output goes to files, not to a terminal: it is rid of the escape
sequences that a terminal acts upon, but for the page that a tree is drawn on.
-/

namespace UiTree.Command

open UiTree.Text

structure Outcome where
  exit : Nat := 0
  out : String := ""
  err : String := ""
  /-- How long it took, in milliseconds. -/
  waited : Int := 0
  /-- What it failed with once the rest was put out. -/
  raised : Option Failure := none
  deriving Repr

/-- A text as it is put out. -/
def shown (s : String) : String := (Ragged.ofString s).bare.seen '\ufffd'

def Outcome.misused (scope : Scope) (m : Misuse) : Outcome :=
  { exit := 2, err := shown (m.text scope) }

/-- Something given to a command cannot be used. -/
def Outcome.unusable (message : String) : Outcome :=
  { exit := 2, err := shown s!"ERR {message}\n" }

/-- A text that has no octets cannot be put out. -/
def unencodable (reason : String) : Failure := .foreign "UnicodeEncodeError" [.str reason]

/-- Puts out lines one after the other, up to one that cannot be. -/
def Outcome.print : List Ragged → Outcome
  | [] => {}
  | line :: lines =>
    match line.bare.encode with
    | .ok s =>
      let rest := print lines
      { rest with out := s ++ "\n" ++ rest.out }
    | .error reason => { exit := 1, raised := some (unencodable reason) }

/-! ## What a command finds around it -/

structure Surroundings where
  /-- The time that records get. -/
  time : String := ""
  /-- The cells of a line on the page that trees are drawn on. -/
  width : Nat := 80
  loader : Yaml.Loader := {}
  /-- What drawing a tree comes to if a text that is drawn holds a half of a character: it depends
  on whether the page reaches for it. -/
  onPage : RaggedElement → Outcome := fun _ => { exit := 1, raised := some (unencodable "") }

/-! ## Arguments -/

def version : String := "0.1.0"

/-- What a flag asks for. -/
def notice (scope : Scope) (flag : String) : Outcome :=
  if flag == "--version" then { out := s!"{program}, version {version}\n" }
  else { out := usage scope ++ "\n" }

def levelChoices : List String := ["debug", "info", "warning", "error", "critical"]

/-- A path must not lead to a directory. -/
def checkPath (folder : Folder) (hint path : String) : Except Misuse Unit :=
  if !path.isEmpty && folder.look (Location.parse path) == .directory then
    .error (.directory hint path)
  else .ok ()

def checkOption (folder : Folder) (name value : String) : Except Misuse Unit :=
  match name with
  | "--log-level" =>
    if levelChoices.contains (fold value) then .ok ()
    else .error (.notAmong name value levelChoices)
  | "--log-file" => checkPath folder name value
  | _ =>
    if (Number.decimalInteger? value.toList).isSome then .ok ()
    else .error (.notInteger name value)

def checkOptions (folder : Folder) (s : Scanned) : Except Misuse Unit :=
  s.given.forM fun name => checkOption folder name ((s.value? name).getD "")

/-- An operand by its name; several are checked in order, each as it is met. -/
def checkOperands (folder : Folder) : List String → List String → Except Misuse Unit
  | [], [] => .ok ()
  | [], extra => .error (.extraOperands extra)
  | name :: _, [] => .error (.missingOperand name)
  | name :: names, value :: values => do
    if name == "SNAPSHOT" then checkPath folder name value
    else if name == conditionHint && !conditions.contains value then
      .error (.notAmong name value conditions)
    checkOperands folder names values

/-! ## The commands -/

def showConfig (here : String) (s : Settings) : Outcome :=
  { out := (s.payload here).writeIndented 0 ++ "\n" }

def showSelector (selector : String) : Outcome :=
  match Selector.parse selector with
  | .ok s => { out := s.dump.writeIndented 0 ++ "\n" }
  | .error f => .unusable f.message

/-- Goes on with the tree of a snapshot.  One that is refused or missing cannot be used, any other
failure is passed on. -/
def withSnapshot (loader : Yaml.Loader) (snapshot : String)
    (next : RaggedElement → Logging Outcome) : Logging Outcome := do
  let path := Location.parse snapshot
  match Snapshot.load loader (← get).folder path with
  | .ok t => next t
  | .error (.refused r) => return .unusable (r.message path.text)
  | .error (.failed f) =>
    if f.kind == "FileNotFoundError" then return .unusable f.message
    else Journal.fail f
  | .error (.unread kind message) => throw (.unread kind message)

/-- Shown for halves in a tree that is drawn.  It is not printable. -/
def blot : Char := '\ue000'

def showTree (around : Surroundings) (t : RaggedElement) : Outcome :=
  if t.all fun a => (RaggedElement.describe a).isWhole then
    { out := String.join (((t.seen blot).draw around.width).map (· ++ "\n")) }
  else around.onPage t

/-- A private character that a selector does not have.  Shown for halves, it is met by the selector
just where the half is, and never stands for one of its characters. -/
def standIn (selector : String) : Char :=
  let privates := (List.range (selector.length + 1)).map fun i => Char.ofNat (0xf0000 + i)
  (privates.find? fun c => !selector.toList.contains c).getD blot

/-- The tree as a selector is looked for in it. -/
def searched (selector : String) (t : RaggedElement) : Element := t.seen (standIn selector)

def showFound (selector : String) (t : RaggedElement) : Outcome :=
  match Selector.parse selector with
  | .error f => .unusable f.message
  | .ok s =>
    match s.find (searched selector t) with
    | [] =>
      let selector := quoted selector
      { exit := 1, out := shown s!"No elements match {selector}.\n" }
    | found =>
      .print (.ofString s!"Found {found.length} element(s):" :: found.map fun n =>
        .ofString " - " ++ RaggedElement.describe (t.attributesAt n.path))

def checkOf : String → Check
  | "not-exists" => .notExists
  | "enabled" => .enabled
  | "disabled" => .disabled
  | "focused" => .focused
  | _ => .exists

/-- How an expectation about a fixed tree ended, and the session it left. -/
def expectation (settings : Settings) (selector condition : String) (timeout : Int) (e : Element) :
    Except Raised Unit × Session :=
  let session : Session :=
    { frames := [{ tree := e }], live := false, dispatcherFrame := some 0
      timeout := settings.waitTimeout, interval := settings.pollInterval }
  let expectation := Expectation.ofLocator (session.locator selector (some timeout)) none none
  (expectation.check (checkOf condition)).run session

/-- Waits for a condition.  Everything that is logged meanwhile names the snapshot.  It is all
logged once the waiting is over: that is the same as long as no console fails at it. -/
def expect (time : String) (settings : Settings) (snapshot selector condition : String)
    (timeout : Int) (t : RaggedElement) : Logging Outcome := do
  Journal.bind [("snapshot", .str (Location.parse snapshot).name)]
  let (outcome, after) := expectation settings selector condition timeout (searched selector t)
  try
    for note in after.notes do Journal.record time note
  finally Journal.unbind ["snapshot"]
  match outcome with
  | .ok _ => return { out := shown s!"OK  {selector} {condition}\n", waited := after.clock }
  | .error (.failure f) =>
    match f with
    | .invalidSelector _ => return { Outcome.unusable f.message with waited := after.clock }
    | .waitTimeout _ _ _ =>
      let message := f.message
      return { exit := 1, out := shown s!"FAIL {message}\n", waited := after.clock }
    | f => Journal.fail f
  | .error (.interrupt i) => Journal.fail (.foreign i.kind [.str i.message])

/-- How long an expectation waits unless told otherwise. -/
def defaultTimeout : Int := 1000

def timeoutOf (s : Scanned) : Int :=
  ((s.value? "--timeout").bind fun v => Number.decimalInteger? v.toList).getD defaultTimeout

/-- Runs a command whose arguments have been checked. -/
def perform (around : Surroundings) (settings : Settings) (n : Name) (s : Scanned) :
    Logging Outcome := do
  match n, s.operands with
  | .config, _ => return showConfig (← get).folder.here settings
  | .parse, [selector] => return showSelector selector
  | .tree, [snapshot] => withSnapshot around.loader snapshot fun t => return showTree around t
  | .find, [snapshot, selector] =>
    withSnapshot around.loader snapshot fun t => return showFound selector t
  | .expect, [snapshot, selector, condition] =>
    withSnapshot around.loader snapshot
      (expect around.time settings snapshot selector condition (timeoutOf s))
  | _, _ => return {}

/-- Takes the arguments of a command apart and runs it. -/
def runCommand (around : Surroundings) (settings : Settings) (n : Name) (args : List String) :
    Logging Outcome := do
  let folder := (← get).folder
  match scan (inner n) args with
  | .error m => return .misused (some n) m
  | .ok s =>
    match s.flags with
    | flag :: _ => return notice (some n) flag
    | [] =>
      match checkOptions folder s *> checkOperands folder (operandNames n) s.operands with
      | .error m => return .misused (some n) m
      | .ok _ => perform around settings n s

/-! ## The program -/

/-- Options before the command: they are checked, or ask for a notice. -/
def checkOuter (folder : Folder) (args : List String) : Except Outcome Scanned :=
  match scan outer args with
  | .error m => .error (.misused none m)
  | .ok s =>
    match s.flags with
    | flag :: _ => .error (notice none flag)
    | [] =>
      match checkOptions folder s with
      | .error m => .error (.misused none m)
      | .ok _ => .ok s

/-- What the options before the command ask for. -/
def prepare (s : Scanned) : Logging Unit := do
  match s.value? "--log-level" with
  | some level => Journal.setLevel level
  | none => pure ()
  match s.value? "--log-file" with
  | some file => if !file.isEmpty then let _ ← Journal.attach (Location.parse file) none
  | none => pure ()

/-- Runs the program with its arguments. -/
def run (around : Surroundings) (args : List String) : Logging Outcome := do
  let folder := (← get).folder
  match checkOuter folder args with
  | .error o => return o
  | .ok s =>
    match s.operands with
    | [] =>
      if args.isEmpty then return { exit := 2, err := usage none ++ "\n" }
      else return .misused none .missingCommand
    | name :: rest =>
      match Name.ofText? name with
      | none =>
        match checkOuter folder s.operands with
        | .error o => return o
        | .ok _ =>
          return .misused none (.unknownCommand name (similarNames name (Name.all.map Name.text)))
      | some n => do
        let settings ← Settings.load folder (← get).environment []
        prepare s
        runCommand around settings n rest

end UiTree.Command
