import Std.Time.Format
import UiTree.Command.Run

/-!
# The program

Looks up what a command may need, runs the command, and carries out what it asks for: the wait, the
changed files, the output and the exit code.
-/

open UiTree UiTree.Text

namespace UiTree.Program

/-! ## Looking things up -/

def entryAt (path : String) : IO Entry := do
  try
    if ← (← IO.FS.realPath path).isDir then return .directory
    return .file (← IO.FS.readBinFile path).toList
  catch _ => return .nothing

/-- The folder with what stands at a location and on the way to it. -/
def observe (f : Folder) (l : Location) : IO Folder := do
  let l := l.simplified
  let mut f := f
  for count in [1 : l.names.length + 1] do
    let step := { l with names := l.names.take count }
    match ← entryAt step.text with
    | .nothing => pure ()
    | .directory => f := { f with directories := f.directories ++ [step] }
    | .file octets =>
      if (f.files.lookup step).isNone then f := { f with files := f.files ++ [(step, octets)] }
  return f

/-- The variables that the system shows. -/
def environment : IO Environment := do
  match ← entryAt "/proc/self/environ" with
  | .file octets =>
    return (octets.splitOn 0).filterMap fun line =>
      (utf8? line).bind fun line =>
        match Command.splitValue line with
        | (name, some value) => some (name, value)
        | (_, none) => none
  | _ => return []

/-- The texts among the arguments that may name a file. -/
def pathsIn (args : List String) : List String :=
  args ++ args.filterMap fun arg => (Command.splitValue arg).2

/-- The journal at the start, with all files that the settings and the arguments name. -/
def start (args : List String) : IO Journal := do
  let environment ← environment
  let here ← IO.currentDir
  let mut folder ← observe { here := here.toString } Settings.variableFile
  match Settings.load folder environment [] with
  | .ok settings => folder ← observe folder settings.logFile
  | .error _ => pure ()
  for path in pathsIn args do folder ← observe folder (Location.parse path)
  return { folder, environment }

/-! ## Carrying things out -/

/-- Makes the directories that are new, and writes what files got at their ends. -/
def save (before after : Folder) : IO Unit := do
  for l in after.directories do
    if !before.directories.contains l then IO.FS.createDirAll l.text
  for (l, octets) in after.files do
    let old := before.files.lookup l
    if old != some octets then
      let file ← IO.FS.Handle.mk l.text .append
      file.write (octets.drop (old.getD []).length).toByteArray

def report (o : Command.Outcome) : IO UInt32 := do
  IO.sleep o.waited.toNat.toUInt32
  IO.print o.out
  IO.eprint o.err
  if let some f := o.raised then IO.eprintln (f.kind ++ ": " ++ f.message)
  return o.exit.toUInt32

def reportFault (f : Fault) : IO UInt32 := do
  IO.eprintln (f.kind ++ ": " ++ f.message)
  return 1

/-- The width of the page, unless told otherwise. -/
def pageWidth (environment : Environment) : Nat :=
  ((environment.lookup "COLUMNS").bind String.toNat?).getD 80

/-- The present time in the form that records use. -/
def presentTime : IO String := do
  let time ← Std.Time.Timestamp.now
  return (Std.Time.DateTime.ofTimestamp time .UTC).format "uuuu-MM-dd'T'HH:mm:ss"

end UiTree.Program

def main (args : List String) : IO UInt32 := do
  let journal ← Program.start args
  let time ← Program.presentTime
  let around : Command.Surroundings := { time, width := Program.pageWidth journal.environment }
  let (outcome, after) := (do Journal.configure; Command.run around args).run journal
  Program.save journal.folder after.folder
  match outcome with
  | .ok o => Program.report o
  | .error f => Program.reportFault f
