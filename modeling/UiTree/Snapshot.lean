import UiTree.Element.Decode
import UiTree.Failure
import UiTree.Yaml.Document

/-!
# Snapshots — element trees written down
-/

namespace UiTree.Snapshot

/-- Why a text is no snapshot. -/
inductive Refusal
  /-- The text breaks the format; the loader says how. -/
  | malformed (complaint : String)
  | noMapping
  | invalid (issues : List Issue)
  deriving Repr

/-- A refusal as told about the text of a source. -/
def Refusal.message (source : String) : Refusal → String
  | .malformed complaint => s!"YAML parse error in {source}: {complaint}"
  | .noMapping => s!"Snapshot {source} must define a mapping/object at the top level."
  | .invalid issues =>
    "\n".intercalate (s!"Invalid snapshot '{source}':" :: issues.map fun i => "  - " ++ i.text)

/-- What reading a snapshot can end with: a refusal, or a failure on the way to it. -/
inductive Error
  | refused (r : Refusal)
  /-- There is no text to read. -/
  | failed (f : Failure)
  /-- Reading the text failed on its own account. -/
  | unread (kind message : String)
  deriving Repr

def Error.kind : Error → String
  | .refused _ => "SnapshotError"
  | .failed f => f.kind
  | .unread kind _ => kind

/-- The error as told about the text of a source. -/
def Error.message (source : String) : Error → String
  | .refused r => r.message source
  | .failed f => f.message
  | .unread _ message => message

def parse (loader : Yaml.Loader) (text : String) : Except Error RaggedElement :=
  match Yaml.read loader text with
  | .error .malformed => .error (.refused (.malformed (loader.complaint text)))
  | .error (.conversion kind message) => .error (.unread kind message)
  | .error .exhausted => .error (.unread "RecursionError" (loader.overflow text))
  | .ok (.record identity entries) =>
    match Element.decode (.record identity entries) with
    | .ok e => .ok e
    | .error issues => .error (.refused (.invalid issues))
  | .ok _ => .error (.refused .noMapping)

end UiTree.Snapshot
