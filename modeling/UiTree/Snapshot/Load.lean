import UiTree.Snapshot
import UiTree.Storage.Folder

/-!
# Snapshot files
-/

namespace UiTree.Snapshot

/-- Reads the snapshot in a file. -/
def load (loader : Yaml.Loader) (folder : Folder) (path : Location) :
    Except Error RaggedElement :=
  match folder.look path with
  | .nothing =>
    let shown := path.text
    .error (.failed (.missing s!"Snapshot file not found: {shown}"))
  | .directory => .error (.failed (.directory path.text))
  | .file octets =>
    match Folder.textOf octets with
    | some text => parse loader text
    | none => .error (.failed .undecodable)

end UiTree.Snapshot
