import UiTree.Settings.Basic
import UiTree.Settings.Dotenv
import UiTree.Storage.Folder
import UiTree.Text.Case
import UiTree.Validation.Fault

/-!
# Loading settings

A setting is what the caller gives for it, else what the environment says, else what the variable
file in the working directory says.  The caller uses exact names, elsewhere case does not matter.
-/

namespace UiTree

open UiTree.Text

/-- Variables and their values. -/
abbrev Environment := List (String × String)

namespace Settings

/-- The variable file. -/
def variableFile : Location := { names := [".env"] }

/-- Variables under their names in lower case; of several that differ in case only the last one
counts. -/
def caseless {α : Type} (bindings : List (String × α)) : List (String × α) :=
  Json.ofPairs (bindings.map fun (name, v) => (lower name, v))

/-- The variables of the variable file, as far as they have a value. -/
def fileVariables (folder : Folder) (environment : Environment) :
    Except Fault (List (String × String)) :=
  match folder.look variableFile with
  | .file octets =>
    match Folder.textOf octets with
    | some text =>
      .ok ((caseless (Dotenv.read environment text)).filterMap fun (name, v) => v.map (name, ·))
    | none => .error (.failure .undecodable)
  | _ => .ok []

/-- What counts for a setting, from the first source that has it. -/
def choose (given : List (String × Json)) (environment filed : List (String × String))
    (key : Key) : Option Json :=
  (given.lookup key.name).or
    (((environment.lookup (lower key.name)).or (filed.lookup (lower key.name))).map .str)

def load (folder : Folder) (environment : Environment) (given : List (String × Json)) :
    Except Fault Settings := do
  let environment := Json.ofPairs environment
  let filed ← fileVariables folder environment
  let chosen := Key.all.filterMap fun key =>
    (choose given (caseless environment) filed key).map (key.name, ·)
  (decode chosen).mapError .invalid

end Settings

end UiTree
