import UiTree.Text.Search

/-!
# Locations — names that lead to a file

A location is kept without empty names and without `.`; a `..` stays, as what it means depends on
what it stands behind.
-/

namespace UiTree

open UiTree.Text

structure Location where
  /-- The slashes that an absolute location begins with. -/
  anchor : String := ""
  names : List String := []
  deriving DecidableEq, Repr, Inhabited

namespace Location

def isAbsolute (l : Location) : Bool := !l.anchor.isEmpty

/-- Two slashes at the start are kept apart from one; three or more are as one. -/
def anchorOf : List Char → String
  | '/' :: '/' :: '/' :: _ => "/"
  | '/' :: '/' :: _ => "//"
  | '/' :: _ => "/"
  | _ => ""

def parse (s : String) : Location :=
  let pieces := (splitAt '/' s.toList).map String.ofList
  { anchor := anchorOf s.toList, names := pieces.filter fun p => p != "" && p != "." }

/-- The names with slashes between them; a dot if there is nothing to show. -/
def text (l : Location) : String :=
  if l.anchor.isEmpty && l.names.isEmpty then "." else l.anchor ++ "/".intercalate l.names

/-- The last name. -/
def name (l : Location) : String := l.names.getLast?.getD ""

/-- The location with a name more. -/
def child (l : Location) (name : String) : Location := { l with names := l.names ++ [name] }

/-- One step up: above a root is the root, above the start there is only `..`. -/
def up (l : Location) : Location :=
  match l.names.getLast? with
  | none => if l.isAbsolute then l else l.child ".."
  | some ".." => l.child ".."
  | some _ => { l with names := l.names.dropLast }

/-- The location without its last name. -/
def parent (l : Location) : Location := { l with names := l.names.dropLast }

/-- Every `..` taken back together with the name before it. -/
def simplified (l : Location) : Location :=
  l.names.foldl (fun at' name => if name == ".." then at'.up else at'.child name)
    { anchor := if l.isAbsolute then "/" else "" }

/-- The text of a location as seen from a folder. -/
def textFrom (here : String) (l : Location) : String :=
  if l.isAbsolute then l.text
  else if l.names.isEmpty then here
  else here ++ "/" ++ l.text

@[simp] theorem simplified_start : ({} : Location).simplified = {} := rfl

end Location

end UiTree
