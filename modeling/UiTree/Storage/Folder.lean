import UiTree.Storage.Location
import UiTree.Text.Utf8

/-!
# Folders — files as a program sees them

The files and directories known, each under its location from the working directory or from the
root.  Anything not known is not there.
-/

namespace UiTree

open UiTree.Text

/-- What stands at a location. -/
inductive Entry
  | nothing
  | directory
  | file (octets : List UInt8)
  deriving DecidableEq, Repr, Inhabited

structure Folder where
  /-- The text of the working directory. -/
  here : String
  /-- Directories, besides those that hold something. -/
  directories : List Location := []
  files : List (Location × List UInt8) := []

namespace Folder

/-- The location holds something. -/
def holds (f : Folder) (l : Location) : Bool :=
  let inside (other : Location) :=
    other.anchor == l.anchor && l.names.isPrefixOf other.names && l.names != other.names
  f.files.any (inside ·.1) || f.directories.any inside

def isDirectory (f : Folder) (l : Location) : Bool :=
  l.names.all (· == "..") || f.directories.contains l || f.holds l

/-- Follows names from a directory; nothing if one of them but the last is no directory. -/
def follow (f : Folder) (at' : Location) : List String → Option Location
  | [] => some at'
  | name :: names =>
    if f.isDirectory at' then
      f.follow (if name == ".." then at'.up else at'.child name) names
    else none

/-- Where a location leads. -/
def resolve (f : Folder) (l : Location) : Option Location :=
  f.follow { anchor := if l.isAbsolute then "/" else "" } l.names

def look (f : Folder) (l : Location) : Entry :=
  match f.resolve l with
  | none => .nothing
  | some l =>
    if f.isDirectory l then .directory
    else match f.files.lookup l with
      | some octets => .file octets
      | none => .nothing

/-! ## Texts -/

/-- A text as it is read: every kind of line end is a line feed. -/
def universalLines : List Char → List Char
  | '\r' :: '\n' :: cs => '\n' :: universalLines cs
  | '\r' :: cs => '\n' :: universalLines cs
  | c :: cs => c :: universalLines cs
  | [] => []

/-- The text of a file; nothing if it is not well-formed. -/
def textOf (octets : List UInt8) : Option String :=
  (utf8? octets).map fun s => String.ofList (universalLines s.toList)

/-! ## Changes -/

/-- The folder with text added at the end of a file, which need not be there before. -/
def append (f : Folder) (l : Location) (text : String) : Folder :=
  let octets := text.toUTF8.toList
  match f.files.lookup l with
  | some old =>
    { f with files := f.files.map fun (k, v) => if k == l then (k, old ++ octets) else (k, v) }
  | none => { f with files := f.files ++ [(l, octets)] }

/-- Why a directory could not be made. -/
inductive Obstacle
  /-- A file has the name of the directory. -/
  | occupied (at' : Location)
  /-- A file stands in the way to it. -/
  | blocked (at' : Location)
  deriving DecidableEq, Repr

/-- Makes the directories that the names lead to, from one that is there. -/
def makeFrom (f : Folder) (at' : Location) : List String → Except Obstacle Folder
  | [] => .ok f
  | name :: names =>
    if name == ".." then f.makeFrom at'.up names
    else
      let next := at'.child name
      if f.isDirectory next then f.makeFrom next names
      else if (f.files.lookup next).isSome then
        match names with
        | [] => .error (.occupied next)
        | after :: _ => .error (.blocked (next.child after))
      else makeFrom { f with directories := f.directories ++ [next] } next names

/-- Makes a directory with all that lead to it. -/
def makeDirectories (f : Folder) (l : Location) : Except Obstacle Folder :=
  f.makeFrom { anchor := if l.isAbsolute then "/" else "" } l.names

end Folder

end UiTree
