import UiTree.Failure
import UiTree.Text.Blank
import UiTree.Text.Case
import UiTree.Text.Search

/-!
# Key chords — a key and the modifiers held down with it

A chord is written as words with `+` between them, in any order and case.
-/

namespace UiTree

open UiTree.Text

inductive Modifier
  | command
  | control
  | option
  | shift
  deriving DecidableEq, Repr, Inhabited

namespace Modifier

/-- The modifiers in the order of their names. -/
def all : List Modifier := [.command, .control, .option, .shift]

def name : Modifier → String
  | .command => "command"
  | .control => "control"
  | .option => "option"
  | .shift => "shift"

/-- The modifier a word means, in lower case. -/
def ofWord? : String → Option Modifier
  | "command" => some .command
  | "cmd" => some .command
  | "shift" => some .shift
  | "option" => some .option
  | "alt" => some .option
  | "control" => some .control
  | "ctrl" => some .control
  | _ => none

end Modifier

/-- The modifiers are in the order of their names, each once. -/
structure KeyChord where
  key : String
  modifiers : List Modifier
  deriving DecidableEq, Repr, Inhabited

namespace KeyChord

/-- Keys that go by a name, in order. -/
def namedKeys : List String :=
  ["arrowdown", "arrowleft", "arrowright", "arrowup", "backspace", "delete", "end", "enter",
   "escape", "f1", "f10", "f11", "f12", "f2", "f3", "f4", "f5", "f6", "f7", "f8", "f9", "home",
   "pagedown", "pageup", "return", "space", "tab"]

/-- Why a text is no chord. -/
inductive Problem
  | empty
  | severalKeys
  | noKey
  | unknownKey (key : String)
  deriving DecidableEq, Repr

def Problem.reason (raw : String) : Problem → String
  | .empty => "Empty key string"
  | .severalKeys => s!"Multiple key parts in '{raw}'"
  | .noKey => s!"No key found in '{raw}'"
  | .unknownKey key =>
    let names := ", ".intercalate namedKeys
    s!"Unknown key '{key}'. Supported: {names} or a single character"

/-- A named key or any single printable character. -/
def isKey (key : List Char) : Bool :=
  namedKeys.contains (String.ofList key)
    || match key with
      | [c] => isPrintable c
      | _ => false

/-- The text ends with two separators, white space aside: the last one is the plus key. -/
def endsWithPlus (raw : List Char) : Bool :=
  match (trimEnd raw).reverse with
  | '+' :: '+' :: _ => true
  | _ => false

/-- The words of a chord, trimmed and in lower case, blank ones left out. -/
def words (raw : List Char) : List (List Char) :=
  ((splitAt '+' raw).map trim).filter (!·.isEmpty) |>.map lowerChars

def parts (raw : List Char) : List (List Char) :=
  words raw ++ if endsWithPlus raw then [['+']] else []

def modifierOf? (part : List Char) : Option Modifier :=
  Modifier.ofWord? (String.ofList part)

/-- Reads words in their order: modifiers are held, and the first other word is the key.  A second
one is an offence, whatever comes after it. -/
def readParts (held : List Modifier) (key : Option (List Char)) :
    List (List Char) → Except Problem (List Modifier × Option (List Char))
  | [] => .ok (held, key)
  | part :: parts =>
    match modifierOf? part, key with
    | some m, key => readParts (held ++ [m]) key parts
    | none, none => readParts held (some part) parts
    | none, some _ => .error .severalKeys

/-- The chord of a list of words. -/
def ofParts (parts : List (List Char)) : Except Problem KeyChord :=
  if parts.isEmpty then .error .empty
  else match readParts [] none parts with
    | .error problem => .error problem
    | .ok (_, none) => .error .noKey
    | .ok (held, some key) =>
      if isKey key then
        .ok { key := String.ofList key, modifiers := Modifier.all.filter held.contains }
      else .error (.unknownKey (String.ofList key))

def parse (raw : String) : Except Failure KeyChord :=
  match ofParts (parts raw.toList) with
  | .ok chord => .ok chord
  | .error problem => .error (.invalidKey raw (problem.reason raw))

end KeyChord

end UiTree
