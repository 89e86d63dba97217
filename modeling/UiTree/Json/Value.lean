import UiTree.Number.Binary64
import UiTree.Number.Whole
import UiTree.Text.Quoted

/-!
# Values — the data that JSON texts carry

Objects keep their members in order, and integers are kept apart from reals.
-/

namespace UiTree

open UiTree.Number UiTree.Text

inductive Json
  | null
  | bool (b : Bool)
  | int (i : Int)
  | real (x : Binary64)
  | str (s : String)
  | arr (items : List Json)
  | obj (members : List (String × Json))
  deriving Inhabited, Repr

namespace Json

/-- Adds a member; a key that is there already keeps its place and takes the new value. -/
def insertMember {α : Type} (key : String) (value : α) : List (String × α) → List (String × α)
  | [] => [(key, value)]
  | (k, v) :: rest =>
    if k == key then (key, value) :: rest else (k, v) :: insertMember key value rest

/-- The members of a list of pairs, later ones overriding earlier ones. -/
def ofPairs {α : Type} (pairs : List (String × α)) : List (String × α) :=
  pairs.foldl (fun members (k, v) => insertMember k v members) []

def get? (key : String) : Json → Option Json
  | .obj members => members.lookup key
  | _ => none

/-- Empty and zero values count as false. -/
def isTruthy : Json → Bool
  | .null => false
  | .bool b => b
  | .int i => i != 0
  | .real (.finite _ m _) => m != 0
  | .real _ => true
  | .str s => !s.isEmpty
  | .arr items => !items.isEmpty
  | .obj members => !members.isEmpty

mutual

/-- No integer in the value has more digits than can be converted to text. -/
def isWritable : Json → Bool
  | .int i => decide (i.natAbs < 10 ^ digitLimit)
  | .arr items => areWritable items
  | .obj members => membersWritable members
  | .null | .bool _ | .real _ | .str _ => true

def areWritable : List Json → Bool
  | [] => true
  | v :: vs => isWritable v && areWritable vs

def membersWritable : List (String × Json) → Bool
  | [] => true
  | (_, v) :: rest => isWritable v && membersWritable rest

end

/-! ## Literal text -/

mutual

/-- The value as a literal: texts in quotes, and words for truth and for nothing. -/
def literal : Json → String
  | .null => "None"
  | .bool b => if b then "True" else "False"
  | .int i => toString i
  | .real x => x.text
  | .str s => quoted s
  | .arr items => "[" ++ ", ".intercalate (literals items) ++ "]"
  | .obj members => "\x7b" ++ ", ".intercalate (literalMembers members) ++ "\x7d"

def literals : List Json → List String
  | [] => []
  | v :: vs => literal v :: literals vs

def literalMembers : List (String × Json) → List String
  | [] => []
  | (k, v) :: rest => (quoted k ++ ": " ++ literal v) :: literalMembers rest

end

/-- The value as plain text: a text stands for itself. -/
def plain : Json → String
  | .str s => s
  | v => literal v

@[simp] theorem plain_str (s : String) : plain (.str s) = s := by simp [plain]

end Json

end UiTree
