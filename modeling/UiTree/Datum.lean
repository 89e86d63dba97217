import UiTree.Json.Value
import UiTree.Text.Ragged
import UiTree.Text.Utf8

/-!
# Data — untyped input before it is checked

What a snapshot or a configuration value may hold before it is known to be what it should be.
A collection that may be met again inside itself carries an identity.
-/

namespace UiTree

open UiTree.Number UiTree.Text

inductive Datum
  | null
  | bool (b : Bool)
  | int (i : Int)
  | real (x : Binary64)
  | text (s : String)
  /-- A text that holds a half of a character. -/
  | ragged (t : Ragged)
  | bytes (octets : List UInt8)
  /-- A date or a time, by its literal. -/
  | moment (literal : String)
  | pair (first second : Datum)
  | list (identity : Option Nat) (items : List Datum)
  | record (identity : Option Nat) (entries : List (Datum × Datum))
  /-- A set keeps its members in the order they were listed. -/
  | set (identity : Option Nat) (items : List Datum)
  /-- The enclosing collection of that identity. -/
  | again (identity : Nat)
  deriving Inhabited, Repr

namespace Datum

mutual

def ofJson : Json → Datum
  | .null => .null
  | .bool b => .bool b
  | .int i => .int i
  | .real x => .real x
  | .str s => .text s
  | .arr items => .list none (ofJsonItems items)
  | .obj fields => .record none (ofJsonFields fields)

def ofJsonItems : List Json → List Datum
  | [] => []
  | v :: vs => ofJson v :: ofJsonItems vs

def ofJsonFields : List (String × Json) → List (Datum × Datum)
  | [] => []
  | (k, v) :: rest => (.text k, ofJson v) :: ofJsonFields rest

end

/-- The number a key is compared by: truth values count as 1 and 0, whole reals as integers. -/
def number? : Datum → Option Int
  | .bool b => some (if b then 1 else 0)
  | .int i => some i
  | .real x => x.toInt?
  | _ => none

/-- Equality of record keys. -/
def sameKey (a b : Datum) : Bool :=
  match a.number?, b.number? with
  | some m, some n => m == n
  | none, none =>
    match a, b with
    | .null, .null => true
    | .real x, .real y => x == y && x != .nan
    | .text s, .text t => s == t
    | .ragged s, .ragged t => s == t
    | .bytes s, .bytes t => s == t
    | .moment s, .moment t => s == t
    | _, _ => false
  | _, _ => false

/-- Adds an entry; a key that is there already keeps its place and takes the new value. -/
def insertEntry (key value : Datum) : List (Datum × Datum) → List (Datum × Datum)
  | [] => [(key, value)]
  | (k, v) :: rest =>
    if sameKey k key then (k, value) :: rest else (k, v) :: insertEntry key value rest

/-- Collections are no keys. -/
def isKey : Datum → Bool
  | .list _ _ | .record _ _ | .set _ _ | .again _ => false
  | _ => true

/-- A text that holds a half of a character. -/
def isRagged : Datum → Bool
  | .ragged _ => true
  | _ => false

/-! ## Literal text -/

def byteLiteral (mark : Char) (b : UInt8) : List Char :=
  let n := b.toNat
  let c := Char.ofNat n
  if c == mark || c == '\\' then ['\\', c]
  else if c == '\n' then ['\\', 'n']
  else if c == '\r' then ['\\', 'r']
  else if c == '\t' then ['\\', 't']
  else if 0x20 ≤ n && n < 0x7f then [c]
  else '\\' :: 'x' :: hexDigits 2 n

def bytesLiteral (octets : List UInt8) : String :=
  let mark := quoteMark (octets.map fun b => Char.ofNat b.toNat)
  String.ofList ('b' :: mark :: (octets.flatMap (byteLiteral mark) ++ [mark]))

/-- How a key is named in a complaint. -/
def keyName : Datum → String
  | .null => "None"
  | .bool b => if b then "1" else "0"
  | .int i => toString i
  | .real x => x.text
  | .text s => s
  | .bytes octets => bytesLiteral octets
  | .moment literal => literal
  | _ => ""

/-! ## Collections inside themselves -/

mutual

/-- The collection of an identity, inside a datum. -/
def find? (identity : Nat) : Datum → Option Datum
  | .list i items =>
    if i == some identity then some (.list i items) else findIn? identity items
  | .record i entries =>
    if i == some identity then some (.record i entries) else findAmong? identity entries
  | .pair a b => (find? identity a).or (find? identity b)
  | _ => none

def findIn? (identity : Nat) : List Datum → Option Datum
  | [] => none
  | d :: ds => (find? identity d).or (findIn? identity ds)

def findAmong? (identity : Nat) : List (Datum × Datum) → Option Datum
  | [] => none
  | (_, v) :: rest => (find? identity v).or (findAmong? identity rest)

end

/-- The datum itself, or the enclosing collection it stands for. -/
def resolve (whole : Datum) : Datum → Datum
  | .again identity => (whole.find? identity).getD .null
  | d => d

end Datum

end UiTree
