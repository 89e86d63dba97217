import UiTree.Datum
import UiTree.Number.Decimal
import UiTree.Text.Case
import UiTree.Yaml.Node
import UiTree.Yaml.Octets

/-!
# Documents — the data that nodes stand for

Values are converted level by level: of two values that cannot be converted the one nearer to the
root is reported, and on one level the one that comes first.
-/

namespace UiTree.Yaml

open UiTree.Number UiTree.Text

/-! ## Scalars -/

namespace Scalar

def datum (t : Ragged) : Datum :=
  match t.text? with
  | some s => .text s
  | none => .ragged t

def noCharacter : Fault := .conversion "IndexError" "string index out of range"

def truth (t : Ragged) : Except Fault Datum :=
  match t.lower.text? with
  | some "yes" | some "true" | some "on" => .ok (.bool true)
  | some "no" | some "false" | some "off" => .ok (.bool false)
  | _ => .error (.conversion "KeyError" (String.ofList t.lower.literal))

/-- An integer in a base; a half of a character is no digit. -/
def integer (base : Nat) (points : List Point) : Except Fault Int :=
  match points.mapM Point.char? >>= fun cs => (integer? base cs).map (cs, ·) with
  | some (cs, n) =>
    let digits := (cs.filter fun c => (decimalValue? c).isSome).length
    if base == 10 && digitLimit < digits then .error (.tooManyDigits digits) else .ok n
  | none =>
    let shown := String.ofList ((Ragged.literal { points }).take 200)
    .error (.value s!"invalid literal for int() with base {base}: {shown}")

/-- Groups of base 60, the last one first. -/
def sexagesimal (groups : List Int) : Int :=
  groups.foldl (fun n g => n * 60 + g) 0

/-- Without underscores, and with its sign apart; a text without characters has no sign. -/
def signAndRest (points : List Point) : Except Fault (Bool × List Point) :=
  match points.filter (· != .char '_') with
  | [] => .error noCharacter
  | .char '-' :: rest => .ok (true, rest)
  | .char '+' :: rest => .ok (false, rest)
  | rest => .ok (false, rest)

def magnitude (points : List Point) : Except Fault Int :=
  match points with
  | [] => .error noCharacter
  | [.char '0'] => .ok 0
  | .char '0' :: .char 'b' :: ds => integer 2 ds
  | .char '0' :: .char 'x' :: ds => integer 16 ds
  | .char '0' :: _ => integer 8 points
  | _ =>
    if points.contains (.char ':') then
      (splitAt (.char ':') points).mapM (integer 10) |>.map sexagesimal
    else integer 10 points

def whole (t : Ragged) : Except Fault Datum := do
  let (negative, rest) ← signAndRest t.points
  let n ← magnitude rest
  return .int (if negative then -n else n)

def decimal (points : List Point) : Except Fault Binary64 :=
  match points.mapM Point.char? >>= real? with
  | some x => .ok x
  | none =>
    let shown := String.ofList (Ragged.literal { points })
    .error (.value s!"could not convert string to float: {shown}")

/-- Groups of base 60, the last one first. -/
def realSexagesimal (groups : List Binary64) : Binary64 :=
  (groups.reverse.foldl (fun (total, unit) x =>
    (Binary64.add total (Binary64.mul x (.ofRatio false unit 1)), unit * 60)) (.zero, 1)).1

def real (t : Ragged) : Except Fault Datum := do
  let (negative, rest) ← signAndRest t.lower.points
  let x ←
    if rest == ".inf".toList.map .char then pure (Binary64.infinite false)
    else if rest == ".nan".toList.map .char then pure Binary64.nan
    else if rest.contains (.char ':') then
      (splitAt (.char ':') rest).mapM decimal |>.map realSexagesimal
    else decimal rest
  return .real (if negative then .mul (.withSign true .one) x else x)

/-- Octets are written in ASCII, so that a half of a character is as wrong as one beyond it. -/
def octets (t : Ragged) : Except Fault Datum :=
  let cs := (t.seen '\ufffd').toList
  if cs.all (·.toNat < 0x80) then
    match Octets.decode? cs with
    | some bytes => .ok (.bytes bytes)
    | none => .error .malformed
  else .error .malformed

def moment (t : Ragged) : Except Fault Datum :=
  match t.text? >>= fun s => Timestamp.read? s.toList with
  | some stamp => stamp.literal.map .moment
  | none =>
    .error (.conversion "AttributeError" "'NoneType' object has no attribute 'groupdict'")

/-- A text as a value of a kind, as far as the kind has texts for its values. -/
def value (kind : Kind) (t : Ragged) : Except Fault Datum :=
  match kind with
  | .null => .ok .null
  | .bool => truth t
  | .int => whole t
  | .real => real t
  | .timestamp => moment t
  | .binary => octets t
  | .text => .ok (datum t)
  | _ => .error .malformed

def hasTexts : Kind → Bool
  | .null | .bool | .int | .real | .timestamp | .binary | .text => true
  | _ => false

end Scalar

namespace Node

mutual

/-- How many collections a node holds, itself included. -/
def collections : Node → Nat
  | .scalar _ _ | .again _ => 0
  | .sequence _ _ items => collectionsOf items + 1
  | .mapping _ _ entries => collectionsOfEntries entries + 1

def collectionsOf : List Node → Nat
  | [] => 0
  | n :: ns => collections n + collectionsOf ns

def collectionsOfEntries : List (Node × Node) → Nat
  | [] => 0
  | (k, v) :: rest => collections k + collections v + collectionsOfEntries rest

end

mutual

/-- The collection of a number, inside a node. -/
def find? (id : Nat) : Node → Option Node
  | .scalar _ _ | .again _ => none
  | .sequence i kind items =>
    if i == id then some (.sequence i kind items) else findIn? id items
  | .mapping i kind entries =>
    if i == id then some (.mapping i kind entries) else findInEntries? id entries

def findIn? (id : Nat) : List Node → Option Node
  | [] => none
  | n :: ns => (find? id n).or (findIn? id ns)

def findInEntries? (id : Nat) : List (Node × Node) → Option Node
  | [] => none
  | (k, v) :: rest => ((find? id k).or (find? id v)).or (findInEntries? id rest)

end

/-- The node itself, or the collection it stands for. -/
def resolve (root : Node) : Node → Node
  | .again id => (root.find? id).getD empty
  | n => n

def kind : Node → Kind
  | .scalar kind _ | .sequence _ kind _ | .mapping _ kind _ => kind
  | .again _ => .unknown

/-! ## Merging -/

/-- The key for a stand-in is a text in the mapping itself. -/
def plainKey : Node → Node
  | .scalar .standIn text => .scalar .text text
  | n => n

/-- The entries that a mapping's own ones bring in under `entriesOf`, and those that stay. -/
def splitEntries (root : Node) (entriesOf : Node → Option (List (Node × Node))) :
    List (Node × Node) → Option (List (Node × Node) × List (Node × Node))
  | [] => some ([], [])
  | (key, value) :: rest => do
    let (merged, own) ← splitEntries root entriesOf rest
    match key.kind, root.resolve value with
    | .merge, .sequence _ _ items =>
      let lists ← items.mapM fun n => entriesOf (root.resolve n)
      return (lists.reverse.flatten ++ merged, own)
    | .merge, n => return ((← entriesOf n) ++ merged, own)
    | _, _ => return (merged, (plainKey key, value) :: own)

/-- The entries of a mapping: those merged into it, then its own.  Inside itself a mapping brings
nothing in.  Nothing at all if something that is no mapping is merged. -/
def entriesOf (root : Node) : Nat → List Nat → Node → Option (List (Node × Node))
  | room + 1, inside, .mapping id _ entries =>
    if inside.contains id then some []
    else do
      let (merged, own) ← splitEntries root (entriesOf root room (id :: inside)) entries
      return merged ++ own
  | _, _, _ => none

/-! ## Conversion -/

/-- A fault and how deep it lies. -/
abbrev Finding := Option (Nat × Fault)

/-- The fault that is reported: the one nearer to the root, else the first. -/
def earlier : Finding → Finding → Finding
  | none, b => b
  | a, none => a
  | some (m, a), some (n, b) => if n < m then some (n, b) else some (m, a)

/-- The text of a mapping that has a stand-in for itself.  The room is enough for all mappings, so
that only one that stands for itself in the end can use it up, and with it the stack. -/
def standIn (root : Node) : Nat → Node → Except Fault Ragged
  | _, .scalar _ text => .ok text
  | 0, .mapping _ _ _ => .error .exhausted
  | room + 1, .mapping _ _ entries =>
    match entries.find? fun (k, _) => k.kind == .standIn with
    | some (_, v) => standIn root room (root.resolve v)
    | none => .error .malformed
  | _, _ => .error .malformed

/-- The only entry of a mapping. -/
def single? (root : Node) (n : Node) : Option (Node × Node) :=
  match root.resolve n with
  | .mapping _ _ [entry] => some entry
  | _ => none

/-- The data of a node at a depth, `inside` the collections given.  Where a fault is found the
data do not count. -/
def convert (root : Node) : Nat → List Nat → Nat → Node → Datum × Finding
  | 0, _, _, _ => (.null, none)
  | room + 1, inside, depth, n =>
    let fault (f : Fault) : Datum × Finding := (.null, some (depth, f))
    let late : Datum × Finding := (.null, some (depth + 1, .malformed))
    let scalar (kind : Kind) (text : Ragged) : Datum × Finding :=
      match Scalar.value kind text with
      | .ok d => (d, none)
      | .error f => fault f
    let part (inside : List Nat) (n : Node) := convert root room inside (depth + 1) n
    let listOf (id : Nat) (items : List Node) : Datum × Finding :=
      let parts := items.map (part (id :: inside))
      (.list (some id) (parts.map (·.1)), parts.foldl (fun f p => earlier f p.2) none)
    let pairsOf (id : Nat) (items : List Node) : Datum × Finding :=
      let parts := items.map fun n =>
        match single? root n with
        | some (k, v) =>
          let (k, f) := part (id :: inside) k
          let (v, g) := part (id :: inside) v
          (Datum.pair k v, earlier f g)
        | none => late
      (.list (some id) (parts.map (·.1)), parts.foldl (fun f p => earlier f p.2) none)
    let entries (id : Nat) : List (Datum × Datum) × Finding :=
      match entriesOf root root.collections.succ [] n with
      | none => ([], late.2)
      | some entries =>
        entries.foldl (fun (found, f) (k, v) =>
          let (k, g) := part (id :: inside) k
          let g := if k.isKey then g else earlier g late.2
          let (v, h) := part (id :: inside) v
          (Datum.insertEntry k v found, earlier (earlier f g) h)) ([], none)
    match n with
    | .again id => (.again id, none)
    | .scalar kind text =>
      if Scalar.hasTexts kind then scalar kind text
      else match kind with
        | .unknown | .merge | .standIn => fault .malformed
        | _ => late
    | .sequence id kind items =>
      if inside.contains id then (.again id, none)
      else match kind with
        | .sequence => listOf id items
        | .pairs | .orderedMap => pairsOf id items
        | .mapping | .set => late
        | _ => fault .malformed
    | .mapping id kind _ =>
      if inside.contains id then (.again id, none)
      else match kind with
        | .mapping =>
          let (found, f) := entries id
          (.record (some id) found, f)
        | .set =>
          let (found, f) := entries id
          (.set (some id) (found.map (·.1)), f)
        | .sequence | .pairs | .orderedMap => late
        | .unknown | .merge | .standIn => fault .malformed
        | kind =>
          match standIn root root.collections n with
          | .ok text => scalar kind text
          | .error f => fault f

/-- The data of a node, which is the root of its document. -/
def datum (root : Node) : Except Fault Datum :=
  match convert root (root.collections + 1) [] 0 root with
  | (d, none) => .ok d
  | (_, some (_, f)) => .error f

end Node

/-- What a loader has besides the format: words for a text that breaks it, and a stack. -/
structure Loader where
  complaint : String → String := fun _ => ""
  /-- The stack is used up by a text: its collections are nested too deeply, or too many of its
  mappings are merged into each other or stand for each other. -/
  exhausts : String → Bool := fun _ => false
  /-- What is said then. -/
  overflow : String → String := fun _ => "maximum recursion depth exceeded"

/-- The data that a text spells; a text without a document spells null. -/
def read (loader : Loader) (text : String) : Except Fault Datum := do
  if loader.exhausts text then throw .exhausted
  match ← Node.ofChars text.toList with
  | some root => root.datum
  | none => return .null

end UiTree.Yaml
