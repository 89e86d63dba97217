import UiTree.Json.Value
import UiTree.Number.Notation
import UiTree.Number.Whole

/-!
# Templates — messages with places for values

A place is a percent sign, perhaps the name of a value in brackets, flags, a width, a precision and
a letter for the kind of conversion; two percent signs are one.  Without names the values are taken
in order, and all must be used.  A template that does not fit its values has no text.
-/

namespace UiTree.Template

open UiTree.Number UiTree.Text

/-- How a value is to be shown. -/
structure Place where
  left : Bool := false
  plus : Bool := false
  blank : Bool := false
  alternate : Bool := false
  zero : Bool := false
  width : Option Nat := none
  precision : Option Nat := none
  deriving Repr

/-- The values that are left. -/
structure Supply where
  /-- Values by their names. -/
  named : Option (List (String × Json)) := none
  row : List Json

/-- Several values in order, or one record with names. -/
def Supply.ofList (values : List Json) : Supply :=
  match values with
  | [.obj (m :: ms)] => { named := some (m :: ms), row := [.obj (m :: ms)] }
  | values => { row := values }

def Supply.next (s : Supply) : Option (Json × Supply) :=
  match s.row with
  | v :: row => some (v, { s with row })
  | [] => none

/-- Everything was used, or there were names to choose from. -/
def Supply.isSpent (s : Supply) : Bool := s.row.isEmpty || s.named.isSome

/-! ## Reading a place -/

/-- A name up to the bracket that closes it; brackets inside come in pairs. -/
def nameFrom (depth : Nat) (read : List Char) : List Char → Option (List Char × List Char)
  | [] => none
  | ')' :: cs =>
    match depth with
    | 0 => some (read.reverse, cs)
    | depth + 1 => nameFrom depth (')' :: read) cs
  | '(' :: cs => nameFrom (depth + 1) ('(' :: read) cs
  | c :: cs => nameFrom depth (c :: read) cs

/-- Turns to the value of a name, if there is one. -/
def takeName (s : Supply) : List Char → Option (Supply × List Char)
  | '(' :: cs => do
    let members ← s.named
    let (name, rest) ← nameFrom 0 [] cs
    let v ← members.lookup (String.ofList name)
    return ({ s with row := [v] }, rest)
  | cs => some (s, cs)

def takeFlags (p : Place) : List Char → Place × List Char
  | '-' :: cs => takeFlags { p with left := true } cs
  | '+' :: cs => takeFlags { p with plus := true } cs
  | ' ' :: cs => takeFlags { p with blank := true } cs
  | '#' :: cs => takeFlags { p with alternate := true } cs
  | '0' :: cs => takeFlags { p with zero := true } cs
  | cs => (p, cs)

def whole? : Json → Option Int
  | .int i => some i
  | .bool b => some (if b then 1 else 0)
  | _ => none

def digitsValue (ds : List Char) : Nat :=
  ds.foldl (fun n d => n * 10 + (d.toNat - 0x30)) 0

/-- A width, given in digits or as a value; a negative one means to the left. -/
def takeWidth (p : Place) (s : Supply) (cs : List Char) : Option (Place × Supply × List Char) :=
  match cs with
  | '*' :: cs => do
    let (v, s) ← s.next
    let w ← whole? v
    return ({ p with width := some w.natAbs, left := p.left || w < 0 }, s, cs)
  | _ =>
    let ds := cs.takeWhile Char.isDigit
    if ds.isEmpty then some (p, s, cs)
    else some ({ p with width := some (digitsValue ds) }, s, cs.dropWhile Char.isDigit)

def takePrecision (p : Place) (s : Supply) (cs : List Char) : Option (Place × Supply × List Char) :=
  match cs with
  | '.' :: '*' :: cs => do
    let (v, s) ← s.next
    let n ← whole? v
    return ({ p with precision := some n.toNat }, s, cs)
  | '.' :: cs =>
    let ds := cs.takeWhile Char.isDigit
    some ({ p with precision := some (digitsValue ds) }, s, cs.dropWhile Char.isDigit)
  | cs => some (p, s, cs)

/-- A letter for the size of a number says nothing here. -/
def dropSize : List Char → List Char
  | c :: cs => if c == 'h' || c == 'l' || c == 'L' then cs else c :: cs
  | [] => []

/-! ## Showing a value -/

/-- Fills up to the width of a place; a sign and the mark of a base stay in front of zeros. -/
def pad (p : Place) (fill : Char) (front body : List Char) : List Char :=
  let missing := (p.width.getD 0) - (front.length + body.length)
  if p.left then front ++ body ++ List.replicate missing ' '
  else if fill == ' ' then List.replicate missing ' ' ++ front ++ body
  else front ++ List.replicate missing fill ++ body

def padText (p : Place) (cs : List Char) : List Char := pad p ' ' [] cs

def padNumber (p : Place) (negative : Bool) (mark body : List Char) : List Char :=
  let sign := if negative then ['-'] else if p.plus then ['+'] else if p.blank then [' '] else []
  pad p (if p.zero then '0' else ' ') (sign ++ mark) body

def textOf (p : Place) (s : String) : List Char :=
  match p.precision with
  | some n => padText p (s.toList.take n)
  | none => padText p s.toList

/-- The literal of a value in ASCII. -/
def asciiLiteral (v : Json) : String :=
  String.ofList (v.literal.toList.flatMap fun c =>
    if c.toNat < 0x80 then [c] else codeEscape c.toNat)

/-- The integer a number is cut to. -/
def truncated? : Json → Option Int
  | .real (.finite negative m e) =>
    let (num, den) := Binary64.magnitude m e
    some (signed negative (num / den))
  | v => whole? v

def integerOf (p : Place) (base : Nat) (mark : List Char) (upper : Bool) (i : Int) : List Char :=
  let ds := Nat.toDigits base i.natAbs
  let ds := if upper then ds.map Char.toUpper else ds
  let ds := List.replicate ((p.precision.getD 0) - ds.length) '0' ++ ds
  padNumber p (i < 0) (if p.alternate then mark else []) ds

/-- The double of a number, unless it is too large. -/
def double? : Json → Option Binary64
  | .real x => some x
  | v =>
    (whole? v).bind fun i =>
      match Binary64.ofRatio (i < 0) i.natAbs 1 with
      | .infinite _ => none
      | x => some x

def realOf (p : Place) (n : Notation) (upper : Bool) (x : Binary64) : List Char :=
  let body := n.magnitudeText p.alternate (p.precision.getD 6) x
  padNumber p x.isNegative [] (if upper then body.map Char.toUpper else body)

/-- A single character, as such or by its code point. -/
def character? : Json → Option Char
  | .str s =>
    match s.toList with
    | [c] => some c
    | _ => none
  | v =>
    (whole? v).bind fun i =>
      if 0 ≤ i && i.toNat.isValidChar then some (Char.ofNat i.toNat) else none

/-- The value, unless it has an integer in it that cannot be converted to text. -/
def writable? (v : Json) : Option Json := if v.isWritable then some v else none

def show? (p : Place) (kind : Char) (v : Json) : Option (List Char) :=
  match kind with
  | 's' => (writable? v).map fun v => textOf p v.plain
  | 'r' => (writable? v).map fun v => textOf p v.literal
  | 'a' => (writable? v).map fun v => textOf p (asciiLiteral v)
  | 'd' | 'i' | 'u' => (writable? v).bind fun v => (truncated? v).map (integerOf p 10 [] false)
  | 'o' => (whole? v).map (integerOf p 8 ['0', 'o'] false)
  | 'x' => (whole? v).map (integerOf p 16 ['0', 'x'] false)
  | 'X' => (whole? v).map (integerOf p 16 ['0', 'X'] true)
  | 'e' => (double? v).map (realOf p .scientific false)
  | 'E' => (double? v).map (realOf p .scientific true)
  | 'f' => (double? v).map (realOf p .fixed false)
  | 'F' => (double? v).map (realOf p .fixed true)
  | 'g' => (double? v).map (realOf p .general false)
  | 'G' => (double? v).map (realOf p .general true)
  | 'c' => (character? v).map fun c => padText p [c]
  | _ => none

/-! ## Whole templates -/

/-- The largest width and precision. -/
def sizeLimit : Nat := 0x7fffffff

/-- A place behind its percent sign: its text, the values left, and what follows. -/
def place? (s : Supply) (cs : List Char) : Option (List Char × Supply × List Char) := do
  let (s, cs) ← takeName s cs
  let (p, cs) := takeFlags {} cs
  let (p, s, cs) ← takeWidth p s cs
  let (p, s, cs) ← takePrecision p s cs
  match dropSize cs with
  | [] => none
  | kind :: cs =>
    if sizeLimit < p.width.getD 0 || sizeLimit < p.precision.getD 0 then none
    else
      let (v, s) ← s.next
      let shown ← show? p kind v
      return (shown, s, cs)

/-- The text of a template; `room` bounds the number of places. -/
def fillFrom (s : Supply) : Nat → List Char → Option (List Char)
  | 0, _ => none
  | _ + 1, [] => if s.isSpent then some [] else none
  | room + 1, '%' :: '%' :: cs => do
    let tail ← fillFrom s room cs
    return '%' :: tail
  | room + 1, '%' :: cs => do
    let (shown, s, rest) ← place? s cs
    let tail ← fillFrom s room rest
    return shown ++ tail
  | room + 1, c :: cs => do
    let tail ← fillFrom s room cs
    return c :: tail

/-- A message with values in its places; without values it is taken as it is. -/
def fill (message : String) (values : List Json) : Option String :=
  if values.isEmpty then some message
  else
    let cs := message.toList
    (fillFrom (Supply.ofList values) (cs.length + 1) cs).map String.ofList

@[simp] theorem fill_nil (message : String) : fill message [] = some message := rfl

end UiTree.Template
