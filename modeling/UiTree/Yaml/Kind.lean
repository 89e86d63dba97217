import UiTree.Yaml.Timestamp
import UiTree.Yaml.Scalar

/-!
# Kinds — what a value is, by its tag or by how its text looks
-/

namespace UiTree.Yaml

inductive Kind
  | null
  | bool
  | int
  | real
  | timestamp
  | binary
  | text
  | sequence
  | mapping
  | set
  | pairs
  | orderedMap
  /-- The key whose value is merged into the mapping. -/
  | merge
  /-- The key whose value stands for the mapping. -/
  | standIn
  | unknown
  deriving DecidableEq, Repr, Inhabited

namespace Kind

/-- What the standard tags start with. -/
def tagHead : String := "tag:yaml.org,2002:"

def standardTags : List (String × Kind) :=
  [("null", .null), ("bool", .bool), ("int", .int), ("float", .real), ("timestamp", .timestamp),
   ("binary", .binary), ("str", .text), ("seq", .sequence), ("map", .mapping), ("set", .set),
   ("pairs", .pairs), ("omap", .orderedMap), ("merge", .merge), ("value", .standIn)]

/-- The kind a full tag names. -/
def ofTag (tag : String) : Kind :=
  ((standardTags.map fun (name, kind) => (tagHead ++ name, kind)).lookup tag).getD .unknown

/-! ## Kinds of plain texts -/

def truthWords : List String :=
  ["yes", "Yes", "YES", "no", "No", "NO", "true", "True", "TRUE", "false", "False", "FALSE",
   "on", "On", "ON", "off", "Off", "OFF"]

def nullWords : List String := ["~", "null", "Null", "NULL", ""]

def isDigitOrLine (c : Char) : Bool := c.isDigit || c == '_'

/-- A sign may come first. -/
def dropSign : List Char → List Char
  | '-' :: cs => cs
  | '+' :: cs => cs
  | cs => cs

def allAndSome (test : Char → Bool) (cs : List Char) : Bool :=
  !cs.isEmpty && cs.all test

/-- Groups of base 60, each after a colon and below 60; what follows them. -/
def sixties : Nat → List Char → Nat × List Char
  | 0, cs => (0, cs)
  | room + 1, ':' :: c :: d :: rest =>
    if '0' ≤ c && c ≤ '5' && d.isDigit then
      let (n, rest) := sixties room rest
      (n + 1, rest)
    else if c.isDigit then
      let (n, rest) := sixties room (d :: rest)
      (n + 1, rest)
    else (0, ':' :: c :: d :: rest)
  | _ + 1, [':', c] => if c.isDigit then (1, []) else (0, [':', c])
  | _ + 1, cs => (0, cs)

def isBinaryDigit (c : Char) : Bool := c == '0' || c == '1' || c == '_'

def isOctalDigit (c : Char) : Bool := ('0' ≤ c && c ≤ '7') || c == '_'

def isHexDigit (c : Char) : Bool := (hexValue? c).isSome || c == '_'

def looksInt (cs : List Char) : Bool :=
  match dropSign cs with
  | '0' :: rest =>
    rest.isEmpty || rest.all isOctalDigit
      || (match rest with
          | 'b' :: ds => allAndSome isBinaryDigit ds
          | 'x' :: ds => allAndSome isHexDigit ds
          | _ => false)
  | c :: rest =>
    c.isDigit
      && (let rest := rest.dropWhile isDigitOrLine
          rest.isEmpty || (let (n, rest) := sixties rest.length rest; 0 < n && rest.isEmpty))
  | [] => false

/-- A signed exponent, or nothing. -/
def endsReal (cs : List Char) : Bool :=
  match cs with
  | [] => true
  | e :: sign :: ds =>
    (e == 'e' || e == 'E') && (sign == '-' || sign == '+') && allAndSome Char.isDigit ds
  | _ => false

def looksReal (cs : List Char) : Bool :=
  let body := dropSign cs
  let special := match body with
    | '.' :: word =>
      ["inf", "Inf", "INF"].contains (String.ofList word)
        || (body.length == cs.length && ["nan", "NaN", "NAN"].contains (String.ofList word))
    | _ => false
  let small := match cs with
    | '.' :: c :: rest => c.isDigit && endsReal (rest.dropWhile isDigitOrLine)
    | _ => false
  let large := match body with
    | c :: rest =>
      c.isDigit
        && (match rest.dropWhile isDigitOrLine with
            | '.' :: rest => endsReal (rest.dropWhile isDigitOrLine)
            | rest =>
              match sixties rest.length rest with
              | (_ + 1, '.' :: rest) => rest.all isDigitOrLine
              | _ => false)
    | [] => false
  special || small || large

/-- One line feed at the end does not count. -/
def dropFinalBreak (cs : List Char) : List Char :=
  match cs.reverse with
  | '\n' :: rest => rest.reverse
  | _ => cs

/-- The kind of a text that carries no tag and no quotes. -/
def implied (text : List Char) : Kind :=
  if text.isEmpty then .null
  else
    let cs := dropFinalBreak text
    let word := String.ofList cs
    if cs.isEmpty then .text
    else if truthWords.contains word then .bool
    else if looksReal cs then .real
    else if looksInt cs then .int
    else if word == "<<" then .merge
    else if nullWords.contains word then .null
    else if Timestamp.isImplied text then .timestamp
    else if word == "=" then .standIn
    else if word == "!" || word == "&" || word == "*" then .unknown
    else .text

end Kind

end UiTree.Yaml
