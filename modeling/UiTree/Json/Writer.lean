import UiTree.Json.Value

/-!
# Writer — values as JSON text

One value, one text: members in order, `", "` and `": "` as separators on one line, or one item per
line under an indent.  Either every character beyond ASCII is escaped or none is.  The text is that
of a value that is writable.
-/

namespace UiTree.Json

open UiTree.Number UiTree.Text

/-! ## Texts -/

def unicodeEscape (n : Nat) : List Char :=
  '\\' :: 'u' :: hexDigits 4 n

/-- Four-digit escapes; a code point above `U+FFFF` is written as a surrogate pair. -/
def escapeCode (n : Nat) : List Char :=
  if n < 0x10000 then unicodeEscape n
  else
    let rest := n - 0x10000
    unicodeEscape (0xd800 + rest / 0x400) ++ unicodeEscape (0xdc00 + rest % 0x400)

def writeChar (ascii : Bool) (c : Char) : List Char :=
  if c == '"' then ['\\', '"']
  else if c == '\\' then ['\\', '\\']
  else if c == '\n' then ['\\', 'n']
  else if c == '\r' then ['\\', 'r']
  else if c == '\t' then ['\\', 't']
  else if c == '\x0c' then ['\\', 'f']
  else if c == '\x08' then ['\\', 'b']
  else if c.toNat < 0x20 then unicodeEscape c.toNat
  else if ascii && 0x7f ≤ c.toNat then escapeCode c.toNat
  else [c]

def writeChars (ascii : Bool) (cs : List Char) : List Char :=
  '"' :: (cs.flatMap (writeChar ascii) ++ ['"'])

def writeString (ascii : Bool) (s : String) : String :=
  String.ofList (writeChars ascii s.toList)

def writeReal : Binary64 → String
  | .nan => "NaN"
  | .infinite negative => if negative then "-Infinity" else "Infinity"
  | x => x.text

/-! ## Values on one line -/

mutual

def write (ascii : Bool) : Json → String
  | .null => "null"
  | .bool b => if b then "true" else "false"
  | .int i => toString i
  | .real x => writeReal x
  | .str s => writeString ascii s
  | .arr items => "[" ++ ", ".intercalate (writeItems ascii items) ++ "]"
  | .obj members => "\x7b" ++ ", ".intercalate (writeMembers ascii members) ++ "\x7d"

def writeItems (ascii : Bool) : List Json → List String
  | [] => []
  | v :: vs => write ascii v :: writeItems ascii vs

def writeMembers (ascii : Bool) : List (String × Json) → List String
  | [] => []
  | (k, v) :: rest => (writeString ascii k ++ ": " ++ write ascii v) :: writeMembers ascii rest

end

/-! ## Values over several lines -/

def lineAt (depth : Nat) : String :=
  "\n" ++ String.ofList (List.replicate (2 * depth) ' ')

/-- The pieces of a collection one level further in, each on a line of its own. -/
def block (depth : Nat) (opening closing : String) : List String → String
  | [] => opening ++ closing
  | pieces =>
    opening ++ lineAt (depth + 1) ++ ("," ++ lineAt (depth + 1)).intercalate pieces
      ++ lineAt depth ++ closing

mutual

/-- Two blanks per level; empty collections stay on their line. -/
def writeIndented (depth : Nat) : Json → String
  | .arr items => block depth "[" "]" (indentedItems (depth + 1) items)
  | .obj members => block depth "\x7b" "\x7d" (indentedMembers (depth + 1) members)
  | .null => "null"
  | .bool b => if b then "true" else "false"
  | .int i => toString i
  | .real x => writeReal x
  | .str s => writeString false s

def indentedItems (depth : Nat) : List Json → List String
  | [] => []
  | v :: vs => writeIndented depth v :: indentedItems depth vs

def indentedMembers (depth : Nat) : List (String × Json) → List String
  | [] => []
  | (k, v) :: rest =>
    (writeString false k ++ ": " ++ writeIndented depth v) :: indentedMembers depth rest

end

end UiTree.Json
