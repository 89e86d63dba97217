/-!
# Character classes of the block-structured data format

The end of the text counts as a character that ends lines and words.
-/

namespace UiTree.Yaml

/-- Characters that may stand in a document at all. -/
def isAdmitted (c : Char) : Bool :=
  let n := c.toNat
  n == 0x09 || n == 0x0a || n == 0x0d || (0x20 ≤ n && n ≤ 0x7e) || n == 0x85
    || (0xa0 ≤ n && n ≤ 0xd7ff) || (0xe000 ≤ n && n ≤ 0xfffd) || 0x10000 ≤ n

def isBreak (c : Char) : Bool :=
  c == '\n' || c == '\r' || c == '\x85' || c == '\u2028' || c == '\u2029'

/-- A blank, a tab or a line break. -/
def isGap (c : Char) : Bool :=
  c == ' ' || c == '\t' || isBreak c

/-- Marks that delimit flow collections. -/
def isFlowMark (c : Char) : Bool :=
  c == ',' || c == '[' || c == ']' || c == '\x7b' || c == '\x7d'

/-- Marks with which no plain text starts, unless one of `-?:` goes on without a gap. -/
def isIndicator (c : Char) : Bool :=
  "-?:,[]\x7b\x7d#&*!|>'\"%@\x60".toList.contains c

/-- What names of anchors, directives and tag handles are made of. -/
def isNameChar (c : Char) : Bool :=
  c.isAlphanum || c == '-' || c == '_'

/-- What a tag is made of, percent escapes apart. -/
def isTagChar (c : Char) : Bool :=
  c.isAlphanum || "-;/?:@&=+$,_.!~*'()[]".toList.contains c

/-- The class holds of the first character, or there is none. -/
def startsWith (test : Char → Bool) : List Char → Bool
  | [] => true
  | c :: _ => test c

/-- At a gap or at the end. -/
def atGap (cs : List Char) : Bool := startsWith isGap cs

/-- At the end of a line or at a blank, but not at a tab. -/
def atBlank (cs : List Char) : Bool := startsWith (fun c => c == ' ' || isBreak c) cs

/-- One of the two marks that separate documents. -/
def atSeparator : List Char → Bool
  | '-' :: '-' :: '-' :: rest => atGap rest
  | '.' :: '.' :: '.' :: rest => atGap rest
  | _ => false

/-- Takes a line break: the ASCII ones and the next line mark read as a line feed. -/
def takeBreak? : List Char → Option (Char × List Char)
  | '\r' :: '\n' :: rest => some ('\n', rest)
  | c :: rest =>
    if c == '\r' || c == '\n' || c == '\x85' then some ('\n', rest)
    else if isBreak c then some (c, rest)
    else none
  | [] => none

def skipBlanks (cs : List Char) : List Char := cs.dropWhile (· == ' ')

/-- Blanks, a comment and the line break after it; anything else is an error. -/
def skipRestOfLine? (cs : List Char) : Option (List Char) :=
  let cs := skipBlanks cs
  let cs := match cs with
    | '#' :: _ => cs.dropWhile (!isBreak ·)
    | _ => cs
  match cs with
  | [] => some []
  | cs => (takeBreak? cs).map (·.2)

end UiTree.Yaml
