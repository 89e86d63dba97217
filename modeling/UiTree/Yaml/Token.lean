import UiTree.Yaml.Tag

/-!
# Tokens — a document as marks and scalars

Indentation becomes brackets: a collection laid out in lines is opened when a deeper column starts
it and closed when a line starts at a lesser column.
-/

namespace UiTree.Yaml

open UiTree.Text

inductive Token
  | directive (d : Directive)
  | documentStart
  | documentEnd
  | sequenceStart
  | mappingStart
  | blockEnd
  | flowSequenceStart
  | flowSequenceEnd
  | flowMappingStart
  | flowMappingEnd
  | entry
  | flowEntry
  | key
  | value
  | alias (name : String)
  | anchor (name : String)
  | tag (name : TagName)
  | scalar (plain : Bool) (text : Ragged)
  | finish
  deriving Inhabited, Repr

/-- A place where the text may turn out to be a key once a colon follows it. -/
structure KeyPlace where
  /-- How many tokens come before it. -/
  count : Nat
  /-- It starts a line of a mapping, so that it must be a key. -/
  required : Bool
  index : Nat
  line : Nat
  column : Nat
  deriving Repr

/-- What is read of a text so far, and the state that decides how it goes on. -/
structure Lexer where
  rest : List Char
  index : Nat := 0
  line : Nat := 0
  column : Nat := 0
  /-- Open flow collections. -/
  flow : Nat := 0
  /-- The column of the innermost collection laid out in lines; `-1` outside all. -/
  indent : Int := -1
  indents : List Int := []
  keyAllowed : Bool := true
  /-- The places that may be keys, by flow level, innermost first. -/
  places : List (Nat × KeyPlace) := []
  /-- Tokens, the latest first. -/
  tokens : List Token := []
  count : Nat := 0
  deriving Repr

namespace Lexer

/-! ## Position -/

/-- Past one character.  A byte order mark takes no column. -/
def forward (s : Lexer) : Lexer :=
  match s.rest with
  | [] => s
  | c :: rest =>
    let s := { s with rest, index := s.index + 1 }
    if isBreak c && !(c == '\r' && rest.head? == some '\n') then
      { s with line := s.line + 1, column := 0 }
    else if c == '\ufeff' then s
    else { s with column := s.column + 1 }

def skip : Nat → Lexer → Lexer
  | 0, s => s
  | n + 1, s => skip n s.forward

/-- On to the place where `rest` is left. -/
def goTo (s : Lexer) (rest : List Char) : Lexer :=
  s.skip (s.rest.length - rest.length)

def inFlow (s : Lexer) : Bool := s.flow != 0

/-! ## Tokens -/

def emit (t : Token) (s : Lexer) : Lexer :=
  { s with tokens := t :: s.tokens, count := s.count + 1 }

/-- Adds a token after the first `count` of them. -/
def insertAt (count : Nat) (t : Token) (s : Lexer) : Lexer :=
  let later := s.count - count
  { s with tokens := s.tokens.take later ++ t :: s.tokens.drop later, count := s.count + 1 }

/-- Emits a mark of `n` characters. -/
def mark (n : Nat) (t : Token) (s : Lexer) : Lexer :=
  (s.skip n).emit t

/-! ## Indentation -/

/-- Closes the collections that lie deeper than `column`. -/
def unwindFrom (column : Int) : List Int → Lexer → Lexer
  | [], s => s
  | outer :: indents, s =>
    if s.indent > column then
      unwindFrom column indents ({ s with indent := outer, indents }.emit .blockEnd)
    else s

def unwind (column : Int) (s : Lexer) : Lexer :=
  if s.inFlow then s else unwindFrom column s.indents s

/-- Opens a collection at a deeper column. -/
def deepen (column : Nat) (s : Lexer) : Option Lexer :=
  if s.indent < column then
    some { s with indents := s.indent :: s.indents, indent := column }
  else none

/-! ## Keys -/

/-- Gives up the places that lie too far back to be keys: on an earlier line, or more than 1024
characters ago. -/
def dropStale (s : Lexer) : Except Fault Lexer :=
  let stale (p : KeyPlace) := p.line != s.line || s.index - p.index > 1024
  if s.places.any fun (_, p) => stale p && p.required then .error .malformed
  else .ok { s with places := s.places.filter fun (_, p) => !stale p }

/-- Gives up the place of the current flow level. -/
def dropPlace (s : Lexer) : Except Fault Lexer :=
  if s.places.any fun (level, p) => level == s.flow && p.required then .error .malformed
  else .ok { s with places := s.places.filter (·.1 != s.flow) }

/-- Remembers the current place, if a key may stand here. -/
def savePlace (s : Lexer) : Except Fault Lexer :=
  if s.keyAllowed then do
    let s ← s.dropPlace
    let place : KeyPlace :=
      { count := s.count, required := !s.inFlow && s.indent == s.column, index := s.index,
        line := s.line, column := s.column }
    return { s with places := (s.flow, place) :: s.places }
  else .ok s

/-- The tokens before the first place that may still become a key are settled. -/
def settled (s : Lexer) : Nat :=
  s.places.foldl (fun n (_, p) => min n p.count) s.count

/-! ## Marks -/

def finish (s : Lexer) : Except Fault Lexer := do
  let s ← (s.unwind (-1)).dropPlace
  return { s with keyAllowed := false, places := [] }.emit .finish

def readDirective (s : Lexer) : Except Fault Lexer := do
  let s ← (s.unwind (-1)).dropPlace
  let (d, rest) ← directive (s.rest.drop 1)
  return ({ s with keyAllowed := false }.goTo rest).emit (.directive d)

def readSeparator (t : Token) (s : Lexer) : Except Fault Lexer := do
  let s ← (s.unwind (-1)).dropPlace
  return { s with keyAllowed := false }.mark 3 t

def openFlow (t : Token) (s : Lexer) : Except Fault Lexer := do
  let s ← s.savePlace
  return { s with flow := s.flow + 1, keyAllowed := true }.mark 1 t

def closeFlow (t : Token) (s : Lexer) : Except Fault Lexer := do
  let s ← s.dropPlace
  if s.inFlow then return { s with flow := s.flow - 1, keyAllowed := false }.mark 1 t
  else throw .malformed

def readFlowEntry (s : Lexer) : Except Fault Lexer := do
  let s ← { s with keyAllowed := true }.dropPlace
  return s.mark 1 .flowEntry

/-- Before an entry or a key that is laid out in lines: opens its collection if need be. -/
def openBlock (t : Token) (s : Lexer) : Except Fault Lexer :=
  if s.inFlow then .ok s
  else if !s.keyAllowed then .error .malformed
  else match s.deepen s.column with
    | some s => .ok (s.emit t)
    | none => .ok s

def readEntry (s : Lexer) : Except Fault Lexer := do
  let s ← s.openBlock .sequenceStart
  let s ← { s with keyAllowed := true }.dropPlace
  return s.mark 1 .entry

def readKey (s : Lexer) : Except Fault Lexer := do
  let s ← s.openBlock .mappingStart
  let s ← { s with keyAllowed := !s.inFlow }.dropPlace
  return s.mark 1 .key

/-- A colon turns the place remembered last on this flow level into a key. -/
def readValue (s : Lexer) : Except Fault Lexer :=
  match s.places.lookup s.flow with
  | some place =>
    let s := { s with places := s.places.filter (·.1 != s.flow), keyAllowed := false }
    let s := s.insertAt place.count .key
    let s :=
      if s.inFlow then s
      else match s.deepen place.column with
        | some s => s.insertAt place.count .mappingStart
        | none => s
    .ok (s.mark 1 .value)
  | none => do
    let s ← s.openBlock .mappingStart
    let s ← { s with keyAllowed := !s.inFlow }.dropPlace
    return s.mark 1 .value

/-! ## Names and scalars -/

def readAnchor (make : String → Token) (s : Lexer) : Except Fault Lexer := do
  let s ← s.savePlace
  let (name, rest) ← anchorName (s.rest.drop 1)
  return ({ s with keyAllowed := false }.goTo rest).emit (make name)

def readTag (s : Lexer) : Except Fault Lexer := do
  let s ← s.savePlace
  let (name, rest) ← tagName s.rest
  return ({ s with keyAllowed := false }.goTo rest).emit (.tag name)

def readBlock (fold : Bool) (s : Lexer) : Except Fault Lexer := do
  let s ← { s with keyAllowed := true }.dropPlace
  let (text, rest) ← block fold s.indent (s.rest.drop 1)
  return (s.goTo rest).emit (.scalar false (.ofChars text))

def readQuoted (reader : Nat → List Char → Except Fault (Ragged × List Char)) (s : Lexer) :
    Except Fault Lexer := do
  let s ← s.savePlace
  let (text, rest) ← reader s.rest.length (s.rest.drop 1)
  return ({ s with keyAllowed := false }.goTo rest).emit (.scalar false text)

def readPlain (s : Lexer) : Except Fault Lexer := do
  let s ← s.savePlace
  let (text, broken, rest) := plain s.inFlow (s.indent + 1).toNat s.rest.length s.rest
  return ({ s with keyAllowed := broken }.goTo rest).emit (.scalar true (.ofChars text))

/-! ## The next token -/

/-- Past blanks, comments and line breaks.  Outside flow collections a key may start a line. -/
def skipSpace : Nat → Lexer → Lexer
  | 0, s => s
  | room + 1, s =>
    let rest := skipBlanks s.rest
    let rest := match rest with
      | '#' :: _ => rest.dropWhile (!isBreak ·)
      | _ => rest
    let s := s.goTo rest
    match takeBreak? rest with
    | some (_, rest) =>
      let s := s.goTo rest
      skipSpace room { s with keyAllowed := s.keyAllowed || !s.inFlow }
    | none => s

/-- A plain text may start here. -/
def startsPlain (flow : Bool) : List Char → Bool
  | [] => false
  | c :: rest =>
    (!isGap c && !isIndicator c)
      || (!atGap rest && (c == '-' || (!flow && (c == '?' || c == ':'))))

/-- Reads the token at hand; the characters before it are skipped already. -/
def read (s : Lexer) : Except Fault Lexer :=
  match s.rest with
  | [] => s.finish
  | c :: rest =>
    let marksNext := s.inFlow || atGap rest
    if c == '%' && s.column == 0 then s.readDirective
    else if s.column == 0 && atSeparator s.rest then
      s.readSeparator (if c == '-' then .documentStart else .documentEnd)
    else if c == '[' then s.openFlow .flowSequenceStart
    else if c == '\x7b' then s.openFlow .flowMappingStart
    else if c == ']' then s.closeFlow .flowSequenceEnd
    else if c == '\x7d' then s.closeFlow .flowMappingEnd
    else if c == ',' then s.readFlowEntry
    else if c == '-' && atGap rest then s.readEntry
    else if c == '?' && marksNext then s.readKey
    else if c == ':' && marksNext then s.readValue
    else if c == '*' then s.readAnchor .alias
    else if c == '&' then s.readAnchor .anchor
    else if c == '!' then s.readTag
    else if c == '|' && !s.inFlow then s.readBlock false
    else if c == '>' && !s.inFlow then s.readBlock true
    else if c == '\'' then s.readQuoted singleQuoted
    else if c == '"' then s.readQuoted doubleQuoted
    else if startsPlain s.inFlow s.rest then s.readPlain
    else .error .malformed

/-- From the end of a token to the end of the next one. -/
def next (s : Lexer) : Except Fault Lexer := do
  let s ← (s.skipSpace (s.rest.length + 1)).dropStale
  let s ← (s.unwind s.column).read
  s.dropStale

/-- The settled tokens in order, and the fault that ends them, if there is one. -/
def run : Nat → Lexer → List Token × Option Fault
  | 0, s => (s.tokens.reverse, none)
  | room + 1, s =>
    if (s.tokens.head?.any fun | .finish => true | _ => false) then (s.tokens.reverse, none)
    else match s.next with
      | .ok s => run room s
      | .error fault => (s.tokens.reverse.take s.settled, some fault)

end Lexer

/-- The tokens of a text.  A byte order mark at its start is skipped.  Where a fault ends the
tokens, only those are given that do not depend on what comes after. -/
def tokens (cs : List Char) : List Token × Option Fault :=
  if !cs.all isAdmitted then ([], some .malformed)
  else
    let start : Lexer := { rest := cs }
    let start := if cs.head? == some '\ufeff' then start.forward else start
    start.run (cs.length + 2)

end UiTree.Yaml
