import UiTree.Text.Ragged
import UiTree.Yaml.Class
import UiTree.Yaml.Fault

/-!
# Scalars — the four ways to write a text

Quoted in two ways, plain, or as a block of lines.  Each reader takes the characters after the
opening mark and gives back the text and the characters it did not use.  Only between double quotes
can a text hold halves of characters, where an escape names one.
-/

namespace UiTree.Yaml

open UiTree.Text

/-! ## Lines inside quotes -/

/-- The line breaks up to the next text, blanks at their line's start dropped.  A document mark at
the start of a line is an error. -/
def quotedBreaks : Nat → List Char → Except Fault (List Char × List Char)
  | 0, cs => .ok ([], cs)
  | room + 1, cs =>
    if atSeparator cs then .error .malformed
    else
      let cs := cs.dropWhile fun c => c == ' ' || c == '\t'
      match takeBreak? cs with
      | some (b, rest) => do
        let (bs, rest) ← quotedBreaks room rest
        return (b :: bs, rest)
      | none => return ([], cs)

/-- A fold: one line feed reads as a blank unless empty lines follow it. -/
def folded (lineBreak : Char) (breaks : List Char) : List Char :=
  (if lineBreak != '\n' then [lineBreak] else if breaks.isEmpty then [' '] else []) ++ breaks

/-- White space inside quotes: kept within a line, folded across lines. -/
def quotedSpace (cs : List Char) : Except Fault (List Char × List Char) :=
  let inLine (c : Char) := c == ' ' || c == '\t'
  let rest := cs.dropWhile inLine
  match rest with
  | [] => .error .malformed
  | _ =>
    match takeBreak? rest with
    | some (b, rest) => do
      let (bs, rest) ← quotedBreaks rest.length rest
      return (folded b bs, rest)
    | none => .ok (cs.takeWhile inLine, rest)

/-! ## Escapes -/

/-- The character a one-letter escape stands for. -/
def escape? (c : Char) : Option Char :=
  match c with
  | '0' => some '\x00'
  | 'a' => some '\x07'
  | 'b' => some '\x08'
  | 't' => some '\x09'
  | '\t' => some '\x09'
  | 'n' => some '\x0a'
  | 'v' => some '\x0b'
  | 'f' => some '\x0c'
  | 'r' => some '\x0d'
  | 'e' => some '\x1b'
  | ' ' => some ' '
  | '"' => some '"'
  | '\\' => some '\\'
  | '/' => some '/'
  | 'N' => some '\x85'
  | '_' => some '\xa0'
  | 'L' => some '\u2028'
  | 'P' => some '\u2029'
  | _ => none

/-- How many hexadecimal digits follow an escape letter. -/
def escapeWidth? (c : Char) : Option Nat :=
  match c with
  | 'x' => some 2
  | 'u' => some 4
  | 'U' => some 8
  | _ => none

def hexValue? (c : Char) : Option Nat :=
  if '0' ≤ c && c ≤ '9' then some (c.toNat - 0x30)
  else if 'a' ≤ c && c ≤ 'f' then some (c.toNat - 0x61 + 10)
  else if 'A' ≤ c && c ≤ 'F' then some (c.toNat - 0x41 + 10)
  else none

/-- The number that the next `width` hexadecimal digits spell. -/
def hexNumber? : Nat → Nat → List Char → Option (Nat × List Char)
  | 0, acc, cs => some (acc, cs)
  | _ + 1, _, [] => none
  | width + 1, acc, c :: cs =>
    match hexValue? c with
    | some d => hexNumber? width (acc * 16 + d) cs
    | none => none

/-- The text a code point stands for. -/
def codePoint (n : Nat) : Except Fault Ragged :=
  if n > 0x7fffffff then
    .error (.conversion "OverflowError" "Python int too large to convert to C int")
  else if n > 0x10ffff then .error (.value "chr() arg not in range(0x110000)")
  else if 0xd800 ≤ n && n < 0xe000 then .ok { points := [.ofHalfCode n] }
  else .ok (.ofChars [Char.ofNat n])

/-- What follows a backslash. -/
def escaped (cs : List Char) : Except Fault (Ragged × List Char) :=
  match cs with
  | [] => .error .malformed
  | c :: rest =>
    match escape? c, escapeWidth? c with
    | some e, _ => .ok (.ofChars [e], rest)
    | none, some width =>
      match hexNumber? width 0 rest with
      | some (n, rest) => do
        let t ← codePoint n
        return (t, rest)
      | none => .error .malformed
    | none, none =>
      match takeBreak? cs with
      | some (_, rest) => do
        let (bs, rest) ← quotedBreaks rest.length rest
        return (.ofChars bs, rest)
      | none => .error .malformed

/-! ## Quoted texts -/

/-- After a double quote, up to the closing one. -/
def doubleQuoted : Nat → List Char → Except Fault (Ragged × List Char)
  | 0, _ => .error .malformed
  | _ + 1, [] => .error .malformed
  | room + 1, c :: cs => do
    if c == '"' then return (.ofChars [], cs)
    else
      let (piece, rest) ←
        if c == '\\' then escaped cs
        else if isGap c then do
          let (space, rest) ← quotedSpace (c :: cs)
          pure (Ragged.ofChars space, rest)
        else pure (Ragged.ofChars [c], cs)
      let (t, rest) ← doubleQuoted room rest
      return (piece ++ t, rest)

/-- After a single quote, up to the closing one; a quote in the text is written twice. -/
def singleQuoted : Nat → List Char → Except Fault (Ragged × List Char)
  | 0, _ => .error .malformed
  | _ + 1, [] => .error .malformed
  | room + 1, '\'' :: '\'' :: cs => do
    let (t, rest) ← singleQuoted room cs
    return (.ofChars ['\''] ++ t, rest)
  | room + 1, c :: cs => do
    if c == '\'' then return (.ofChars [], cs)
    else
      let (piece, rest) ← if isGap c then quotedSpace (c :: cs) else pure ([c], cs)
      let (t, rest) ← singleQuoted room rest
      return (.ofChars piece ++ t, rest)

/-! ## Plain texts -/

/-- Where a run of plain text ends: at a gap, at a colon before one, and in a flow collection at
its marks too. -/
def endsPlain (flow : Bool) : List Char → Bool
  | [] => true
  | c :: rest =>
    isGap c
      || (c == ':' && startsWith (fun d => isGap d || (flow && isFlowMark d)) rest)
      || (flow && (c == '?' || isFlowMark c))

def plainRun (flow : Bool) : List Char → List Char × List Char
  | [] => ([], [])
  | c :: cs =>
    if endsPlain flow (c :: cs) then ([], c :: cs)
    else
      let (run, rest) := plainRun flow cs
      (c :: run, rest)

/-- Line breaks and blanks after a line of plain text: the breaks, the blanks on the last line and
the rest.  Without breaks if a document mark stands at the start of a line, where the text ends. -/
def plainBreaks : Nat → Nat → List Char → Option (List Char) × Nat × List Char
  | 0, column, cs => (some [], column, cs)
  | _ + 1, column, [] => (some [], column, [])
  | room + 1, column, c :: cs =>
    if c == ' ' then plainBreaks room (column + 1) cs
    else
      match takeBreak? (c :: cs) with
      | some (b, rest) =>
        if atSeparator rest then (none, 0, rest)
        else
          let (bs, column, rest) := plainBreaks room 0 rest
          (bs.map (b :: ·), column, rest)
      | none => (some [], column, c :: cs)

/-- What stands between two runs of a plain text. -/
structure PlainGap where
  /-- What it reads as; nothing if the text ends here. -/
  space : List Char
  /-- Blanks before the next run, if that is on a line of its own. -/
  column? : Option Nat
  rest : List Char

/-- Blanks, or line breaks with the blanks around them. -/
def plainGap (cs : List Char) : PlainGap :=
  let rest := skipBlanks cs
  match takeBreak? rest with
  | none => { space := cs.takeWhile (· == ' '), column? := none, rest }
  | some (b, rest) =>
    if atSeparator rest then { space := [], column? := some 0, rest }
    else
      let (breaks, column, rest) := plainBreaks rest.length 0 rest
      { space := (breaks.map (folded b)).getD [], column? := some column, rest }

/-- A plain text, and whether it was followed by a line break.  Runs on further lines must be
indented by `indent` blanks at least, unless inside a flow collection. -/
def plain (flow : Bool) (indent : Nat) : Nat → List Char → List Char × Bool × List Char
  | 0, cs => ([], false, cs)
  | room + 1, cs =>
    let (run, rest) := plainRun flow cs
    let gap := plainGap rest
    let stays := match gap.column? with
      | some column => !flow && column < indent
      | none => false
    let goesOn := match gap.rest with
      | [] => false
      | c :: _ => c != '#' && !endsPlain flow gap.rest
    if gap.space.isEmpty || stays || !goesOn then (run, gap.column?.isSome, gap.rest)
    else
      let (more, broken, rest) := plain flow indent room gap.rest
      (run ++ gap.space ++ more, broken, rest)

/-! ## Blocks of lines -/

/-- What becomes of the line breaks at the end of a block. -/
inductive Chomping
  | strip
  | clip
  | keep
  deriving DecidableEq, Repr

def chomping? : List Char → Option (Chomping × List Char)
  | '+' :: rest => some (.keep, rest)
  | '-' :: rest => some (.strip, rest)
  | _ => none

/-- The digit for an explicit indent; zero is an error. -/
def blockIndent? : List Char → Except Fault (Option Nat × List Char)
  | [] => .ok (none, [])
  | c :: rest =>
    if c == '0' then .error .malformed
    else if c.isDigit then .ok (some (c.toNat - 0x30), rest)
    else .ok (none, c :: rest)

/-- The chomping mark and the indent, in either order. -/
def blockHeader (cs : List Char) : Except Fault (Chomping × Option Nat × List Char) := do
  let (chomping, indent, rest) ←
    match chomping? cs with
    | some (chomping, rest) => do
      let (indent, rest) ← blockIndent? rest
      pure (chomping, indent, rest)
    | none => do
      let (indent, rest) ← blockIndent? cs
      match indent, chomping? rest with
      | some _, some (chomping, rest) => pure (chomping, indent, rest)
      | _, _ => pure (.clip, indent, rest)
  if atBlank rest then return (chomping, indent, rest) else throw .malformed

/-- The empty lines at the start of a block, the greatest column reached by blanks, the column
reached on the last line, and the rest. -/
def leadingLines : Nat → Nat → Nat → List Char → List Char × Nat × Nat × List Char
  | 0, column, widest, cs => ([], widest, column, cs)
  | _ + 1, column, widest, [] => ([], widest, column, [])
  | room + 1, column, widest, c :: cs =>
    if c == ' ' then leadingLines room (column + 1) (max widest (column + 1)) cs
    else
      match takeBreak? (c :: cs) with
      | some (b, rest) =>
        let (bs, widest, column, rest) := leadingLines room 0 widest rest
        (b :: bs, widest, column, rest)
      | none => ([], widest, column, c :: cs)

/-- Empty lines, with up to `indent` blanks each, and the blanks before the next line: how many
there are, `indent` at most. -/
def blockBreaks (indent : Nat) : Nat → List Char → List Char × Nat × List Char
  | 0, cs => ([], 0, cs)
  | room + 1, cs =>
    let blanks := ((cs.take indent).takeWhile (· == ' ')).length
    let cs := cs.drop blanks
    match takeBreak? cs with
    | some (b, rest) =>
      let (bs, column, rest) := blockBreaks indent room rest
      (b :: bs, column, rest)
    | none => ([], blanks, cs)

/-- The lines of a block, the breaks before the first of them given. -/
def blockLines (fold : Bool) (chomping : Chomping) (indent : Nat) :
    Nat → List Char → List Char → List Char × List Char
  | 0, _, cs => ([], cs)
  | room + 1, breaks, cs =>
    let line := cs.takeWhile (!isBreak ·)
    let indented := startsWith (fun c => c == ' ' || c == '\t') cs
    let rest := cs.drop line.length
    let (lineBreak, rest) := match takeBreak? rest with
      | some (b, rest) => ([b], rest)
      | none => ([], rest)
    let (next, column, rest) := blockBreaks indent rest.length rest
    if column == indent && !rest.isEmpty then
      let joint :=
        if fold && lineBreak == ['\n'] && !indented
            && !startsWith (fun c => c == ' ' || c == '\t') rest then
          (if next.isEmpty then [' '] else [])
        else lineBreak
      let (more, rest) := blockLines fold chomping indent room next rest
      (breaks ++ line ++ joint ++ more, rest)
    else
      let ending := match chomping with
        | .strip => []
        | .clip => lineBreak
        | .keep => lineBreak ++ next
      (breaks ++ line ++ ending, rest)

/-- After the mark of a block inside a collection at `outer` columns (`-1` at the top). -/
def block (fold : Bool) (outer : Int) (cs : List Char) : Except Fault (List Char × List Char) := do
  let (chomping, explicit, rest) ← blockHeader cs
  let some rest := skipRestOfLine? rest | throw .malformed
  let least := (max 1 (outer + 1)).toNat
  let (indent, breaks, column, rest) :=
    match explicit with
    | none =>
      let (breaks, widest, column, rest) := leadingLines rest.length 0 0 rest
      (max least widest, breaks, column, rest)
    | some increment =>
      let indent := least + increment - 1
      let (breaks, column, rest) := blockBreaks indent rest.length rest
      (indent, breaks, column, rest)
  if column == indent && !rest.isEmpty then
    return blockLines fold chomping indent rest.length breaks rest
  else
    return (match chomping with | .keep => breaks | _ => [], rest)

end UiTree.Yaml
