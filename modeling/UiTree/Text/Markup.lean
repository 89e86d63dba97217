import UiTree.Text.Pictograph

/-!
# Markup — tags in square brackets

A text for a terminal may hold tags.  A backslash before a tag makes it plain text, and two of them
stand for one; `escape` adds what is needed for a text to hold no tags.  Names of pictographs are
replaced, escaped or not.
-/

namespace UiTree.Text.Markup

def isTagStart (c : Char) : Bool := ('a' ≤ c && c ≤ 'z') || c == '#' || c == '/' || c == '@'

/-- A tag at the head, with its brackets, and what follows it. -/
def tag? : List Char → Option (List Char × List Char)
  | '[' :: c :: cs =>
    let isInside (c : Char) : Bool := c != '[' && c != ']'
    if isTagStart c then
      match cs.dropWhile isInside with
      | ']' :: rest => some ('[' :: c :: (cs.takeWhile isInside ++ [']']), rest)
      | _ => none
    else none
  | _ => none

/-! ## Escaping -/

/-- `slashes` backslashes came just before. -/
def escapeFrom (slashes : Nat) : Nat → List Char → List Char
  | 0, cs => cs
  | _ + 1, [] => List.replicate slashes '\\'
  | room + 1, '\\' :: cs => escapeFrom (slashes + 1) room cs
  | room + 1, c :: cs =>
    match tag? (c :: cs) with
    | some (tag, rest) => List.replicate (2 * slashes + 1) '\\' ++ tag ++ escapeFrom 0 room rest
    | none => List.replicate slashes '\\' ++ c :: escapeFrom 0 room cs

/-- A single backslash at the end is doubled. -/
def closeSlash (cs : List Char) : List Char :=
  match cs.reverse with
  | ['\\'] => cs ++ ['\\']
  | '\\' :: c :: _ => if c == '\\' then cs else cs ++ ['\\']
  | _ => cs

def escape (cs : List Char) : List Char := closeSlash (escapeFrom 0 (cs.length + 1) cs)

/-! ## Plain text -/

/-- Drops backslashes before brackets. -/
def openBrackets : List Char → List Char
  | '\\' :: '[' :: cs => '[' :: openBrackets cs
  | c :: cs => c :: openBrackets cs
  | [] => []

/-- The stretches of text between tags, each on its own; `read` is what came before, reversed. -/
def stretchesFrom (slashes : Nat) (read : List Char) : Nat → List Char → List (List Char)
  | 0, cs => [read.reverse ++ cs]
  | _ + 1, [] => [read.reverse ++ List.replicate slashes '\\']
  | room + 1, '\\' :: cs => stretchesFrom (slashes + 1) read room cs
  | room + 1, c :: cs =>
    match tag? (c :: cs) with
    | some (tag, rest) =>
      let escaped := if slashes % 2 == 1 then [tag] else []
      read.reverse :: List.replicate (slashes / 2) '\\' :: escaped ++ stretchesFrom 0 [] room rest
    | none => stretchesFrom 0 (c :: (List.replicate slashes '\\' ++ read)) room cs

/-- Control characters that are never shown. -/
def isStripped (c : Char) : Bool :=
  c == '\x07' || c == '\x08' || c == '\x0b' || c == '\x0c' || c == '\r'

/-- What a text with markup shows; tags themselves show nothing. -/
def plain (cs : List Char) : List Char :=
  ((stretchesFrom 0 [] (cs.length + 1) cs).flatMap fun s => drawNames (openBrackets s)).filter
    (!isStripped ·)

end UiTree.Text.Markup
