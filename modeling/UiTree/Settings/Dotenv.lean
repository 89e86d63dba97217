import UiTree.Json.Value
import UiTree.Text.Blank

/-!
# Variable files — `NAME=value` lines

A line binds a name to a value, perhaps after the word `export`; a value stands between quotes or
reaches to the end of its line or to a comment.  A line that cannot be read is passed over.  Values
may refer to variables as `${NAME}`, with a default after `:-`.
-/

namespace UiTree.Dotenv

open UiTree.Text

/-- White space that does not end a line. -/
def isInline (c : Char) : Bool := isBlank c && c != '\n' && c != '\r'

def isLineEnd (c : Char) : Bool := c == '\n' || c == '\r'

def skipInline (cs : List Char) : List Char := cs.dropWhile isInline

/-- The word `export` with blanks behind it, if it is there, is dropped. -/
def dropExport (cs : List Char) : List Char :=
  if "export".toList.isPrefixOf cs then
    match cs.drop 6 with
    | c :: rest => if isInline c then skipInline rest else cs
    | [] => cs
  else cs

/-! ## Names -/

/-- A name at the head, and the rest.  A comment is no name, and no failure either. -/
def name (cs : List Char) : Except (List Char) (Option (List Char) × List Char) :=
  match cs with
  | '#' :: _ => .ok (none, cs)
  | '\'' :: rest =>
    let name := rest.takeWhile (· != '\'')
    match rest.dropWhile (· != '\'') with
    | _ :: after => if name.isEmpty then .error cs else .ok (some name, after)
    | [] => .error cs
  | _ =>
    let isPart (c : Char) : Bool := c != '=' && c != '#' && !isBlank c
    let name := cs.takeWhile isPart
    if name.isEmpty then .error cs else .ok (some name, cs.dropWhile isPart)

/-! ## Values -/

/-- The rest of a value after its opening mark: up to the first mark that has no backslash before
it, or else to the last one that has; then what follows. -/
def quotedRest (mark : Char) (read : List Char) (fallback : Option (List Char × List Char)) :
    List Char → Option (List Char × List Char)
  | [] => fallback
  | '\\' :: c :: rest =>
    if c == mark then
      quotedRest mark (c :: '\\' :: read) (some (('\\' :: read).reverse, rest)) rest
    else quotedRest mark ('\\' :: read) fallback (c :: rest)
  | c :: rest =>
    if c == mark then some (read.reverse, rest) else quotedRest mark (c :: read) fallback rest

/-- The characters that an escape stands for between double marks. -/
def escapes : List (Char × Char) :=
  [('\\', '\\'), ('\'', '\''), ('"', '"'), ('a', '\x07'), ('b', '\x08'), ('f', '\x0c'),
   ('n', '\n'), ('r', '\r'), ('t', '\t'), ('v', '\x0b')]

/-- The characters that an escape stands for between single marks. -/
def singleEscapes : List (Char × Char) := [('\\', '\\'), ('\'', '\'')]

def unescape (known : List (Char × Char)) : List Char → List Char
  | '\\' :: c :: cs =>
    match known.lookup c with
    | some meant => meant :: unescape known cs
    | none => '\\' :: unescape known (c :: cs)
  | c :: cs => c :: unescape known cs
  | [] => []

/-- Up to a comment that has blanks before it; `blanks` are those read last, reversed. -/
def untilComment (blanks : List Char) : List Char → List Char
  | [] => blanks.reverse
  | c :: cs =>
    if isBlank c then untilComment (c :: blanks) cs
    else if c == '#' && !blanks.isEmpty then []
    else blanks.reverse ++ c :: untilComment [] cs

/-- A value at the head, and the rest. -/
def value (cs : List Char) : Except (List Char) (List Char × List Char) :=
  match cs with
  | '\'' :: rest =>
    match quotedRest '\'' [] none rest with
    | some (v, rest) => .ok (unescape singleEscapes v, rest)
    | none => .error cs
  | '"' :: rest =>
    match quotedRest '"' [] none rest with
    | some (v, rest) => .ok (unescape escapes v, rest)
    | none => .error cs
  | _ =>
    let line := cs.takeWhile (!isLineEnd ·)
    .ok (trimEnd (untilComment [] line), cs.dropWhile (!isLineEnd ·))

/-! ## Lines -/

/-- A comment, if there is one, and the end of the line. -/
def lineEnd (cs : List Char) : Except (List Char) (List Char) :=
  let afterComment := match skipInline cs with
    | '#' :: rest => rest.dropWhile (!isLineEnd ·)
    | _ => cs
  match skipInline afterComment with
  | [] => .ok []
  | '\r' :: '\n' :: rest => .ok rest
  | c :: rest => if isLineEnd c then .ok rest else .error afterComment

/-- What a line binds: a name with a value, or a name alone. -/
abbrev Binding := List Char × Option (List Char)

/-- One line, and what follows it; where reading fails, the place is given. -/
def line (cs : List Char) : Except (List Char) (Option Binding × List Char) := do
  let (key, rest) ← name (dropExport cs)
  let rest := skipInline rest
  let (value, rest) ← match rest with
    | '=' :: rest => do
      let (v, rest) ← value (skipInline rest)
      .ok (some v, rest)
    | _ => .ok (none, rest)
  let rest ← lineEnd rest
  .ok (key.map (·, value), rest)

/-- All bindings, in order; `room` bounds the number of lines. -/
def bindingsFrom : Nat → List Char → List Binding
  | 0, _ => []
  | room + 1, cs =>
    match cs.dropWhile isBlank with
    | [] => []
    | cs =>
      match line cs with
      | .ok (binding, rest) => binding.toList ++ bindingsFrom room rest
      | .error at' => bindingsFrom room ((at'.dropWhile (!isLineEnd ·)).drop 1)

def bindings (cs : List Char) : List Binding := bindingsFrom (cs.length + 1) cs

/-! ## References -/

/-- A name and a default behind the opening of a reference, and what follows its end. -/
def reference? (cs : List Char) : Option (List Char × Option (List Char) × List Char) :=
  let isPart (c : Char) : Bool := c != '\x7d' && c != ':'
  let name := cs.takeWhile isPart
  match cs.dropWhile isPart with
  | '\x7d' :: rest => some (name, none, rest)
  | ':' :: '-' :: rest =>
    match rest.dropWhile (· != '\x7d') with
    | _ :: after => some (name, some (rest.takeWhile (· != '\x7d')), after)
    | [] => none
  | _ => none

/-- The value with its references resolved; a variable that is not known is empty. -/
def expandFrom (known : String → Option (Option String)) : Nat → List Char → List Char
  | 0, cs => cs
  | room + 1, '$' :: '\x7b' :: cs =>
    match reference? cs with
    | some (name, default, rest) =>
      let meant := match known (String.ofList name) with
        | some v => (v.getD "").toList
        | none => default.getD []
      meant ++ expandFrom known room rest
    | none => '$' :: expandFrom known room ('\x7b' :: cs)
  | room + 1, c :: cs => c :: expandFrom known room cs
  | _ + 1, [] => []

def expand (known : String → Option (Option String)) (cs : List Char) : List Char :=
  expandFrom known (cs.length + 1) cs

/-- Resolves bindings one after the other: earlier ones are known, before the environment. -/
def resolve (environment : List (String × String)) (bound : List (String × Option String)) :
    List Binding → List (String × Option String)
  | [] => bound
  | (name, value) :: rest =>
    let known (n : String) : Option (Option String) :=
      (bound.lookup n).or ((environment.lookup n).map some)
    let meant := value.map fun v => String.ofList (expand known v)
    resolve environment (Json.insertMember (String.ofList name) meant bound) rest

/-- The variables of a text, in the order they were first bound. -/
def read (environment : List (String × String)) (text : String) : List (String × Option String) :=
  resolve environment [] (bindings text.toList)

end UiTree.Dotenv
