import UiTree.Command.Usage

/-!
# Options — arguments taken apart

An argument that begins with a dash is an option, unless it is the dash alone; two dashes end the
options.  The value of an option follows it or stands behind an equals sign.
-/

namespace UiTree.Command

open UiTree.Text

/-- Arguments taken apart: options in order with their values, and operands. -/
structure Scanned where
  options : List (String × String) := []
  flags : List String := []
  operands : List String := []
  deriving Repr

def Scanned.withOption (s : Scanned) (name value : String) : Scanned :=
  { s with options := (name, value) :: s.options }

def Scanned.withFlag (s : Scanned) (name : String) : Scanned :=
  { s with flags := name :: s.flags }

def Scanned.withOperands (s : Scanned) (operands : List String) : Scanned :=
  { s with operands := operands ++ s.operands }

/-- The value of an option: of several the last one. -/
def Scanned.value? (s : Scanned) (name : String) : Option String :=
  (s.options.reverse.find? (·.1 == name)).map (·.2)

/-- The options that were given, in the order they were first met. -/
def Scanned.given (s : Scanned) : List String :=
  (s.options.map (·.1)).eraseDups

/-- A name and what stands behind its equals sign, if there is one. -/
def splitValue (arg : String) : String × Option String :=
  let cs := arg.toList
  match cs.dropWhile (· != '=') with
  | _ :: value => (String.ofList (cs.takeWhile (· != '=')), some (String.ofList value))
  | [] => (arg, none)

def unknownOption (g : Grammar) (name : String) : Misuse :=
  .unknownOption name (similarNames name g.long)

/-- Letters behind a single dash, each a flag. -/
def letters (g : Grammar) : List Char → Except Misuse (List String)
  | [] => .ok []
  | c :: cs =>
    let name := String.ofList ['-', c]
    if g.flags.contains name then (letters g cs).map (name :: ·)
    else .error (.unknownOption name [])

/-- Takes arguments apart from left to right. -/
def scan (g : Grammar) : List String → Except Misuse Scanned
  | [] => .ok {}
  | arg :: args =>
    if arg == "--" then .ok { operands := args }
    else if arg.toList.head? == some '-' && arg != "-" then
      let (name, value?) := splitValue arg
      if g.valued.contains name then
        match value? with
        | some value => (scan g args).map (·.withOption name value)
        | none =>
          match args with
          | value :: rest => (scan g rest).map (·.withOption name value)
          | [] => .error (.missingValue name)
      else if "--".isPrefixOf arg then
        if !g.flags.contains name then .error (unknownOption g name)
        else if value?.isSome then .error (.needlessValue name)
        else (scan g args).map (·.withFlag name)
      else
        match letters g (arg.toList.drop 1) with
        | .ok names => (scan g args).map fun s => names.foldr (fun n s => s.withFlag n) s
        | .error m => .error m
    else if g.interspersed then (scan g args).map (·.withOperands [arg])
    else .ok { operands := arg :: args }

end UiTree.Command
