import UiTree.Yaml.Token
import UiTree.Yaml.Kind

/-!
# Nodes — the tree of values a document spells

Read from tokens by recursive descent.  An alias is replaced by the value it names, or marked as
`again` inside that value itself.
-/

namespace UiTree.Yaml

open UiTree.Text

inductive Node
  | scalar (kind : Kind) (text : Ragged)
  | sequence (id : Nat) (kind : Kind) (items : List Node)
  | mapping (id : Nat) (kind : Kind) (entries : List (Node × Node))
  /-- The enclosing collection of that number. -/
  | again (id : Nat)
  deriving Inhabited, Repr

namespace Node

/-- What an anchor names: a value, or a collection that is still being read. -/
inductive Target
  | done (node : Node)
  | underway (id : Nat)

/-- The state of a reader between two tokens. -/
structure Progress where
  tokens : List Token
  /-- What stops the reader after the last token. -/
  ending : Fault
  handles : List (String × String)
  anchors : List (String × Target) := []
  collections : Nat := 0

abbrev Reader := StateT Progress (Except Fault)

/-! ## Steps -/

def malformed {α : Type} : Reader α := throw .malformed

def peek : Reader Token := do
  match (← get).tokens with
  | t :: _ => return t
  | [] => throw (← get).ending

def advance : Reader Unit :=
  modify fun p => { p with tokens := p.tokens.drop 1 }

/-- A number for a collection. -/
def freshId : Reader Nat := do
  let p ← get
  set { p with collections := p.collections + 1 }
  return p.collections

/-- The value where nothing is written. -/
def empty : Node := .scalar .null (.ofChars [])

/-! ## Properties -/

/-- The full text of a tag. -/
def expand (name : TagName) : Reader String :=
  match name.handle? with
  | none => return name.suffix
  | some handle => do
    match (← get).handles.lookup handle with
    | some head => return head ++ name.suffix
    | none => malformed

/-- An anchor and a tag, in either order. -/
def properties : Reader (Option String × Option TagName) := do
  match ← peek with
  | .anchor name => do
    advance
    match ← peek with
    | .tag tag => do advance; return (some name, some tag)
    | _ => return (some name, none)
  | .tag tag => do
    advance
    match ← peek with
    | .anchor name => do advance; return (some name, some tag)
    | _ => return (none, some tag)
  | _ => return (none, none)

/-- No two anchors share a name. -/
def checkNew (anchor : Option String) : Reader Unit := do
  match anchor with
  | some name => if ((← get).anchors.lookup name).isSome then malformed
  | none => pure ()

def assign (anchor : Option String) (target : Target) : Reader Unit :=
  match anchor with
  | some name => modify fun p => { p with anchors := (name, target) :: p.anchors }
  | none => pure ()

/-- A lone mark as a tag leaves the kind to the text of the value. -/
def kindOf (tag : Option String) (otherwise : Kind) : Kind :=
  match tag with
  | some tag => if tag == "!" then otherwise else .ofTag tag
  | none => otherwise

def scalarKind (tag : Option String) (plain : Bool) (text : Ragged) : Kind :=
  kindOf tag (if plain || tag.isSome then .implied (text.seen '\ufffd').toList else .text)

/-! ## Values -/

/-- The collection of a reader, known by its anchor from its start on. -/
def collection (anchor : Option String) (read : Nat → Reader Node) : Reader Node := do
  let id ← freshId
  assign anchor (.underway id)
  let node ← read id
  assign anchor (.done node)
  return node

mutual

/-- A value.  One that is laid out in lines stands only where `block` allows it, and entries that
are not indented only where `loose` does. -/
def read (block loose : Bool) : Nat → Reader Node
  | 0 => malformed
  | room + 1 => do
    match ← peek with
    | .alias name => do
      advance
      match (← get).anchors.lookup name with
      | some (.done node) => return node
      | some (.underway id) => return .again id
      | none => malformed
    | _ => do
      let (anchor, tagName) ← properties
      let tag ← tagName.mapM expand
      let first ← peek
      match first, block, loose with
      | .entry, _, true => do
        checkNew anchor
        collection anchor fun id => return .sequence id (kindOf tag .sequence) (← looseEntries room)
      | .scalar plain text, _, _ => do
        advance
        checkNew anchor
        let node := .scalar (scalarKind tag plain text) text
        assign anchor (.done node)
        return node
      | .flowSequenceStart, _, _ => do
        advance
        checkNew anchor
        collection anchor fun id =>
          return .sequence id (kindOf tag .sequence) (← flowItems true room)
      | .flowMappingStart, _, _ => do
        advance
        checkNew anchor
        collection anchor fun id =>
          return .mapping id (kindOf tag .mapping) (← flowEntries true room)
      | .sequenceStart, true, _ => do
        advance
        checkNew anchor
        collection anchor fun id => return .sequence id (kindOf tag .sequence) (← blockItems room)
      | .mappingStart, true, _ => do
        advance
        checkNew anchor
        collection anchor fun id => return .mapping id (kindOf tag .mapping) (← blockEntries room)
      | _, _, _ => do
        if anchor.isNone && tag.isNone then malformed
        checkNew anchor
        let node := .scalar (kindOf tag .null) (.ofChars [])
        assign anchor (.done node)
        return node

/-- The items of a sequence laid out in lines, and its end. -/
def blockItems : Nat → Reader (List Node)
  | 0 => malformed
  | room + 1 => do
    match ← peek with
    | .entry => do
      advance
      let item ← match ← peek with
        | .entry | .blockEnd => pure empty
        | _ => read true false room
      return item :: (← blockItems room)
    | .blockEnd => do advance; return []
    | _ => malformed

/-- The items of a sequence that is no deeper than the mapping around it. -/
def looseEntries : Nat → Reader (List Node)
  | 0 => malformed
  | room + 1 => do
    match ← peek with
    | .entry => do
      advance
      let item ← match ← peek with
        | .entry | .key | .value | .blockEnd => pure empty
        | _ => read true false room
      return item :: (← looseEntries room)
    | _ => return []

/-- The entries of a mapping laid out in lines, and its end. -/
def blockEntries : Nat → Reader (List (Node × Node))
  | 0 => malformed
  | room + 1 => do
    match ← peek with
    | .key => do
      advance
      let key ← blockPart room
      let value ← match ← peek with
        | .value => do advance; blockPart room
        | _ => pure empty
      return (key, value) :: (← blockEntries room)
    | .blockEnd => do advance; return []
    | _ => malformed

/-- A key or a value of a mapping laid out in lines. -/
def blockPart : Nat → Reader Node
  | 0 => malformed
  | room + 1 => do
    match ← peek with
    | .key | .value | .blockEnd => return empty
    | _ => read true true room

/-- The items of a flow sequence, and its end.  A key makes a mapping of one entry. -/
def flowItems (first : Bool) : Nat → Reader (List Node)
  | 0 => malformed
  | room + 1 => do
    match ← peek with
    | .flowSequenceEnd => do advance; return []
    | t => do
      if !first then
        match t with
        | .flowEntry => advance
        | _ => malformed
      match ← peek with
      | .flowSequenceEnd => do advance; return []
      | .key => do
        advance
        let id ← freshId
        let key ← match ← peek with
          | .value | .flowEntry | .flowSequenceEnd => pure empty
          | _ => read false false room
        let value ← match ← peek with
          | .value => do
            advance
            match ← peek with
            | .flowEntry | .flowSequenceEnd => pure empty
            | _ => read false false room
          | _ => pure empty
        return .mapping id .mapping [(key, value)] :: (← flowItems false room)
      | _ => do
        let item ← read false false room
        return item :: (← flowItems false room)

/-- The entries of a flow mapping, and its end. -/
def flowEntries (first : Bool) : Nat → Reader (List (Node × Node))
  | 0 => malformed
  | room + 1 => do
    match ← peek with
    | .flowMappingEnd => do advance; return []
    | t => do
      if !first then
        match t with
        | .flowEntry => advance
        | _ => malformed
      match ← peek with
      | .flowMappingEnd => do advance; return []
      | .key => do
        advance
        let key ← match ← peek with
          | .value | .flowEntry | .flowMappingEnd => pure empty
          | _ => read false false room
        let value ← match ← peek with
          | .value => do
            advance
            match ← peek with
            | .flowEntry | .flowMappingEnd => pure empty
            | _ => read false false room
          | _ => pure empty
        return (key, value) :: (← flowEntries false room)
      | _ => do
        let key ← read false false room
        return (key, empty) :: (← flowEntries false room)

end

/-! ## Documents -/

/-- Tag handles that need no directive. -/
def standardHandles : List (String × String) :=
  [("!", "!"), ("!!", Kind.tagHead)]

/-- The directives before a document: one version, which must be a first one, and one meaning per
tag handle. -/
def directives (versioned : Bool) (handles : List (String × String)) : Nat → Reader Unit
  | 0 => malformed
  | room + 1 => do
    match ← peek with
    | .directive (.version major) => do
      advance
      if versioned || major != 1 then malformed
      directives true handles room
    | .directive (.tags handle expansion) => do
      advance
      if (handles.lookup handle).isSome then malformed
      directives versioned ((handle, expansion) :: handles) room
    | .directive .reserved => do advance; directives versioned handles room
    | _ => modify fun p => { p with handles := handles ++ standardHandles }

/-- Nothing follows the document but marks of its end. -/
def onlyEnds : Nat → Reader Unit
  | 0 => malformed
  | room + 1 => do
    match ← peek with
    | .documentEnd => do advance; onlyEnds room
    | .finish => pure ()
    | _ => malformed

/-- The one document of a text, if it has any. -/
def document (room : Nat) : Reader (Option Node) := do
  match ← peek with
  | .finish => return none
  | .directive _ | .documentStart => do
    directives false [] room
    match ← peek with
    | .documentStart => advance
    | _ => malformed
    let node ← match ← peek with
      | .directive _ | .documentStart | .documentEnd | .finish => pure empty
      | _ => read true false room
    onlyEnds room
    return some node
  | _ => do
    let node ← read true false room
    onlyEnds room
    return some node

/-- The value a text spells, if it spells any. -/
def ofChars (cs : List Char) : Except Fault (Option Node) :=
  let (ts, fault) := tokens cs
  let start : Progress :=
    { tokens := ts, ending := fault.getD .malformed, handles := standardHandles }
  (document (3 * ts.length + 3)).run' start

end Node

end UiTree.Yaml
