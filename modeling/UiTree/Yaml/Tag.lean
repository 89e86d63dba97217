import UiTree.Text.Search
import UiTree.Yaml.Scalar

/-!
# Tags, anchors and directives

A tag names the kind of a value, an anchor the value itself.  Directives stand before a document
and say how its tags are written.
-/

namespace UiTree.Yaml

open UiTree.Text

/-! ## Names -/

/-- The name of an anchor or alias, and what follows it. -/
def anchorName (cs : List Char) : Except Fault (String × List Char) :=
  let name := cs.takeWhile isNameChar
  let rest := cs.drop name.length
  let ends (c : Char) := isGap c || "?:,]\x7d%@\x60".toList.contains c
  if name.isEmpty || !startsWith ends rest then .error .malformed
  else .ok (String.ofList name, rest)

/-! ## Tags -/

/-- The octets that percent escapes spell. -/
def percentOctets : Nat → List Char → Except Fault (List UInt8 × List Char)
  | 0, cs => .ok ([], cs)
  | room + 1, '%' :: cs =>
    match hexNumber? 2 0 cs with
    | some (n, rest) => do
      let (bs, rest) ← percentOctets room rest
      return (UInt8.ofNat n :: bs, rest)
    | none => .error .malformed
  | _ + 1, cs => .ok ([], cs)

/-- The characters of a tag, percent escapes read as UTF-8. -/
def tagChars : Nat → List Char → Except Fault (List Char × List Char)
  | 0, cs => .ok ([], cs)
  | _ + 1, [] => .ok ([], [])
  | room + 1, c :: cs =>
    if c == '%' then do
      let (octets, rest) ← percentOctets room (c :: cs)
      match String.fromUTF8? ⟨octets.toArray⟩ with
      | none => throw .malformed
      | some s => do
        let (more, rest) ← tagChars room rest
        return (s.toList ++ more, rest)
    else if isTagChar c then do
      let (more, rest) ← tagChars room cs
      return (c :: more, rest)
    else .ok ([], c :: cs)

/-- The body of a tag: one character at least. -/
def tagBody (cs : List Char) : Except Fault (String × List Char) := do
  let (body, rest) ← tagChars cs.length cs
  if rest.length == cs.length then throw .malformed
  return (String.ofList body, rest)

/-- A handle from its first mark on: the mark alone before a blank, or a name between two marks. -/
def tagHandle (cs : List Char) : Except Fault (String × List Char) :=
  match cs with
  | '!' :: rest =>
    if rest.head? == some ' ' then .ok ("!", rest)
    else
      let name := rest.takeWhile isNameChar
      match rest.drop name.length with
      | '!' :: rest => .ok (String.ofList ('!' :: (name ++ ['!'])), rest)
      | _ => .error .malformed
  | _ => .error .malformed

/-- How a tag was written: with a handle that stands for a longer text, or in full. -/
structure TagName where
  handle? : Option String
  suffix : String
  deriving Inhabited, Repr

/-- A tag from its mark on, which the caller has seen. -/
def tagName (cs : List Char) : Except Fault (TagName × List Char) := do
  let (tag, rest) ←
    match cs.drop 1 with
    | '<' :: rest => do
      let (suffix, rest) ← tagBody rest
      match rest with
      | '>' :: rest => pure ({ handle? := none, suffix : TagName }, rest)
      | _ => throw .malformed
    | rest =>
      if atGap rest then pure ({ handle? := none, suffix := "!" }, rest)
      else do
        let word := rest.takeWhile fun c => !(c == ' ' || isBreak c)
        let (handle, rest) ← if word.contains '!' then tagHandle cs else pure ("!", rest)
        let (suffix, rest) ← tagBody rest
        pure ({ handle? := some handle, suffix }, rest)
  if atBlank rest then return (tag, rest) else throw .malformed

/-! ## Directives -/

inductive Directive
  | version (major : Nat)
  | tags (handle expansion : String)
  | reserved
  deriving Inhabited, Repr

/-- A decimal number of a version. -/
def versionNumber (cs : List Char) : Except Fault (Nat × List Char) :=
  let ds := cs.takeWhile Char.isDigit
  if ds.isEmpty then .error .malformed
  else if ds.length > Number.digitLimit then .error (.tooManyDigits ds.length)
  else .ok (ds.foldl (fun n d => n * 10 + (d.toNat - 0x30)) 0, cs.drop ds.length)

/-- A directive, from the character after its mark to the end of its line. -/
def directive (cs : List Char) : Except Fault (Directive × List Char) := do
  let name := cs.takeWhile isNameChar
  let rest := cs.drop name.length
  if name.isEmpty || !atBlank rest then throw .malformed
  let (found, rest) ←
    if name == "YAML".toList then do
      let (major, rest) ← versionNumber (skipBlanks rest)
      match rest with
      | '.' :: rest => do
        let (_, rest) ← versionNumber rest
        if !atBlank rest then throw .malformed
        pure (.version major, rest)
      | _ => throw .malformed
    else if name == "TAG".toList then do
      let (handle, rest) ← tagHandle (skipBlanks rest)
      if rest.head? != some ' ' then throw .malformed
      let (expansion, rest) ← tagBody (skipBlanks rest)
      if !atBlank rest then throw .malformed
      pure (.tags handle expansion, rest)
    else pure (.reserved, rest.dropWhile (!isBreak ·))
  let some rest := skipRestOfLine? rest | throw .malformed
  return (found, rest)

end UiTree.Yaml
