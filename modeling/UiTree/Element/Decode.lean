import UiTree.Element.Ragged
import UiTree.Validation.Rules

/-!
# Decoding elements

An element is a record with a field for each attribute and one for the children.  A field may be
left out; some have a short name, which comes first where both are given.  Texts are taken as they
are, whether or not they hold halves of characters.
-/

namespace UiTree

namespace Attribute

def shortName? : Attribute → Option String
  | .label => some "description"
  | .identifier => some "id"
  | .value => some "value"
  | .enabled => some "enabled"
  | .focused => some "focused"
  | _ => none

/-- The entry of an attribute in a record. -/
def under? (a : Attribute) (entries : List (Datum × Datum)) : Option (String × Datum) :=
  Datum.field? a.shortName? a.name entries

end Attribute

namespace Element

open UiTree.Text

open Datum in
def decodeAttributes (entries : List (Datum × Datum)) : Checked (AttributesOf Ragged) :=
  let text (a : Attribute) := checkField none (checkOptional checkText) (a.under? entries)
  let role := text .role
  let title := text .title
  let label := text .label
  let identifier := text .identifier
  let value := text .value
  let enabled := checkField true checkTruth (Attribute.under? .enabled entries)
  let focused := checkField false checkTruth (Attribute.under? .focused entries)
  match role, title, label, identifier, value, enabled, focused with
  | .ok role, .ok title, .ok label, .ok identifier, .ok value, .ok enabled, .ok focused =>
    .ok { role, title, label, identifier, value, enabled, focused }
  | _, _, _, _, _, _, _ =>
    .error (role.issues ++ title.issues ++ label.issues ++ identifier.issues ++ value.issues
      ++ enabled.issues ++ focused.issues)

/-- The keys of the entries that are read as fields. -/
def usedKeys (entries : List (Datum × Datum)) : List String :=
  Attribute.all.filterMap fun a => (a.under? entries).map (·.1)

def typeName : String := "MemoryElement"

/-- How deep elements may be nested. -/
def depthLimit : Nat := 254

/-- The items of a list or a set. -/
def items? (whole d : Datum) : Option (List Datum) :=
  match whole.resolve d with
  | .list _ items | .set _ items => some items
  | _ => none

/-- An element at most `depth` deep, inside the records of the identities given. -/
def decodeAt (whole : Datum) : Nat → List Nat → Datum → Checked RaggedElement
  | 0, _, _ => .fail Problem.cycle
  | depth + 1, inside, d =>
    match whole.resolve d with
    | .record identity entries =>
      if identity.any inside.contains then .fail Problem.cycle
      else if entries.any fun (k, _) => k.isRagged then .fail Problem.brokenText
      else
        let inside := identity.toList ++ inside
        let checkChildren (d : Datum) : Checked (List RaggedElement) :=
          match items? whole d with
          | some items => .allFrom 0 (items.map (decodeAt whole depth inside))
          | none => .fail Problem.noList
        let attributes := decodeAttributes entries
        let children := Datum.checkField [] checkChildren (Attribute.under? .children entries)
        let extras := Datum.checkNoExtras (usedKeys entries) entries
        (Checked.both (Checked.both attributes children) extras).map fun ((a, cs), _) => .node a cs
    | _ => .fail (Problem.noRecord typeName)

/-- The element that data spell. -/
def decode (d : Datum) : Checked RaggedElement :=
  decodeAt d depthLimit [] d

end Element

end UiTree
