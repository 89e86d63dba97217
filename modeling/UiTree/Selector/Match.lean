import UiTree.Element.Basic
import UiTree.Selector.Basic
import UiTree.Selector.Role
import UiTree.Text.Search

/-!
# Matching — when an element meets a step
-/

namespace UiTree.Selector

open UiTree.Text

/-- The attribute a filter key means. -/
def attributeOf? (key : String) : Option Attribute :=
  match lower key with
  | "title" => some .title
  | "label" => some .label
  | "description" => some .label
  | "identifier" => some .identifier
  | "value" => some .value
  | "role" => some .role
  | _ => none

/-- `needle` is a part of `hay`, case left aside. -/
def containsFolded (needle hay : String) : Bool :=
  occursIn (foldChars needle.toList) (foldChars hay.toList)

namespace Op

/-- The comparison of the value asked for with the one found. -/
def compare : Op → String → String → Bool
  | .equals, wanted, found => found == wanted
  | .contains, wanted, found => containsFolded wanted found

end Op

namespace Filter

def attribute? (f : Filter) : Option Attribute := attributeOf? f.key

/-- An attribute that is unknown or absent meets no filter. -/
def holds (f : Filter) (a : Attributes) : Bool :=
  match f.attribute?.bind a.text? with
  | some found => f.op.compare f.value found
  | none => false

end Filter

namespace Step

/-- A missing role is compared as an empty one. -/
def roleHolds (s : Step) (a : Attributes) : Bool :=
  match s.role with
  | some name => fold (a.role.getD "") == fold (resolveRole name)
  | none => true

def identifierHolds (s : Step) (a : Attributes) : Bool :=
  match s.identifier with
  | some i => a.identifier == some i
  | none => true

def holds (s : Step) (a : Attributes) : Bool :=
  s.roleHolds a && s.identifierHolds a && s.filters.all (·.holds a)

/-- The attributes looked at by filters, up to the first one that fails. -/
def filtersConsult (a : Attributes) : List Filter → List Attribute
  | [] => []
  | f :: fs => f.attribute?.toList ++ if f.holds a then filtersConsult a fs else []

/-- The attributes looked at to decide a step, in order. -/
def consults (s : Step) (a : Attributes) : List Attribute :=
  (if s.role.isSome then [Attribute.role] else []) ++
    if s.roleHolds a then
      (if s.identifier.isSome then [Attribute.identifier] else []) ++
        if s.identifierHolds a then filtersConsult a s.filters else []
    else []

end Step

end UiTree.Selector
