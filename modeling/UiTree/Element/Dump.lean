import UiTree.Element.Basic
import UiTree.Json.Value

/-!
# Dumps — elements as data, every field written out
-/

namespace UiTree.Element

def optionalText : Option String → Json
  | none => .null
  | some s => .str s

def attributeJson (a : Attributes) : Attribute → Json
  | .role => optionalText a.role
  | .title => optionalText a.title
  | .label => optionalText a.label
  | .identifier => optionalText a.identifier
  | .value => optionalText a.value
  | .enabled => .bool a.enabled
  | .focused => .bool a.focused
  | .children => .arr []

/-- The fields of an element but for its children. -/
def ownFields (a : Attributes) : List (String × Json) :=
  [.role, .title, .label, .identifier, .value, .enabled, .focused].map
    fun (x : Attribute) => (x.name, attributeJson a x)

mutual

def dump : Element → Json
  | .node attributes children =>
    .obj (ownFields attributes ++ [(Attribute.children.name, .arr (dumpAll children))])

def dumpAll : List Element → List Json
  | [] => []
  | e :: es => dump e :: dumpAll es

end

end UiTree.Element
