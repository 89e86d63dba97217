import UiTree.Json.Value
import UiTree.Selector.Basic

/-!
# Selectors as data
-/

namespace UiTree.Selector

def optionalText (s : Option String) : Json := (s.map Json.str).getD .null

def Filter.dump (f : Filter) : Json :=
  .obj [("key", .str f.key), ("value", .str f.value), ("op", .str f.op.symbol)]

def Step.dump (s : Step) : Json :=
  .obj [("role", optionalText s.role), ("identifier", optionalText s.identifier),
    ("attributes", .arr (s.filters.map Filter.dump))]

def dump (s : Selector) : Json :=
  .obj [("steps", .arr (s.steps.map Step.dump)), ("raw", .str s.raw)]

end UiTree.Selector
