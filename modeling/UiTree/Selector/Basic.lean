import UiTree.Text.Quoted

/-!
# Selectors — which elements of a tree are meant

A selector is a list of steps, each to be met somewhere below the one before.  A step names a role,
an identifier and filters on attributes, and at least one of them.
-/

namespace UiTree

namespace Selector

/-- How a filter compares: exactly, or as a part without regard to case. -/
inductive Op
  | equals
  | contains
  deriving DecidableEq, Repr, Inhabited

def Op.symbol : Op → String
  | .equals => "="
  | .contains => "~="

structure Filter where
  key : String
  value : String
  op : Op := .equals
  deriving DecidableEq, Repr, Inhabited

structure Step where
  role : Option String := none
  identifier : Option String := none
  filters : List Filter := []
  deriving DecidableEq, Repr, Inhabited

/-- A step without any constraint is none. -/
def Step.isEmpty (s : Step) : Bool :=
  s.role.isNone && s.identifier.isNone && s.filters.isEmpty

end Selector

structure Selector where
  steps : List Selector.Step
  /-- The text as it was given. -/
  raw : String
  deriving DecidableEq, Repr, Inhabited

end UiTree
