import UiTree.Selector.Basic
import UiTree.Validation.Rules

/-!
# Decoding selectors — selectors given as data instead of text

Fields that mean nothing are ignored.
-/

namespace UiTree.Selector

open UiTree.Datum

def noConstraint : String :=
  "Value error, a selector step needs a role, an identifier or an attribute filter"

def noOp : String := "Input should be '=' or '~='"

/-- The entries of a record; anything else is no instance of `name`. -/
def checkRecord (name : String) : Datum → Checked (List (Datum × Datum))
  | .record _ entries => .ok entries
  | _ => .fail (Problem.noRecord name)

/-- A sequence of parts. -/
def checkTuple {α : Type} (check : Datum → Checked α) : Datum → Checked (List α)
  | .list _ items => .allFrom 0 (items.map check)
  | _ => .fail Problem.noTuple

def decodeOp : Datum → Checked Op
  | .text s =>
    if s == Op.equals.symbol then .ok .equals
    else if s == Op.contains.symbol then .ok .contains
    else .fail noOp
  | _ => .fail noOp

def decodeFilter (d : Datum) : Checked Filter := do
  let entries ← checkRecord "AttrFilter" d
  let key := checkRequired "key" checkString (field? none "key" entries)
  let value := checkRequired "value" checkString (field? none "value" entries)
  let op := checkField .equals decodeOp (field? none "op" entries)
  (Checked.both (Checked.both key value) op).map fun ((key, value), op) => { key, value, op }

def decodeStep (d : Datum) : Checked Step := do
  let entries ← checkRecord "SelectorStep" d
  let text (name : String) := checkField none (checkOptional checkString) (field? none name entries)
  let role := text "role"
  let identifier := text "identifier"
  let filters := checkField [] (checkTuple decodeFilter) (field? none "attributes" entries)
  let ((role, identifier), filters) ← Checked.both (Checked.both role identifier) filters
  let step : Step := { role, identifier, filters }
  if step.isEmpty then .fail noConstraint else return step

/-- Steps, one at least. -/
def decodeSteps (d : Datum) : Checked (List Step) := do
  match d with
  | .list _ [] => .fail "Tuple should have at least 1 item after validation, not 0"
  | d => checkTuple decodeStep d

def decode (d : Datum) : Checked Selector := do
  let entries ← checkRecord "ParsedSelector" d
  let steps := checkRequired "steps" decodeSteps (field? none "steps" entries)
  let raw := checkRequired "raw" checkString (field? none "raw" entries)
  (Checked.both steps raw).map fun (steps, raw) => { steps, raw }

end UiTree.Selector
