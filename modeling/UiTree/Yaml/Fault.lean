import UiTree.Number.Whole

/-!
# Faults — why a text holds no document
-/

namespace UiTree.Yaml

open UiTree.Number

inductive Fault
  /-- The text breaks the format. -/
  | malformed
  /-- A conversion of one of its values failed on its own account. -/
  | conversion (kind message : String)
  /-- The stack is used up. -/
  | exhausted
  deriving Inhabited, Repr

namespace Fault

def value (message : String) : Fault :=
  .conversion "ValueError" message

def tooManyDigits (count : Nat) : Fault :=
  value (s!"Exceeds the limit ({digitLimit} digits) for integer string conversion: value has "
    ++ s!"{count} digits; use sys.set_int_max_str_digits() to increase the limit")

end Fault

end UiTree.Yaml
