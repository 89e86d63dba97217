import UiTree.Text.Runs
import UiTree.Text.Table.Printable

/-!
# Printable characters
-/

namespace UiTree.Text

/-- The space and every character that is neither a separator nor of a control, format, private or
unassigned kind. -/
def isPrintable (c : Char) : Bool :=
  let n := c.toNat
  if n < 0x80 then 0x20 ≤ n && n < 0x7f else !inRuns Table.unprintableRuns n

end UiTree.Text
