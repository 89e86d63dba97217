import UiTree.Text.Runs
import UiTree.Text.Table.Letter

/-!
# Letters and digits

The classes a selector word is made of.  ASCII is decided by core's predicates, the rest by the
Unicode tables.
-/

namespace UiTree.Text

def isLetter (c : Char) : Bool :=
  if c.toNat < 0x80 then c.isAlpha else inRuns Table.letterRuns c.toNat

/-- A character with a digit value; superscripts and circled digits have one too. -/
def isDigit (c : Char) : Bool :=
  if c.toNat < 0x80 then c.isDigit else inRuns Table.digitRuns c.toNat

/-- What a selector word may go on with. -/
def isWordChar (c : Char) : Bool :=
  isLetter c || isDigit c || c == '-' || c == '_'

/-- The value of a decimal digit of any script. -/
def decimalValue? (c : Char) : Option Nat :=
  let n := c.toNat
  if n < 0x80 then (if c.isDigit then some (n - 0x30) else none)
  else (Table.decimalZeros.find? fun first => first ≤ n && n < first + 10).map (n - ·)

theorem isWordChar_of_isLetter {c : Char} (h : isLetter c = true) : isWordChar c = true := by
  simp [isWordChar, h]

theorem isWordChar_of_isDigit {c : Char} (h : isDigit c = true) : isWordChar c = true := by
  simp [isWordChar, h]

end UiTree.Text
