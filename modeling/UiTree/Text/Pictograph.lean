import UiTree.Text.Blank
import UiTree.Text.Case
import UiTree.Text.Search
import UiTree.Text.Table.Pictograph

/-!
# Pictographs — names between colons

A name between colons becomes its pictograph, if there is one of that name; a name may end with the
style that the pictograph should have.
-/

namespace UiTree.Text

/-- The pictograph behind its name in a row. -/
def pictographAmong? (name : List Char) : List (List Char) → Option (List Char)
  | n :: picture :: rest => if n == name then some picture else pictographAmong? name rest
  | _ => none

def pictograph? (name : List Char) : Option (List Char) :=
  Table.pictographRows.findSome? fun row => pictographAmong? name (splitAt ' ' row.toList)

/-- The styles a pictograph can be asked for in, and the selectors that stand for them. -/
def pictographStyles : List (List Char × Char) :=
  [("-emoji".toList, '\ufe0f'), ("-text".toList, '\ufe0e')]

/-- A name without the style at its end, and the selector of the style. -/
def splitStyle (name : List Char) : List Char × List Char :=
  match pictographStyles.find? fun (style, _) => style.isSuffixOf name with
  | some (style, selector) => (name.take (name.length - style.length), [selector])
  | none => (name, [])

/-- What a name between colons stands for. -/
def named (name : List Char) : List Char :=
  let (plain, style) := splitStyle name
  match pictograph? (lowerChars plain) with
  | some picture => picture ++ style
  | none => ':' :: (name ++ [':'])

def isNamePart (c : Char) : Bool := c != ':' && !isBlank c

/-- The text with pictographs in place of their names; `room` bounds the number of steps. -/
def drawNamesFrom : Nat → List Char → List Char
  | 0, cs => cs
  | _ + 1, [] => []
  | room + 1, ':' :: cs =>
    match cs.dropWhile isNamePart with
    | ':' :: rest => named (cs.takeWhile isNamePart) ++ drawNamesFrom room rest
    | _ => ':' :: drawNamesFrom room cs
  | room + 1, c :: cs => c :: drawNamesFrom room cs

def drawNames (cs : List Char) : List Char := drawNamesFrom cs.length cs

end UiTree.Text
