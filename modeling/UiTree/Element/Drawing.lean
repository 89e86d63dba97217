import UiTree.Element.Basic
import UiTree.Text.Markup
import UiTree.Text.Search
import UiTree.Text.Width

/-!
# Drawing — a tree with guides

One line per element, behind guides that show where it hangs; a label with line breaks goes on
behind the guides.  Lines are cut off at the edge of the page, which has a width in cells, and an
element that has no room left is not shown.
-/

namespace UiTree.Element

open UiTree.Text

/-- The lines of an element in so many cells. -/
def labelLines (width : Nat) (a : Attributes) : List (List Char) :=
  if width == 0 then []
  else
    (splitAt '\n' (Markup.plain (Markup.escape (describe a).toList))).map fun line =>
      crop width (dropExcessBlanks width (expandTabs 0 line))

def fork : List Char := ['├', '─', '─', ' ']
def bend : List Char := ['└', '─', '─', ' ']
def rail : List Char := ['│', ' ', ' ', ' ']
def gap : List Char := [' ', ' ', ' ', ' ']

/-- Lines behind guides: `first` for the first of them, `other` for the rest. -/
def behind (first other : List Char) : List (List Char) → List (List Char)
  | [] => []
  | line :: lines => (first ++ line) :: lines.map (other ++ ·)

mutual

/-- The lines of an element behind its guides, and of all below it. -/
def drawNode (width : Nat) (guides mark below : List Char) : Element → List (List Char)
  | .node attributes children =>
    behind (guides ++ mark) (guides ++ below)
        (labelLines (width - (guides ++ mark).length) attributes)
      ++ drawAll width (guides ++ below) children

/-- The lines of siblings; the last one bends its guide. -/
def drawAll (width : Nat) (guides : List Char) : List Element → List (List Char)
  | [] => []
  | e :: es =>
    drawNode width guides (if es.isEmpty then bend else fork) (if es.isEmpty then gap else rail) e
      ++ drawAll width guides es

end

/-- The tree as lines of text on a page of a width. -/
def draw (width : Nat) (e : Element) : List String :=
  (drawNode width [] [] [] e).map String.ofList

end UiTree.Element
