import UiTree.Element.Basic
import UiTree.Text.Ragged

/-!
# Ragged elements — elements whose texts may hold halves of characters

A snapshot may spell such a text.  The element can be searched like any other, but what is said of
it cannot always be put out.
-/

namespace UiTree

open UiTree.Text

abbrev RaggedElement := ElementOf Ragged

/-- The element as one whose texts might hold halves. -/
def Element.ragged (e : Element) : RaggedElement := e.mapTexts Ragged.ofString

namespace RaggedElement

/-- The element with a character shown for every half. -/
def seen (blot : Char) (t : RaggedElement) : Element := t.mapTexts (Ragged.seen blot)

/-- What the element at a path is like. -/
def attributesAt (t : RaggedElement) (path : Path) : AttributesOf Ragged :=
  match t.get? path with
  | some (.node attributes _) => attributes
  | none => {}

/-- A one-line account of an element, as `Element.describe` gives it. -/
def describe (a : AttributesOf Ragged) : Ragged :=
  let part (name : String) (t : Option Ragged) := (t.map (Ragged.ofString name ++ ·)).toList
  let parts :=
    part "role=" a.role ++ part "title=" a.title ++ part "#" a.identifier ++ part "value=" a.value
  .ofString "[" ++ .joined (.ofString " ") parts ++ .ofString "]"

end RaggedElement

end UiTree
