import UiTree.Element.Walk
import UiTree.Selector.Match

/-!
# Search — the elements of a tree that a selector means

Each step looks below every element that the step before it found.
-/

namespace UiTree.Selector

/-- The elements below one that meet a step. -/
def Step.below (s : Step) (n : Located) : List Located :=
  n.descendants.filter fun d => s.holds d.attributes

/-- From one generation of elements to the one that the steps lead to. -/
def search : List Step → List Located → List Located
  | [], found => found
  | s :: steps, found => search steps (found.flatMap s.below)

/-- Everything below the root that the selector means, one entry for each way to get there. -/
def find (s : Selector) (e : Element) : List Located :=
  search s.steps [e.root]

def findFirst? (s : Selector) (e : Element) : Option Located :=
  (s.find e).head?

/-! ## What a search looks at -/

/-- An attribute of the element at a path. -/
abbrev Reading := Path × Attribute

/-- The readings of a step below one element: children before the search goes on among them. -/
def Step.readings (s : Step) (n : Located) : List Reading :=
  (n.path, .children) :: n.descendants.flatMap fun d =>
    (s.consults d.attributes).map (d.path, ·) ++ [(d.path, .children)]

def searchReadings : List Step → List Located → List Reading
  | [], _ => []
  | s :: steps, found =>
    found.flatMap s.readings ++ searchReadings steps (found.flatMap s.below)

/-- Every reading of a search, in order. -/
def readings (s : Selector) (e : Element) : List Reading :=
  searchReadings s.steps [e.root]

end UiTree.Selector
