import UiTree.Element.Basic

/-!
# Walks — the elements of a tree in document order

An element comes before those below it, and siblings come in order.  `descendants` keeps a list of
work still to do; `outline` goes down the tree.
-/

namespace UiTree

/-- An element and where it stands. -/
structure Located where
  path : Path
  element : Element
  deriving Repr

namespace Located

def attributes (n : Located) : Attributes := n.element.attributes

/-- Elements side by side below a path, from index `i` on. -/
def number (path : Path) : Nat → List Element → List Located
  | _, [] => []
  | i, e :: es => { path := path ++ [i], element := e } :: number path (i + 1) es

def children (n : Located) : List Located :=
  number n.path 0 n.element.children

/-! ## With a list of work -/

/-- The number of elements in the trees of a list. -/
def weight : List Located → Nat
  | [] => 0
  | n :: ns => n.element.size + weight ns

theorem weight_append (ms ns : List Located) : weight (ms ++ ns) = weight ms + weight ns := by
  induction ms with
  | nil => simp [weight]
  | cons m ms ih => simp only [List.cons_append, weight, ih]; omega

theorem weight_number (path : Path) (i : Nat) (es : List Element) :
    weight (number path i es) = Element.sizeAll es := by
  induction es generalizing i with
  | nil => rfl
  | cons e es ih => simp [number, weight, Element.sizeAll, ih]

theorem weight_children_lt (n : Located) (rest : List Located) :
    weight (n.children ++ rest) < weight (n :: rest) := by
  rw [weight_append, children, weight_number]
  simp only [weight, Element.size_eq]
  omega

/-- Takes the first element of the work, and puts its children in its place. -/
def drain : List Located → List Located
  | [] => []
  | n :: rest => n :: drain (n.children ++ rest)
termination_by work => weight work
decreasing_by exact weight_children_lt n rest

/-- All elements below one, that one itself left out. -/
def descendants (n : Located) : List Located :=
  drain n.children

@[simp] theorem drain_nil : drain [] = [] := by rw [drain]

theorem drain_cons (n : Located) (rest : List Located) :
    drain (n :: rest) = n :: drain (n.children ++ rest) := by rw [drain]

end Located

namespace Element

/-- The tree as a place of its own. -/
def root (e : Element) : Located := { path := [], element := e }

/-! ## Down the tree -/

mutual

/-- The attributes of an element and of all below it, each with its depth. -/
def outline (depth : Nat) : Element → List (Nat × Attributes)
  | .node attributes children => (depth, attributes) :: outlineAll (depth + 1) children

def outlineAll (depth : Nat) : List Element → List (Nat × Attributes)
  | [] => []
  | e :: es => outline depth e ++ outlineAll depth es

end

/-- One line of a rendered tree: two blanks per level, none left of the margin. -/
def renderLine (indent : Int) (line : Nat × Attributes) : String :=
  String.ofList (List.replicate (2 * (indent + line.1)).toNat ' ') ++ describe line.2

/-- The tree as text, one line per element, its root at a depth of `indent`. -/
def render (indent : Int) (e : Element) : String :=
  "\n".intercalate ((outline 0 e).map (renderLine indent))

end Element

end UiTree
