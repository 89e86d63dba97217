/-!
# Elements — the nodes of a user interface tree

An element has seven attributes and a list of children.  Inside a tree it is known by its path:
the child indexes that lead to it from the root.
-/

namespace UiTree

/-- What an element is like, with texts of any type. -/
structure AttributesOf (τ : Type) where
  role : Option τ := none
  title : Option τ := none
  label : Option τ := none
  identifier : Option τ := none
  value : Option τ := none
  enabled : Bool := true
  focused : Bool := false
  deriving DecidableEq, Repr, Inhabited

/-- A tree of elements with texts of any type. -/
inductive ElementOf (τ : Type)
  | node (attributes : AttributesOf τ) (children : List (ElementOf τ))
  deriving Repr

abbrev Attributes := AttributesOf String

abbrev Element := ElementOf String

@[match_pattern]
abbrev Element.node (attributes : Attributes) (children : List Element) : Element :=
  ElementOf.node attributes children

abbrev Path := List Nat

/-- What can be asked of an element, and can fail to be answered. -/
inductive Attribute
  | role
  | title
  | label
  | identifier
  | value
  | enabled
  | focused
  | children
  deriving DecidableEq, Repr, Inhabited

namespace Attribute

def all : List Attribute :=
  [.role, .title, .label, .identifier, .value, .enabled, .focused, .children]

def name : Attribute → String
  | .role => "role"
  | .title => "title"
  | .label => "label"
  | .identifier => "identifier"
  | .value => "string_value"
  | .enabled => "is_enabled"
  | .focused => "is_focused"
  | .children => "children"

def ofName? (name : String) : Option Attribute :=
  all.find? (·.name == name)

theorem ofName?_name (a : Attribute) : ofName? a.name = some a := by
  cases a <;> decide

end Attribute

/-! ## Texts of any type -/

section

variable {σ τ : Type} (f : σ → τ)

/-- The attributes with every text changed. -/
def AttributesOf.mapTexts (a : AttributesOf σ) : AttributesOf τ :=
  { role := a.role.map f, title := a.title.map f, label := a.label.map f
    identifier := a.identifier.map f, value := a.value.map f
    enabled := a.enabled, focused := a.focused }

/-- The text of an attribute, if it is one that holds text and the element has it. -/
def AttributesOf.text? (a : AttributesOf σ) : Attribute → Option σ
  | .role => a.role
  | .title => a.title
  | .label => a.label
  | .identifier => a.identifier
  | .value => a.value
  | .enabled | .focused | .children => none

theorem AttributesOf.text?_mapTexts (a : AttributesOf σ) (x : Attribute) :
    (a.mapTexts f).text? x = (a.text? x).map f := by
  cases x <;> rfl

namespace ElementOf

mutual

/-- The tree with every text changed. -/
def mapTexts : ElementOf σ → ElementOf τ
  | .node a children => .node (a.mapTexts f) (mapTextsAll children)

def mapTextsAll : List (ElementOf σ) → List (ElementOf τ)
  | [] => []
  | e :: es => mapTexts e :: mapTextsAll es

end

/-- The node at a path. -/
def get? : ElementOf σ → Path → Option (ElementOf σ)
  | e, [] => some e
  | .node _ children, i :: path =>
    match children[i]? with
    | some child => get? child path
    | none => none

mutual

/-- The test holds of every element. -/
def all (test : AttributesOf σ → Bool) : ElementOf σ → Bool
  | .node a children => test a && allOf test children

def allOf (test : AttributesOf σ → Bool) : List (ElementOf σ) → Bool
  | [] => true
  | e :: es => all test e && allOf test es

end

end ElementOf

end

/-! ## Equality -/

namespace ElementOf

variable {τ : Type} [DecidableEq τ]

mutual

def decideEq : (e f : ElementOf τ) → Decidable (e = f)
  | .node a cs, .node b ds =>
    match (inferInstance : Decidable (a = b)), decideEqAll cs ds with
    | isTrue ha, isTrue hcs => isTrue (congr (congrArg node ha) hcs)
    | isFalse ha, _ => isFalse fun h => ha (node.inj h).1
    | _, isFalse hcs => isFalse fun h => hcs (node.inj h).2

def decideEqAll : (es fs : List (ElementOf τ)) → Decidable (es = fs)
  | [], [] => isTrue rfl
  | e :: es, f :: fs =>
    match decideEq e f, decideEqAll es fs with
    | isTrue he, isTrue hes => isTrue (congr (congrArg List.cons he) hes)
    | isFalse he, _ => isFalse fun h => he (List.cons.inj h).1
    | _, isFalse hes => isFalse fun h => hes (List.cons.inj h).2
  | [], _ :: _ => isFalse nofun
  | _ :: _, [] => isFalse nofun

end

instance : DecidableEq (ElementOf τ) := decideEq

end ElementOf

namespace Element

def empty : Element := .node {} []

instance : Inhabited Element := ⟨empty⟩

def attributes : Element → Attributes
  | .node attributes _ => attributes

def children : Element → List Element
  | .node _ children => children

@[simp] theorem attributes_node (a : Attributes) (cs : List Element) :
    (node a cs).attributes = a := rfl

@[simp] theorem children_node (a : Attributes) (cs : List Element) :
    (node a cs).children = cs := rfl

/-! ## Size -/

mutual

/-- The number of elements in a tree. -/
def size : Element → Nat
  | .node _ children => sizeAll children + 1

def sizeAll : List Element → Nat
  | [] => 0
  | e :: es => size e + sizeAll es

end

theorem size_eq (e : Element) : e.size = sizeAll e.children + 1 := by
  cases e; simp [size]

/-! ## Paths -/

/-- The element at a path. -/
def get? (e : Element) (path : Path) : Option Element := ElementOf.get? e path

/-- The tree with the attributes at a path changed; as it is if the path leads nowhere. -/
def modify (f : Attributes → Attributes) : Path → Element → Element
  | [], .node attributes children => .node (f attributes) children
  | i :: path, .node attributes children => .node attributes (children.modify i (modify f path))

mutual

/-- The tree with the attributes of every element changed. -/
def map (f : Attributes → Attributes) : Element → Element
  | .node attributes children => .node (f attributes) (mapAll f children)

def mapAll (f : Attributes → Attributes) : List Element → List Element
  | [] => []
  | e :: es => map f e :: mapAll f es

end

@[simp] theorem get?_nil (e : Element) : e.get? [] = some e := by
  cases e; rfl

theorem get?_cons (e : Element) (i : Nat) (path : Path) :
    e.get? (i :: path) = e.children[i]?.bind (·.get? path) := by
  cases e with
  | node a cs => simp only [get?, ElementOf.get?, children_node]; cases cs[i]? <;> rfl

/-! ## Texts -/

/-- The title, else the label, else the value. -/
def text (a : Attributes) : String :=
  ((a.title.or a.label).or a.value).getD ""

/-- A one-line account of an element: what it has of role, title, identifier and value. -/
def describe (a : Attributes) : String :=
  let parts :=
    (a.role.map ("role=" ++ ·)).toList ++ (a.title.map ("title=" ++ ·)).toList
      ++ (a.identifier.map ("#" ++ ·)).toList ++ (a.value.map ("value=" ++ ·)).toList
  "[" ++ " ".intercalate parts ++ "]"

end Element

end UiTree
