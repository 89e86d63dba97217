import UiTree.Proofs.Element.DocumentOrder

/-!
# Changes — a tree whose attributes were changed

Attributes change in place: the elements of a tree stay where they are, with as many children as
before, and an element that was not meant keeps its attributes.
-/

namespace UiTree.Element

/-- What an element is apart from the elements below it: its attributes, and how many children it
has. -/
def node? (e : Element) (path : Path) : Option (Attributes × Nat) :=
  (e.get? path).map fun x => (x.attributes, x.children.length)

theorem node?_nil (e : Element) : e.node? [] = some (e.attributes, e.children.length) := by
  rw [node?, get?_nil, Option.map_some]

theorem node?_cons (e : Element) (i : Nat) (path : Path) :
    e.node? (i :: path) = e.children[i]?.bind (·.node? path) := by
  rw [node?, get?_cons, Option.map_bind]
  rfl

theorem attributes?_eq_map_node? (e : Element) (path : Path) :
    e.attributes? path = (e.node? path).map (·.1) := by
  rw [attributes?, node?, Option.map_map]
  rfl

/-- By induction on the path of the change, which leads away from all other paths at some point. -/
theorem node?_modify (f : Attributes → Attributes) (path q : Path) (e : Element) :
    (modify f path e).node? q =
      (e.node? q).map fun x => (if q = path then f x.1 else x.1, x.2) := by
  induction path generalizing e q with
  | nil =>
    rcases e with ⟨attributes, children⟩
    cases q with
    | nil => rw [modify, node?_nil, node?_nil, Option.map_some, if_pos rfl]; rfl
    | cons j q =>
      rw [modify, node?_cons, node?_cons]
      simp
  | cons i path ih =>
    rcases e with ⟨attributes, children⟩
    cases q with
    | nil =>
      rw [modify, node?_nil, node?_nil, children_node, List.length_modify]
      simp
    | cons j q =>
      rw [modify, node?_cons, node?_cons, children_node, children_node, List.getElem?_modify]
      by_cases hij : i = j
      · subst hij
        -- the change goes on in this child, and so does the path
        cases children[i]? with
        | none => rfl
        | some child => simp [ih]
      · have hne : ¬ j :: q = i :: path := fun h => hij (List.cons.inj h).1.symm
        simp [hij, hne]

/-- Changes that agree on the element at the path are the same. -/
theorem modify_congr {f g : Attributes → Attributes} {path : Path} {e : Element}
    (h : ∀ x, e.get? path = some x → f x.attributes = g x.attributes) :
    modify f path e = modify g path e := by
  induction path generalizing e with
  | nil =>
    rcases e with ⟨attributes, children⟩
    rw [modify, modify, ← attributes_node attributes children, h _ (get?_nil _)]
  | cons i path ih =>
    rcases e with ⟨attributes, children⟩
    rw [modify, modify]
    congr 1
    apply List.ext_getElem?
    intro j
    rw [List.getElem?_modify, List.getElem?_modify]
    by_cases hij : i = j
    · subst hij
      cases hchild : children[i]? with
      | none => rfl
      | some child =>
        have hmodify : modify f path child = modify g path child := by
          apply ih
          intro x hx
          apply h
          rw [get?_cons, children_node, hchild, Option.bind_some, hx]
        simp [hmodify]
    · simp [hij]

theorem mem_preorder_map_path {e : Element} {path : Path} :
    path ∈ e.preorder.map (·.path) ↔ (e.node? path).isSome := by
  rw [node?, Option.isSome_map, List.mem_map]
  constructor
  · rintro ⟨n, hn, rfl⟩
    rcases mem_preorder.mp hn with ⟨p, hpath, hget⟩
    have hpath' : n.path = p := hpath
    have hget' : e.get? p = some n.element := hget
    rw [hpath', hget']
    rfl
  · intro h
    rcases Option.isSome_iff_exists.mp h with ⟨x, hx⟩
    exact ⟨{ path, element := x }, mem_preorder.mpr ⟨path, rfl, hx⟩, rfl⟩

end UiTree.Element
