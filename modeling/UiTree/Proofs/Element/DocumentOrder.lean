import Mathlib.Data.List.Lex
import UiTree.Element.Walk

/-!
# Document order — the elements of a tree from the root down

`preorder` goes down a tree by recursion.  It lists what `drain` yields with its list of work: every
element once, each before those below it, with paths that rise in the order of their texts.
-/

namespace UiTree

/-! ## 1. Down the tree -/

namespace Element

mutual

/-- An element that stands at a path and all below it. -/
def preorderFrom (path : Path) : Element → List Located
  | .node attributes children =>
    { path, element := .node attributes children } :: preorderAll path 0 children

/-- The trees side by side below a path, from index `i` on. -/
def preorderAll (path : Path) (i : Nat) : List Element → List Located
  | [] => []
  | e :: es => preorderFrom (path ++ [i]) e ++ preorderAll path (i + 1) es

end

/-- All elements of a tree in document order. -/
def preorder (e : Element) : List Located := e.preorderFrom []

/-- The place of an element in document order. -/
def position (e : Element) (n : Located) : Nat :=
  (e.preorder.map (·.path)).idxOf n.path

end Element

namespace Located

/-- An element and all below it. -/
def preorder (n : Located) : List Located := n.element.preorderFrom n.path

theorem preorderAll_eq (path : Path) (i : Nat) (es : List Element) :
    Element.preorderAll path i es = (number path i es).flatMap preorder := by
  induction es generalizing i with
  | nil => rfl
  | cons e es ih => rw [Element.preorderAll, number, List.flatMap_cons, ih, preorder]

theorem preorder_eq_cons_children (n : Located) :
    n.preorder = n :: n.children.flatMap preorder := by
  rcases n with ⟨path, ⟨attributes, children⟩⟩
  rw [preorder, Element.preorderFrom, preorderAll_eq]
  rfl

/-- The walk with a list of work goes down the trees of the list one after the other. -/
theorem drain_eq_flatMap (work : List Located) : drain work = work.flatMap preorder := by
  fun_induction drain work with
  | case1 => rfl
  | case2 n rest ih =>
    rw [ih, List.flatMap_append, List.flatMap_cons, preorder_eq_cons_children, List.cons_append]

theorem preorder_eq_cons (n : Located) : n.preorder = n :: n.descendants := by
  rw [preorder_eq_cons_children, descendants, drain_eq_flatMap]

/-! ## 2. Which elements are listed -/

/-- The element is the other one, or below it: a path leads down to it. -/
def Within (n d : Located) : Prop :=
  ∃ path, d.path = n.path ++ path ∧ n.element.get? path = some d.element

/-- The element is a strict descendant of the other one. -/
def Below (n d : Located) : Prop :=
  ∃ path, path ≠ [] ∧ d.path = n.path ++ path ∧ n.element.get? path = some d.element

end Located

namespace Element

mutual

theorem mem_preorderFrom {path : Path} {d : Located} : ∀ {e : Element},
    d ∈ e.preorderFrom path ↔ ∃ p, d.path = path ++ p ∧ e.get? p = some d.element
  | .node attributes children => by
    rw [preorderFrom, List.mem_cons, mem_preorderAll]
    constructor
    · rintro (rfl | ⟨k, p, hpath, hget⟩)
      · exact ⟨[], (List.append_nil path).symm, rfl⟩
      · refine ⟨k :: p, by rw [hpath, Nat.zero_add], ?_⟩
        rw [get?_cons, children_node, hget]
    · rintro ⟨p, hpath, hget⟩
      cases p with
      | nil =>
        left
        rcases d with ⟨dpath, delement⟩
        rw [get?_nil, Option.some.injEq] at hget
        rw [List.append_nil] at hpath
        simp only at hpath hget
        rw [hpath, hget]
      | cons k p =>
        right
        rw [get?_cons, children_node] at hget
        exact ⟨k, p, by rw [hpath, Nat.zero_add], hget⟩

theorem mem_preorderAll {path : Path} {i : Nat} {d : Located} : ∀ {es : List Element},
    d ∈ preorderAll path i es ↔
      ∃ k p, d.path = path ++ (i + k) :: p ∧ es[k]?.bind (·.get? p) = some d.element
  | [] => by simp [preorderAll]
  | e :: es => by
    rw [preorderAll, List.mem_append, mem_preorderFrom, mem_preorderAll]
    constructor
    · rintro (⟨p, hpath, hget⟩ | ⟨k, p, hpath, hget⟩)
      · exact ⟨0, p, by simpa using hpath, by simpa using hget⟩
      · exact ⟨k + 1, p, by rw [hpath, Nat.add_right_comm, Nat.add_assoc], by simpa using hget⟩
    · rintro ⟨k, p, hpath, hget⟩
      cases k with
      | zero => exact .inl ⟨p, by simpa using hpath, by simpa using hget⟩
      | succ k =>
        exact .inr ⟨k, p, by rw [hpath, Nat.add_right_comm, Nat.add_assoc], by simpa using hget⟩

end

theorem get?_append (e : Element) (p q : Path) :
    e.get? (p ++ q) = (e.get? p).bind (·.get? q) := by
  induction p generalizing e with
  | nil => rw [List.nil_append, get?_nil, Option.bind_some]
  | cons i p ih =>
    rw [List.cons_append, get?_cons, get?_cons, Option.bind_assoc]
    congr 1
    funext child
    exact ih child

end Element

namespace Located

theorem mem_preorder {n d : Located} : d ∈ n.preorder ↔ n.Within d :=
  Element.mem_preorderFrom

theorem mem_descendants {n d : Located} : d ∈ n.descendants ↔ n.Below d := by
  rw [descendants, drain_eq_flatMap, children, ← preorderAll_eq, Element.mem_preorderAll]
  constructor
  · rintro ⟨k, p, hpath, hget⟩
    refine ⟨k :: p, List.cons_ne_nil k p, by rw [hpath, Nat.zero_add], ?_⟩
    rw [Element.get?_cons, hget]
  · rintro ⟨path, hne, hpath, hget⟩
    rcases List.exists_cons_of_ne_nil hne with ⟨k, p, rfl⟩
    rw [Element.get?_cons] at hget
    exact ⟨k, p, by rw [hpath, Nat.zero_add], hget⟩

theorem Below.within {n d : Located} (h : n.Below d) : n.Within d := by
  rcases h with ⟨path, -, hpath, hget⟩
  exact ⟨path, hpath, hget⟩

theorem Within.trans_below {m n d : Located} (h : m.Within n) (h' : n.Below d) : m.Below d := by
  rcases h with ⟨p, hp, hget⟩
  rcases h' with ⟨q, hq, hpath, hget'⟩
  refine ⟨p ++ q, ?_, ?_, ?_⟩
  · exact fun he => hq (List.append_eq_nil_iff.mp he).2
  · rw [hpath, hp, List.append_assoc]
  · rw [Element.get?_append, hget, Option.bind_some, hget']

theorem Below.trans {m n d : Located} (h : m.Below n) (h' : n.Below d) : m.Below d :=
  h.within.trans_below h'

/-- Within one tree an element is known by its path. -/
theorem Within.eq_of_path_eq {r m n : Located} (hm : r.Within m) (hn : r.Within n)
    (h : m.path = n.path) : m = n := by
  rcases hm with ⟨p, hp, hgetp⟩
  rcases hn with ⟨q, hq, hgetq⟩
  rcases m with ⟨mpath, melement⟩
  rcases n with ⟨npath, nelement⟩
  simp only at h hp hq hgetp hgetq
  subst h
  have hpq : p = q := List.append_cancel_left (hp.symm.trans hq)
  subst hpq
  rw [hgetp, Option.some.injEq] at hgetq
  rw [hgetq]

/-- Of two elements of a tree one is below the other when its path goes on from the other's. -/
theorem Within.below_of_path_eq {r m n : Located} (hm : r.Within m) (hn : r.Within n) {path : Path}
    (hne : path ≠ []) (h : n.path = m.path ++ path) : m.Below n := by
  rcases hm with ⟨p, hp, hgetp⟩
  rcases hn with ⟨q, hq, hgetq⟩
  have hpq : q = p ++ path := by
    rw [hq, hp, List.append_assoc] at h
    exact List.append_cancel_left h
  refine ⟨path, hne, h, ?_⟩
  rw [hpq, Element.get?_append, hgetp, Option.bind_some] at hgetq
  exact hgetq

end Located

/-! ## 3. Paths in document order

A path comes before those that go on from it, and two paths that part come in the order of the
indexes at which they part: document order is the lexicographic order of paths. -/

theorem Path.lt_append {path rest : Path} (h : rest ≠ []) : path < path ++ rest := by
  rcases List.exists_cons_of_ne_nil h with ⟨i, rest, rfl⟩
  have hlt : path ++ [] < path ++ i :: rest := List.append_left_lt (List.nil_lt_cons i rest)
  rwa [List.append_nil] at hlt

theorem Path.append_lt_append {path p q : Path} {i j : Nat} (h : i < j) :
    path ++ i :: p < path ++ j :: q :=
  List.append_left_lt (List.Lex.rel h)

/-- Two paths in order, the first of which does not lead to the second, stay in order however both
go on. -/
theorem Path.append_lt_of_lt {m n : Path} (h : m < n) (hp : ¬ m <+: n) (p q : Path) :
    m ++ p < n ++ q := by
  induction h with
  | nil => exact absurd List.nil_prefix hp
  | cons h ih =>
    refine List.Lex.cons (ih ?_)
    intro hpre
    exact hp (List.cons_prefix_cons.mpr ⟨rfl, hpre⟩)
  | rel h => exact List.Lex.rel h

namespace Element

mutual

theorem preorderFrom_pairwise (path : Path) : ∀ e : Element,
    (e.preorderFrom path).Pairwise fun m n => m.path < n.path
  | .node attributes children => by
    rw [preorderFrom, List.pairwise_cons]
    refine ⟨?_, preorderAll_pairwise path 0 children⟩
    -- what is below an element has a longer path
    intro d hd
    rcases mem_preorderAll.mp hd with ⟨k, p, hpath, -⟩
    rw [hpath]
    exact Path.lt_append (List.cons_ne_nil _ p)

theorem preorderAll_pairwise (path : Path) (i : Nat) : ∀ es : List Element,
    (preorderAll path i es).Pairwise fun m n => m.path < n.path
  | [] => List.Pairwise.nil
  | e :: es => by
    rw [preorderAll, List.pairwise_append]
    refine ⟨preorderFrom_pairwise _ e, preorderAll_pairwise path (i + 1) es, ?_⟩
    -- what is below `e` parts from what is below the others at the index of `e`
    intro m hm n hn
    rcases mem_preorderFrom.mp hm with ⟨p, hp, -⟩
    rcases mem_preorderAll.mp hn with ⟨k, q, hq, -⟩
    rw [hp, hq, List.append_assoc, List.singleton_append]
    exact Path.append_lt_append (by omega)

end

end Element

namespace Located

theorem preorder_pairwise (n : Located) : n.preorder.Pairwise fun m n => m.path < n.path :=
  n.element.preorderFrom_pairwise n.path

theorem descendants_pairwise (n : Located) : n.descendants.Pairwise fun m n => m.path < n.path := by
  have h := n.preorder_pairwise
  rw [preorder_eq_cons] at h
  exact (List.pairwise_cons.mp h).2

end Located

/-! ## 4. Positions -/

namespace Element

theorem mem_preorder {e : Element} {n : Located} : n ∈ e.preorder ↔ e.root.Within n :=
  Located.mem_preorder (n := e.root)

theorem path_mem_preorder {e : Element} {n : Located} (hn : e.root.Within n) :
    n.path ∈ e.preorder.map (·.path) :=
  List.mem_map_of_mem (mem_preorder.mpr hn)

theorem position_inj {e : Element} {m n : Located} (hm : e.root.Within m)
    (hn : e.root.Within n) (h : e.position m = e.position n) : m = n :=
  hm.eq_of_path_eq hn ((List.idxOf_inj (path_mem_preorder hm)).mp h)

theorem position_lt_position {e : Element} {m n : Located} (hm : e.root.Within m)
    (hn : e.root.Within n) (h : m.path < n.path) : e.position m < e.position n := by
  have hsorted : (e.preorder.map (·.path)).Pairwise (· < ·) :=
    List.pairwise_map.mpr e.root.preorder_pairwise
  have hmem := path_mem_preorder hm
  have hnmem := path_mem_preorder hn
  -- the list of paths rises, so an earlier place is that of a smaller path
  rcases Nat.lt_trichotomy (e.position m) (e.position n) with hlt | heq | hgt
  · exact hlt
  · rw [position_inj hm hn heq] at h
    exact absurd h (lt_irrefl _)
  · have hle := List.pairwise_iff_getElem.mp hsorted _ _
      (List.idxOf_lt_length_of_mem hnmem) (List.idxOf_lt_length_of_mem hmem) hgt
    rw [List.getElem_idxOf, List.getElem_idxOf] at hle
    exact absurd h (lt_asymm hle)

end Element

/-! ## 5. Elements by their paths -/

namespace Element

/-- The attributes of the element at a path. -/
def attributes? (e : Element) (p : Path) : Option Attributes :=
  (e.get? p).map (·.attributes)

theorem within_root_iff {e : Element} {n : Located} :
    e.root.Within n ↔ e.get? n.path = some n.element := by
  constructor
  · rintro ⟨p, hpath, hget⟩
    have hp : n.path = p := hpath
    rw [hp]
    exact hget
  · intro hget
    exact ⟨n.path, rfl, hget⟩

theorem within_root_self (e : Element) : e.root.Within e.root :=
  within_root_iff.mpr (get?_nil e)

theorem exists_of_attributes? {e : Element} {p : Path} {a : Attributes}
    (h : e.attributes? p = some a) : ∃ n : Located, e.root.Within n ∧ n.path = p ∧
      n.attributes = a := by
  rcases Option.map_eq_some_iff.mp h with ⟨x, hx, ha⟩
  exact ⟨{ path := p, element := x }, within_root_iff.mpr hx, rfl, ha⟩

end Element

theorem Located.Within.attributes?_eq {e : Element} {n : Located} (h : e.root.Within n) :
    e.attributes? n.path = some n.attributes := by
  rw [Element.attributes?, Element.within_root_iff.mp h]
  rfl

end UiTree
