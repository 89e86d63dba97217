import UiTree.Proofs.Element.Precedence

/-!
# Traversals — a loop over a stack and a walk down the tree

The loop takes an element off the top of its stack, yields it and puts its children there, the first
on top.  The walk goes from an element into each of its children.  What the walk lists of the
elements on the stack, from the top down, is what the loop has still to yield; so the loop ends, and
it yields what the walk comes to.
-/

namespace UiTree

open Located

/-! ## 1. The walk -/

namespace Located

theorem size_le_weight {n : Located} {work : List Located} (h : n ∈ work) :
    n.element.size ≤ weight work := by
  induction work with
  | nil => exact absurd h List.not_mem_nil
  | cons m rest ih =>
    rw [weight]
    rcases List.mem_cons.mp h with rfl | hrest
    · omega
    · have hle := ih hrest
      omega

theorem size_lt_of_mem_children {n c : Located} (h : c ∈ n.children) :
    c.element.size < n.element.size := by
  have hle := size_le_weight h
  rw [children, weight_number] at hle
  rw [Element.size_eq n.element]
  omega

/-- An element with the depth at which it stands, then what is within each of its children. -/
def walk (depth : Int) (n : Located) : List (Int × Located) :=
  (depth, n) :: n.children.attach.flatMap fun c => walk (depth + 1) c.1
termination_by n.element.size
decreasing_by exact size_lt_of_mem_children c.2

theorem walk_eq (depth : Int) (n : Located) :
    n.walk depth = (depth, n) :: n.children.flatMap (walk (depth + 1)) := by
  rw [walk, List.flatMap_subtype fun _ _ => rfl, List.unattach_attach]

/-- The walk goes through the elements in document order. -/
theorem map_snd_walk (depth : Int) (n : Located) : (n.walk depth).map (·.2) = n.preorder := by
  induction depth, n using walk.induct with
  | case1 depth n ih =>
    have hbelow : ∀ c ∈ n.children, (c.walk (depth + 1)).map (·.2) = c.preorder :=
      fun c hc => ih ⟨c, hc⟩
    rw [walk_eq, List.map_cons, List.map_flatMap, List.flatMap_congr hbelow,
      preorder_eq_cons_children]

theorem map_element_number (path : Path) (i : Nat) (es : List Element) :
    (number path i es).map (·.element) = es := by
  induction es generalizing i with
  | nil => rfl
  | cons e es ih => rw [number, List.map_cons, ih]

theorem map_element_children (n : Located) : n.children.map (·.element) = n.element.children :=
  map_element_number n.path 0 n.element.children

end Located

theorem Element.outlineAll_eq (depth : Nat) (es : List Element) :
    outlineAll depth es = es.flatMap (outline depth) := by
  induction es with
  | nil => rfl
  | cons e es ih => rw [outlineAll, ih, List.flatMap_cons]

theorem Element.outline_eq_cons (depth : Nat) (e : Element) :
    outline depth e = (depth, e.attributes) :: e.children.flatMap (outline (depth + 1)) := by
  cases e with
  | node a cs => rw [outline, outlineAll_eq, attributes_node, children_node]

namespace Located

/-- An outline keeps of the walk the depths and the attributes. -/
theorem map_walk_eq_outline (indent : Int) (depth : Nat) (n : Located) :
    (n.walk (indent + depth)).map (fun line => (line.1, line.2.attributes)) =
      (n.element.outline depth).map fun line => (indent + line.1, line.2) := by
  -- the walk counts from `start` where the outline counts from `depth`
  generalize hstart : indent + (depth : Int) = start
  induction start, n using walk.induct generalizing depth with
  | case1 start n ih =>
    have hdepth : indent + ((depth + 1 : Nat) : Int) = start + 1 := by omega
    have hbelow : ∀ c ∈ n.children,
        (c.walk (start + 1)).map (fun line => (line.1, line.2.attributes)) =
          (c.element.outline (depth + 1)).map fun line => (indent + line.1, line.2) :=
      fun c hc => ih ⟨c, hc⟩ (depth + 1) hdepth
    rw [walk_eq, List.map_cons, List.map_flatMap, List.flatMap_congr hbelow,
      Element.outline_eq_cons, List.map_cons, List.map_flatMap, ← map_element_children,
      List.flatMap_map, hstart]
    rfl

end Located

/-! ## 2. The loop -/

/-- A traversal under way: a stack, its top at the end, and the elements that have been yielded. -/
structure Traversal where
  stack : Array Located
  yielded : List Located

namespace Traversal

/-- At first the children of an element are on the stack, the first on top. -/
def start (n : Located) : Traversal :=
  { stack := n.children.reverse.toArray, yielded := [] }

/-- A turn yields the top of the stack and puts its children there, the first on top.  There is none
when the stack is empty. -/
def turn? (t : Traversal) : Option Traversal :=
  t.stack.back?.map fun current =>
    { stack := t.stack.pop ++ current.children.reverse.toArray
      yielded := t.yielded ++ [current] }

/-- A number of turns, if the loop goes on for so long. -/
def turns? : Nat → Traversal → Option Traversal
  | 0, t => some t
  | k + 1, t => t.turn?.bind (turns? k)

/-- The stack from the top down. -/
def waiting (t : Traversal) : List Located := t.stack.toList.reverse

/-- What has still to be yielded: the elements on the stack, each with all below it. -/
def remaining (t : Traversal) : List Located := t.waiting.flatMap preorder

theorem remaining_start (n : Located) : (start n).remaining = n.descendants := by
  rw [remaining, waiting, start, List.toList_toArray, List.reverse_reverse, descendants,
    drain_eq_flatMap]

theorem stack_eq_empty_iff (t : Traversal) : t.stack = #[] ↔ t.waiting = [] := by
  rw [waiting, List.reverse_eq_nil_iff, Array.toList_eq_nil_iff]

/-- What one turn does: the top goes, and its children take its place. -/
theorem exists_turn? {t : Traversal} {n : Located} {rest : List Located}
    (h : t.waiting = n :: rest) : ∃ u, t.turn? = some u ∧ u.waiting = n.children ++ rest ∧
      u.yielded = t.yielded ++ [n] := by
  have hstack : t.stack.toList = rest.reverse ++ [n] := by
    rw [← List.reverse_reverse t.stack.toList, ← waiting, h, List.reverse_cons]
  have htop : t.stack.back? = some n := by
    rw [← Array.getLast?_toList, hstack, List.getLast?_concat]
  refine ⟨_, by rw [turn?, htop]; rfl, ?_, rfl⟩
  -- children were reversed on their way to the stack, and are again as it is read from the top
  rw [waiting, Array.toList_append, List.toList_toArray, Array.toList_pop, hstack,
    List.dropLast_concat, List.reverse_append, List.reverse_reverse, List.reverse_reverse]

/-- A loop either stands still, with nothing left, or yields the first of what is left. -/
theorem turn?_cases (t : Traversal) :
    (t.turn? = none ∧ t.stack = #[] ∧ t.remaining = []) ∨
    ∃ n u, t.turn? = some u ∧ t.remaining = n :: u.remaining ∧ u.yielded = t.yielded ++ [n] := by
  cases hwaiting : t.waiting with
  | nil =>
    left
    have hstack := t.stack_eq_empty_iff.mpr hwaiting
    refine ⟨?_, hstack, by rw [remaining, hwaiting, List.flatMap_nil]⟩
    rw [turn?, hstack]
    rfl
  | cons n rest =>
    right
    rcases exists_turn? hwaiting with ⟨u, hturn, hchildren, hyielded⟩
    refine ⟨n, u, hturn, ?_, hyielded⟩
    rw [remaining, remaining, hwaiting, hchildren, List.flatMap_cons, List.flatMap_append,
      preorder_eq_cons_children, List.cons_append]

/-- Each turn moves one element from what is left to what has been yielded, so that a number of
turns splits what is left in two. -/
theorem exists_turns? {k : Nat} {t : Traversal} (h : k ≤ t.remaining.length) :
    ∃ u, t.turns? k = some u ∧ u.remaining = t.remaining.drop k ∧
      u.yielded = t.yielded ++ t.remaining.take k := by
  induction k generalizing t with
  | zero => exact ⟨t, rfl, rfl, (List.append_nil _).symm⟩
  | succ k ih =>
    rcases t.turn?_cases with ⟨-, -, hnil⟩ | ⟨n, s, hturn, hremaining, hyielded⟩
    · rw [hnil] at h
      exact absurd h (Nat.not_succ_le_zero k)
    · rw [hremaining, List.length_cons] at h
      rcases ih (Nat.le_of_succ_le_succ h) with ⟨u, hturns, hdrop, htake⟩
      refine ⟨u, by rw [turns?, hturn, Option.bind_some, hturns], ?_, ?_⟩
      · rw [hdrop, hremaining, List.drop_succ_cons]
      · rw [htake, hyielded, hremaining, List.take_succ_cons, List.append_assoc,
          List.singleton_append]

/-- The loop ends when nothing is left. -/
theorem turns?_eq_none {k : Nat} {t : Traversal} (h : t.remaining.length < k) :
    t.turns? k = none := by
  induction k generalizing t with
  | zero => exact absurd h (Nat.not_lt_zero _)
  | succ k ih =>
    rcases t.turn?_cases with ⟨hturn, -, -⟩ | ⟨n, s, hturn, hremaining, -⟩
    · rw [turns?, hturn, Option.bind_none]
    · rw [hremaining, List.length_cons] at h
      rw [turns?, hturn, Option.bind_some, ih (Nat.lt_of_succ_lt_succ h)]

theorem map_yielded_turns? (t : Traversal) (k : Nat) : (t.turns? k).map (·.yielded) =
    if k ≤ t.remaining.length then some (t.yielded ++ t.remaining.take k) else none := by
  by_cases h : k ≤ t.remaining.length
  · rcases exists_turns? h with ⟨u, hturns, -, hyielded⟩
    rw [if_pos h, hturns, Option.map_some, hyielded]
  · rw [if_neg h, turns?_eq_none (Nat.lt_of_not_le h), Option.map_none]

/-- With the last of what is left the stack runs empty. -/
theorem turns?_length_remaining (t : Traversal) : t.turns? t.remaining.length =
    some { stack := #[], yielded := t.yielded ++ t.remaining } := by
  rcases exists_turns? (Nat.le_refl t.remaining.length) with ⟨u, hturns, hremaining, hyielded⟩
  rw [List.drop_length] at hremaining
  rw [List.take_length] at hyielded
  have hstack : u.stack = #[] := by
    rcases u.turn?_cases with ⟨-, hstack, -⟩ | ⟨n, s, -, hcons, -⟩
    · exact hstack
    · exact absurd (hcons.symm.trans hremaining) (List.cons_ne_nil _ _)
  rw [hturns, ← hstack, ← hyielded]

-- a child with a child of its own, and another beside it
example :
    ((start (Element.node {} [.node {} [.node {} []], .node {} []]).root).turns? 3).map
      (·.yielded.map (·.path)) = some [[0], [0, 0], [1]] := by decide

end Traversal

/-! ## 3. Both list the same -/

/-- **The traversals agree.**  The loop makes one turn for each element below, no more, and ends
with an empty stack; after each number of turns it has yielded so many of the elements that the walk
comes to after the one it starts with.  An outline has the lines of that walk, and of all lists of
elements only this one is in the order of a document. -/
theorem traversals_agree (n : Located) :
    (Traversal.start n).turns? n.descendants.length =
      some { stack := #[], yielded := n.descendants } ∧
    (∀ k, ((Traversal.start n).turns? k).map (·.yielded) =
      if k ≤ n.descendants.length then some (n.descendants.take k) else none) ∧
    (∀ depth, (n.walk depth).map (·.2) = n :: n.descendants) ∧
    (∀ indent, (n.walk indent).map (fun line => (line.1, line.2.attributes)) =
      (n.element.outline 0).map fun line => (indent + line.1, line.2)) ∧
    (∀ ds, n.InDocumentOrder ds ↔ ds = n.descendants) := by
  refine ⟨?_, ?_, ?_, ?_, n.inDocumentOrder_iff⟩
  · have hlast := (Traversal.start n).turns?_length_remaining
    rwa [Traversal.remaining_start, Traversal.start, List.nil_append] at hlast
  · intro k
    have hturns := (Traversal.start n).map_yielded_turns? k
    rwa [Traversal.remaining_start, Traversal.start, List.nil_append] at hturns
  · intro depth
    rw [map_snd_walk, preorder_eq_cons]
  · intro indent
    have houtline := map_walk_eq_outline indent 0 n
    rwa [Int.natCast_zero, Int.add_zero] at houtline

end UiTree
