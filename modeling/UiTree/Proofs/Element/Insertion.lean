import UiTree.Proofs.Element.DocumentOrder

/-!
# Insertion — a tree with one more subtree in it

A subtree is put among the children of an element.  The siblings behind it move on by one, with all
that is below them, and everything else stays where it is: paths keep their order, and lead on from
each other as before.
-/

namespace UiTree

/-! ## 1. Where the elements are after an insertion -/

namespace Path

/-- The index of a sibling after there is one more at index `i`. -/
def indexAfter (i j : ℕ) : ℕ := if i ≤ j then j + 1 else j

/-- The path of an element after there is one more child at index `i` below `path`. -/
def afterInsert (i : ℕ) : Path → Path → Path
  | _, [] => []
  | [], j :: q => indexAfter i j :: q
  | k :: path, j :: q => j :: if j = k then afterInsert i path q else q

theorem indexAfter_inj {i j k : ℕ} : indexAfter i j = indexAfter i k ↔ j = k := by
  unfold indexAfter
  split <;> split <;> omega

theorem indexAfter_lt {i j k : ℕ} : indexAfter i j < indexAfter i k ↔ j < k := by
  unfold indexAfter
  split <;> split <;> omega

theorem indexAfter_ne (i j : ℕ) : indexAfter i j ≠ i := by
  unfold indexAfter
  split <;> omega

theorem exists_indexAfter {i j : ℕ} (h : j ≠ i) : ∃ k, indexAfter i k = j := by
  unfold indexAfter
  by_cases hj : j < i
  · exact ⟨j, if_neg (by omega)⟩
  · refine ⟨j - 1, ?_⟩
    rw [if_pos (by omega)]
    omega

variable (i : ℕ) (path : Path)

theorem afterInsert_nil : afterInsert i path [] = [] := by
  cases path <;> rfl

/-- An insertion puts nothing between an element and those below it. -/
theorem afterInsert_prefix_iff (p q : Path) :
    afterInsert i path p <+: afterInsert i path q ↔ p <+: q := by
  induction path generalizing p q with
  | nil =>
    cases p with
    | nil => simp [afterInsert]
    | cons j p =>
      cases q with
      | nil => simp [afterInsert]
      | cons k q =>
        rw [afterInsert, afterInsert, List.cons_prefix_cons, List.cons_prefix_cons, indexAfter_inj]
  | cons k path ih =>
    cases p with
    | nil => simp [afterInsert]
    | cons j p =>
      cases q with
      | nil => simp [afterInsert]
      | cons l q =>
        rw [afterInsert, afterInsert, List.cons_prefix_cons, List.cons_prefix_cons]
        apply and_congr_right
        rintro rfl
        -- both paths lead through the same child
        by_cases hj : j = k
        · rw [if_pos hj, if_pos hj, ih]
        · rw [if_neg hj, if_neg hj]

theorem afterInsert_lt {p q : Path} (h : p < q) : afterInsert i path p < afterInsert i path q := by
  induction path generalizing p q with
  | nil =>
    cases q with
    | nil => exact absurd h (List.not_lt_nil p)
    | cons k q =>
      cases p with
      | nil => exact List.nil_lt_cons _ _
      | cons j p =>
        rw [afterInsert, afterInsert, List.cons_lt_cons_iff, indexAfter_lt, indexAfter_inj]
        exact List.cons_lt_cons_iff.mp h
  | cons k path ih =>
    cases q with
    | nil => exact absurd h (List.not_lt_nil p)
    | cons l q =>
      cases p with
      | nil => exact List.nil_lt_cons _ _
      | cons j p =>
        rw [afterInsert, afterInsert, List.cons_lt_cons_iff]
        refine (List.cons_lt_cons_iff.mp h).imp_right ?_
        rintro ⟨rfl, hlt⟩
        refine ⟨rfl, ?_⟩
        by_cases hj : j = k
        · rw [if_pos hj, if_pos hj]
          exact ih hlt
        · rwa [if_neg hj, if_neg hj]

/-- The paths that lead to the place of the insertion are those that no element has moved to. -/
theorem not_prefix_iff_exists_afterInsert (q : Path) :
    ¬ path ++ [i] <+: q ↔ ∃ p, afterInsert i path p = q := by
  induction path generalizing q with
  | nil =>
    rw [List.nil_append]
    cases q with
    | nil => simpa using ⟨[], afterInsert_nil i []⟩
    | cons j q =>
      rw [List.cons_prefix_cons, and_iff_left List.nil_prefix]
      constructor
      · intro hj
        rcases exists_indexAfter (Ne.symm hj) with ⟨k, rfl⟩
        exact ⟨k :: q, rfl⟩
      · rintro ⟨p, hp⟩ rfl
        cases p with
        | nil => cases hp
        | cons k p =>
          rw [afterInsert, List.cons.injEq] at hp
          exact indexAfter_ne i k hp.1
  | cons k path ih =>
    cases q with
    | nil => simpa using ⟨[], afterInsert_nil i (k :: path)⟩
    | cons j q =>
      rw [List.cons_append, List.cons_prefix_cons]
      by_cases hj : k = j
      · subst hj
        rw [and_iff_right rfl, ih]
        constructor
        · rintro ⟨p, rfl⟩
          exact ⟨k :: p, by rw [afterInsert, if_pos rfl]⟩
        · rintro ⟨p, hp⟩
          cases p with
          | nil => cases hp
          | cons l p =>
            rw [afterInsert, List.cons.injEq] at hp
            rw [if_pos hp.1] at hp
            exact ⟨p, hp.2⟩
      · -- below another child nothing moves
        refine iff_of_true (fun h => hj h.1) ⟨j :: q, ?_⟩
        rw [afterInsert, if_neg (Ne.symm hj)]

end Path

/-! ## 2. The tree after an insertion -/

namespace Element

/-- The tree with another one put at index `i` among the children of the element at a path; as it is
if there is no such element, or if it has too few children. -/
def insertAt (i : ℕ) (new : Element) : Path → Element → Element
  | [], .node attributes children => .node attributes (children.insertIdx i new)
  | k :: path, .node attributes children =>
    .node attributes (children.modify k (insertAt i new path))

variable (i : ℕ) (new : Element) (path : Path)

theorem attributes?_nil (e : Element) : e.attributes? [] = some e.attributes := by
  rw [attributes?, get?_nil, Option.map_some]

theorem attributes?_cons (e : Element) (j : ℕ) (q : Path) :
    e.attributes? (j :: q) = e.children[j]?.bind (·.attributes? q) := by
  rw [attributes?, get?_cons, Option.map_bind]
  rfl

/-- Every element keeps its attributes where it stands now. -/
theorem attributes?_insertAt (q : Path) (e : Element) :
    (insertAt i new path e).attributes? (Path.afterInsert i path q) = e.attributes? q := by
  induction path generalizing q e with
  | nil =>
    rcases e with ⟨attributes, children⟩
    cases q with
    | nil => rw [Path.afterInsert, insertAt, attributes?_nil, attributes?_nil]; rfl
    | cons j q =>
      have hchild : (children.insertIdx i new)[Path.indexAfter i j]? = children[j]? := by
        rw [List.getElem?_insertIdx, Path.indexAfter]
        by_cases hj : i ≤ j
        · rw [if_pos hj, if_neg (by omega), if_neg (by omega), Nat.add_sub_cancel]
        · rw [if_neg hj, if_pos (by omega)]
      rw [Path.afterInsert, insertAt, attributes?_cons, attributes?_cons, children_node,
        children_node, hchild]
  | cons k path ih =>
    rcases e with ⟨attributes, children⟩
    cases q with
    | nil => rw [Path.afterInsert, insertAt, attributes?_nil, attributes?_nil]; rfl
    | cons j q =>
      rw [Path.afterInsert, insertAt, attributes?_cons, attributes?_cons, children_node,
        children_node, List.getElem?_modify]
      by_cases hj : j = k
      · subst hj
        -- the insertion goes on in this child, and so does the path
        cases children[j]? with
        | none => rfl
        | some child => simp [ih]
      · cases children[j]? with
        | none => rfl
        | some child => simp [hj, Ne.symm hj]

theorem get?_insertAt_self {e parent : Element} (hparent : e.get? path = some parent)
    (hi : i ≤ parent.children.length) :
    (insertAt i new path e).get? (path ++ [i]) = some new := by
  induction path generalizing e with
  | nil =>
    rcases e with ⟨attributes, children⟩
    rw [get?_nil, Option.some.injEq] at hparent
    subst hparent
    rw [children_node] at hi
    rw [insertAt, List.nil_append, get?_cons, children_node, List.getElem?_insertIdx,
      if_neg (lt_irrefl i), if_pos rfl, if_pos hi, Option.bind_some, get?_nil]
  | cons k path ih =>
    rcases e with ⟨attributes, children⟩
    rw [get?_cons, children_node] at hparent
    rcases Option.bind_eq_some_iff.mp hparent with ⟨child, hchild, hparent⟩
    rw [insertAt, List.cons_append, get?_cons, children_node, List.getElem?_modify, hchild]
    simp [ih hparent]

end Element

end UiTree
