import UiTree.Proofs.Element.DocumentOrder

/-!
# Precedence — what comes before what in a tree

Three rules say how a list names what is below an element: each element once, before those below
itself, and all within a child before all within a later one.  Two elements of a tree stand above
each other, or a fork parts them, so the rules settle every pair.  There is one list that keeps
them, and it is the one that `descendants` gives.
-/

namespace UiTree

/-! ## 1. Before and behind in a list -/

/-- In a list that rises, of two members the lesser one stands before the other. -/
theorem pair_sublist_of_path_lt {ds : List Located} (h : ds.Pairwise fun m d => m.path < d.path)
    {m d : Located} (hm : m ∈ ds) (hd : d ∈ ds) (hlt : m.path < d.path) : [m, d].Sublist ds := by
  induction h with
  | nil => exact absurd hm List.not_mem_nil
  | cons hfirst _ ih =>
    rcases List.mem_cons.mp hm with rfl | hrestm
    · rcases List.mem_cons.mp hd with rfl | hrestd
      · exact absurd hlt (lt_irrefl _)
      · exact (List.singleton_sublist.mpr hrestd).cons_cons _
    · rcases List.mem_cons.mp hd with rfl | hrestd
      · exact absurd hlt (lt_asymm (hfirst m hrestm))
      · exact (ih hrestm hrestd).cons _

/-- Of two members of a list without repetitions only one stands before the other. -/
theorem not_pair_sublist_swap {α : Type*} {xs : List α} (h : xs.Nodup) {x y : α}
    (hxy : [x, y].Sublist xs) : ¬ [y, x].Sublist xs := by
  intro hyx
  induction xs with
  | nil => exact absurd hxy.length_le (by simp)
  | cons z zs ih =>
    rcases List.nodup_cons.mp h with ⟨hfirst, hrest⟩
    rw [List.cons_sublist_cons', List.singleton_sublist] at hxy hyx
    -- whichever of the two the list starts with would come a second time in its rest
    rcases hxy with hxy | ⟨rfl, hy⟩
    · rcases hyx with hyx | ⟨rfl, -⟩
      · exact ih hrest hxy hyx
      · exact hfirst (hxy.subset (by simp))
    · rcases hyx with hyx | ⟨rfl, -⟩
      · exact hfirst (hyx.subset (by simp))
      · exact hfirst hy

/-! ## 2. Forks -/

theorem Path.lt_of_append_lt {path p q : Path} (h : path ++ p < path ++ q) : p < q := by
  rcases lt_trichotomy p q with hlt | rfl | hgt
  · exact hlt
  · exact absurd h (lt_irrefl _)
  · exact absurd h (lt_asymm (List.append_left_lt hgt))

/-- Of two paths in order, either the second goes on from the first or they part at a fork. -/
theorem Path.lt_cases {p q : Path} (h : p < q) :
    (∃ rest, rest ≠ [] ∧ q = p ++ rest) ∨
    ∃ fork i j u v, i < j ∧ p = fork ++ i :: u ∧ q = fork ++ j :: v := by
  induction h with
  | nil => exact .inl ⟨_, List.cons_ne_nil _ _, rfl⟩
  | cons h ih =>
    rcases ih with ⟨rest, hne, rfl⟩ | ⟨fork, i, j, u, v, hlt, rfl, rfl⟩
    · exact .inl ⟨rest, hne, rfl⟩
    · exact .inr ⟨_ :: fork, i, j, u, v, hlt, rfl, rfl⟩
  | rel h => exact .inr ⟨[], _, _, _, _, h, rfl, rfl⟩

/-- A path that leads to an element leads through those on its way. -/
theorem Element.exists_child_of_get? {e x : Element} {fork u : Path} {i : Nat}
    (h : e.get? (fork ++ i :: u) = some x) :
    ∃ f c, e.get? fork = some f ∧ f.children[i]? = some c ∧ c.get? u = some x := by
  rw [get?_append] at h
  rcases Option.bind_eq_some_iff.mp h with ⟨f, hfork, hbelow⟩
  rw [get?_cons] at hbelow
  rcases Option.bind_eq_some_iff.mp hbelow with ⟨c, hchild, hget⟩
  exact ⟨f, c, hfork, hchild, hget⟩

/-! ## 3. Children, and what is within them -/

namespace Located

theorem mem_number {path : Path} {i : Nat} {es : List Element} {c : Located} :
    c ∈ number path i es ↔ ∃ k, c.path = path ++ [i + k] ∧ es[k]? = some c.element := by
  induction es generalizing i with
  | nil => simp [number]
  | cons e es ih =>
    rw [number, List.mem_cons, ih]
    constructor
    · rintro (rfl | ⟨k, hpath, hget⟩)
      · exact ⟨0, rfl, rfl⟩
      · exact ⟨k + 1, by rw [hpath, Nat.add_right_comm, Nat.add_assoc], hget⟩
    · rintro ⟨k, hpath, hget⟩
      cases k with
      | zero =>
        left
        rcases c with ⟨cpath, celement⟩
        obtain rfl : e = celement := by simpa using hget
        rw [show cpath = path ++ [i] from hpath]
      | succ k => exact .inr ⟨k, by rw [hpath, Nat.add_right_comm, Nat.add_assoc], hget⟩

theorem mem_children {n c : Located} :
    c ∈ n.children ↔ ∃ k, c.path = n.path ++ [k] ∧ n.element.children[k]? = some c.element := by
  rw [children, mem_number]
  simp only [Nat.zero_add]

theorem number_pairwise (path : Path) (i : Nat) (es : List Element) :
    (number path i es).Pairwise fun c d => c.path < d.path := by
  induction es generalizing i with
  | nil => exact List.Pairwise.nil
  | cons e es ih =>
    rw [number, List.pairwise_cons]
    refine ⟨?_, ih (i + 1)⟩
    intro d hd
    rcases mem_number.mp hd with ⟨k, hpath, -⟩
    rw [hpath]
    exact Path.append_lt_append (by omega)

theorem children_pairwise (n : Located) : n.children.Pairwise fun c d => c.path < d.path :=
  number_pairwise n.path 0 n.element.children

theorem below_of_mem_children {n c : Located} (h : c ∈ n.children) : n.Below c := by
  rcases mem_children.mp h with ⟨k, hpath, hget⟩
  refine ⟨[k], List.cons_ne_nil _ _, hpath, ?_⟩
  rw [Element.get?_cons, hget, Option.bind_some, Element.get?_nil]

theorem Below.trans_within {l m n : Located} (h : l.Below m) (h' : m.Within n) : l.Below n := by
  rcases h with ⟨p, hne, hp, hget⟩
  rcases h' with ⟨q, hq, hget'⟩
  refine ⟨p ++ q, ?_, ?_, ?_⟩
  · exact fun he => hne (List.append_eq_nil_iff.mp he).1
  · rw [hq, hp, List.append_assoc]
  · rw [Element.get?_append, hget, Option.bind_some, hget']

theorem Below.path_lt {m n : Located} (h : m.Below n) : m.path < n.path := by
  rcases h with ⟨path, hne, hpath, -⟩
  rw [hpath]
  exact Path.lt_append hne

/-- What is within siblings comes in the order of the siblings. -/
theorem path_lt_of_siblings {n c c' d d' : Located} (h : [c, c'].Sublist n.children)
    (hd : c.Within d) (hd' : c'.Within d') : d.path < d'.path := by
  have hlt : c.path < c'.path := List.pairwise_iff_forall_sublist.mp n.children_pairwise h
  rcases mem_children.mp (h.subset List.mem_cons_self) with ⟨i, hc, -⟩
  rcases mem_children.mp (h.subset (List.mem_cons_of_mem c List.mem_cons_self)) with ⟨j, hc', -⟩
  -- siblings have paths of one length, so that neither leads to the other
  have hapart : ¬ c.path <+: c'.path := by
    intro hpre
    have heq : c.path = c'.path := hpre.eq_of_length (by rw [hc, hc']; simp)
    exact absurd hlt (heq ▸ lt_irrefl _)
  rcases hd with ⟨p, hp, -⟩
  rcases hd' with ⟨q, hq, -⟩
  rw [hp, hq]
  exact Path.append_lt_of_lt hlt hapart p q

/-! ## 4. Two elements of a tree -/

/-- Of two elements of a tree in order, the second is below the first, or they are within different
children of an element. -/
theorem below_or_within_siblings {n m d : Located} (hm : n.Within m) (hd : n.Within d)
    (h : m.path < d.path) : m.Below d ∨
      ∃ f c c', n.Within f ∧ [c, c'].Sublist f.children ∧ c.Within m ∧ c'.Within d := by
  have ⟨p, hp, hgetm⟩ := hm
  have ⟨q, hq, hgetd⟩ := hd
  -- both paths start with that of `n`, so that the fork is within `n` too
  have hlt : p < q := Path.lt_of_append_lt (by rwa [← hp, ← hq])
  rcases Path.lt_cases hlt with ⟨rest, hne, rfl⟩ | ⟨fork, i, j, u, v, hij, rfl, rfl⟩
  · left
    exact hm.below_of_path_eq hd hne (by rw [hq, hp, List.append_assoc])
  · right
    rcases Element.exists_child_of_get? hgetm with ⟨e, x, hfork, hx, hgetx⟩
    rcases Element.exists_child_of_get? hgetd with ⟨e', y, hfork', hy, hgety⟩
    obtain rfl : e = e' := Option.some.inj (hfork.symm.trans hfork')
    let f : Located := { path := n.path ++ fork, element := e }
    have hpair : [{ path := f.path ++ [i], element := x },
        { path := f.path ++ [j], element := y }].Sublist f.children :=
      pair_sublist_of_path_lt f.children_pairwise (mem_children.mpr ⟨i, rfl, hx⟩)
        (mem_children.mpr ⟨j, rfl, hy⟩) (Path.append_lt_append hij)
    refine ⟨f, _, _, ⟨fork, rfl, hfork⟩, hpair, ⟨u, ?_, hgetx⟩, ⟨v, ?_, hgety⟩⟩
    · rw [hp, List.append_assoc, List.append_assoc, List.singleton_append]
    · rw [hq, List.append_assoc, List.append_assoc, List.singleton_append]

/-! ## 5. The order of a document -/

/-- A list has what is below an element: each once, before what is below itself, and what is within
siblings in the order of the siblings. -/
structure InDocumentOrder (n : Located) (ds : List Located) : Prop where
  mem_iff : ∀ d, d ∈ ds ↔ n.Below d
  nodup : ds.Nodup
  above_first : ∀ m d, n.Below m → m.Below d → [m, d].Sublist ds
  siblings_in_order : ∀ m c c' d d', n.Within m → [c, c'].Sublist m.children →
    c.Within d → c'.Within d' → [d, d'].Sublist ds

theorem inDocumentOrder_descendants (n : Located) : n.InDocumentOrder n.descendants where
  mem_iff _ := mem_descendants
  nodup := by
    refine n.descendants_pairwise.imp ?_
    rintro m d hlt rfl
    exact lt_irrefl _ hlt
  above_first m d hm hd :=
    pair_sublist_of_path_lt n.descendants_pairwise (mem_descendants.mpr hm)
      (mem_descendants.mpr (hm.trans hd)) hd.path_lt
  siblings_in_order m c c' d d' hm hpair hd hd' := by
    have hc : n.Below c := hm.trans_below (below_of_mem_children (hpair.subset (by simp)))
    have hc' : n.Below c' := hm.trans_below (below_of_mem_children (hpair.subset (by simp)))
    exact pair_sublist_of_path_lt n.descendants_pairwise (mem_descendants.mpr (hc.trans_within hd))
      (mem_descendants.mpr (hc'.trans_within hd')) (path_lt_of_siblings hpair hd hd')

namespace InDocumentOrder

variable {n : Located} {ds : List Located}

theorem pair_sublist (h : n.InDocumentOrder ds) {m d : Located} (hm : n.Below m) (hd : n.Below d)
    (hlt : m.path < d.path) : [m, d].Sublist ds := by
  rcases below_or_within_siblings hm.within hd.within hlt with
    hbelow | ⟨f, c, c', hf, hpair, hcm, hcd⟩
  · exact h.above_first m d hm hbelow
  · exact h.siblings_in_order f c c' m d hf hpair hcm hcd

theorem pairwise (h : n.InDocumentOrder ds) : ds.Pairwise fun m d => m.path < d.path := by
  rw [List.pairwise_iff_forall_sublist]
  intro m d hpair
  have hm : n.Below m := (h.mem_iff m).mp (hpair.subset (by simp))
  have hd : n.Below d := (h.mem_iff d).mp (hpair.subset (by simp))
  -- were the paths not in order, the rules would put the two elements the other way round as well
  rcases lt_trichotomy m.path d.path with hlt | heq | hgt
  · exact hlt
  · obtain rfl := hm.within.eq_of_path_eq hd.within heq
    exact absurd hpair (not_pair_sublist_swap h.nodup hpair)
  · exact absurd (h.pair_sublist hd hm hgt) (not_pair_sublist_swap h.nodup hpair)

/-- The rules leave no choice: both lists rise, and they have the same members. -/
theorem eq_descendants (h : n.InDocumentOrder ds) : ds = n.descendants := by
  have hperm : ds.Perm n.descendants :=
    (List.perm_ext_iff_of_nodup h.nodup n.inDocumentOrder_descendants.nodup).mpr fun d =>
      (h.mem_iff d).trans mem_descendants.symm
  refine hperm.eq_of_pairwise ?_ h.pairwise n.descendants_pairwise
  intro m d _ _ hlt hgt
  exact absurd hgt (lt_asymm hlt)

end InDocumentOrder

theorem inDocumentOrder_iff (n : Located) (ds : List Located) :
    n.InDocumentOrder ds ↔ ds = n.descendants :=
  ⟨InDocumentOrder.eq_descendants, fun h => h ▸ n.inDocumentOrder_descendants⟩

end Located

end UiTree
