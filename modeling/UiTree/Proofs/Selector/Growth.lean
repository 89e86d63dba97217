import UiTree.Proofs.Element.Insertion
import UiTree.Proofs.Selector.Embedding

/-!
# Growth — searches in a tree that has grown

A tree stands inside the one that it becomes when a subtree is inserted.  So a search finds all that
it found before, in the same order and as often; what it finds besides are the ends of chains that
come through the inserted subtree, and these do not leave it again.
-/

namespace UiTree.Selector

open Element

theorem embeds_insertAt (steps : List Step) (i : ℕ) (new : Element) (path : Path) (e : Element) :
    Embeds steps (Path.afterInsert i path) (path ++ [i] <+: ·) e (insertAt i new path e) where
  lt _ _ h := Path.afterInsert_lt i path h
  below := Path.afterInsert_prefix_iff i path
  holds s _ p := by rw [Step.holdsAt, attributes?_insertAt, Step.holdsAt]
  old q _ := Path.not_prefix_iff_exists_afterInsert i path q

/-- A chain goes down to its end. -/
theorem Chain.eq_or_below_of_getLast? {steps : List Step} {m d n : Located} {c : List Located}
    (h : Chain steps m c) (hd : d ∈ c) (hn : c.getLast? = some n) : d = n ∨ d.Below n := by
  induction h with
  | nil => exact absurd hd List.not_mem_nil
  | @cons s steps m d' ds hbelow hholds hrest ih =>
    rcases List.mem_cons.mp hd with rfl | hd
    · cases ds with
      | nil =>
        rw [List.getLast?_singleton, Option.some.injEq] at hn
        exact .inl hn
      | cons d' ds =>
        rw [List.getLast?_cons_cons] at hn
        exact .inr (hrest.below_of_mem (List.mem_of_getLast? hn))
    · apply ih hd
      rwa [List.getLast?_cons_of_ne_nil (List.ne_nil_of_mem hd)] at hn

/-- The paths of the ends of chains that keep out of the inserted subtree. -/
theorem map_getLast?_filter_chainsFrom (s : Selector) (hs : s.steps ≠ []) (i : ℕ) (new : Element)
    (path : Path) (e : Element) :
    (((chainsFrom s.steps (insertAt i new path e).root).filter
        fun c => ∀ q ∈ c.map (·.path), ¬ path ++ [i] <+: q).map fun c => c.getLast?.map (·.path)) =
      ((s.find e).map fun n => Path.afterInsert i path n.path).map some := by
  have hkept := (embeds_insertAt s.steps i new path e).filter_pathChains []
  rw [Path.afterInsert_nil] at hkept
  have hgrown := map_path_chainsFrom s.steps (insertAt i new path e).within_root_self
  have hbefore := map_path_chainsFrom s.steps e.within_root_self
  -- both sides are ends of chains, told by their paths
  have hends : ∀ l : List (List Located),
      l.map (fun c => c.getLast?.map (·.path)) = (l.map (List.map (·.path))).map List.getLast? := by
    intro l
    rw [List.map_map]
    apply List.map_congr_left
    intro c _
    exact List.getLast?_map.symm
  calc
    _ = ((pathChains (insertAt i new path e) s.steps []).filter
          fun c => ∀ q ∈ c, ¬ path ++ [i] <+: q).map List.getLast? := by
      rw [hends]
      congr 1
      rw [show pathChains (insertAt i new path e) s.steps [] = _ from hgrown.symm, List.filter_map]
      rfl
    _ = ((pathChains e s.steps []).map (List.map (Path.afterInsert i path))).map List.getLast? := by
      rw [hkept]
    _ = ((chainsFrom s.steps e.root).map List.getLast?).map
          (Option.map fun n => Path.afterInsert i path n.path) := by
      rw [show pathChains e s.steps [] = _ from hbefore.symm, List.map_map, List.map_map,
        List.map_map]
      apply List.map_congr_left
      intro c _
      show (((c.map (·.path)).map (Path.afterInsert i path))).getLast? = _
      rw [List.getLast?_map, List.getLast?_map, Option.map_map]
      rfl
    _ = _ := by
      rw [← map_some_find s e hs, List.map_map, List.map_map]
      rfl

open Classical in
/-- **Growing a tree keeps earlier matches.**  A subtree is inserted at any index among the children
of any element, and every element keeps its attributes where it stands then.  What a search has
found, element by element and as often as it was found, is a part of what it finds in the grown
tree, in the same order.  Each entry found there is the end of one chain: the entries of chains that
keep out of the inserted subtree are the earlier ones, and all other chains end inside it. -/
theorem growing_keeps_matches (s : Selector) (hs : s.steps ≠ []) (e new parent : Element)
    (path : Path) (i : ℕ) (hparent : e.get? path = some parent)
    (hi : i ≤ parent.children.length) :
    let grown := insertAt i new path e
    let inserted : Located := { path := path ++ [i], element := new }
    let kept := (s.find e).map fun n => Path.afterInsert i path n.path
    grown.root.Within inserted ∧
    (∀ q, grown.attributes? (Path.afterInsert i path q) = e.attributes? q) ∧
    kept.Sublist ((s.find grown).map (·.path)) ∧
    ∃ chains : List (List Located),
      (∀ c, c ∈ chains ↔ Chain s.steps grown.root c) ∧ chains.Nodup ∧
      (s.find grown).map some = chains.map List.getLast? ∧
      ((chains.filter fun c => ∀ d ∈ c, ¬ inserted.Within d).map
        fun c => c.getLast?.map (·.path)) = kept.map some ∧
      ∀ c ∈ chains, (∃ d ∈ c, inserted.Within d) →
        ∃ n, c.getLast? = some n ∧ inserted.Within n := by
  intro grown inserted kept
  have hinserted : grown.root.Within inserted :=
    within_root_iff.mpr (get?_insertAt_self i new path hparent hi)
  have hkept := map_getLast?_filter_chainsFrom s hs i new path e
  have hfound := map_some_find s grown hs
  -- in the grown tree the elements of the subtree are known by their paths
  have hinside : ∀ c, Chain s.steps grown.root c → ∀ d ∈ c,
      (inserted.Within d ↔ path ++ [i] <+: d.path) := by
    intro c hc d hd
    have hwithin : grown.root.Within d := (hc.below_of_mem hd).within
    constructor
    · rintro ⟨rest, hpath, -⟩
      exact ⟨rest, hpath.symm⟩
    · rintro ⟨rest, hpath⟩
      have hget := within_root_iff.mp hwithin
      rw [← hpath, get?_append, within_root_iff.mp hinserted] at hget
      exact ⟨rest, hpath.symm, hget⟩
  refine ⟨hinserted, fun q => attributes?_insertAt i new path q e, ?_, chainsFrom s.steps grown.root,
    fun c => mem_chainsFrom, chainsFrom_nodup grown s.steps, hfound, ?_, ?_⟩
  · -- the chains that keep out of the subtree are a part of all chains
    have hpart := (List.filter_sublist (l := chainsFrom s.steps grown.root)
      (p := fun c => ∀ q ∈ c.map (·.path), ¬ path ++ [i] <+: q)).map
        fun c => c.getLast?.map (·.path)
    have hall : (chainsFrom s.steps grown.root).map (fun c => c.getLast?.map (·.path)) =
        ((s.find grown).map (·.path)).map some := by
      have hpaths := congrArg (List.map (Option.map fun n : Located => n.path)) hfound
      rw [List.map_map, List.map_map] at hpaths
      rw [List.map_map]
      exact hpaths.symm
    rw [hkept, hall] at hpart
    rcases List.sublist_map_iff.mp hpart with ⟨l, hl, heq⟩
    have hsame : kept = l := List.map_injective_iff.mpr (Option.some_injective _) heq
    rw [hsame]
    exact hl
  · rw [← hkept]
    congr 1
    apply List.filter_congr
    intro c hc
    rw [decide_eq_decide]
    have hc := mem_chainsFrom.mp hc
    constructor
    · intro h q hq
      rcases List.mem_map.mp hq with ⟨d, hd, rfl⟩
      exact fun hpre => h d hd ((hinside c hc d hd).mpr hpre)
    · intro h d hd hwithin
      exact h d.path (List.mem_map_of_mem hd) ((hinside c hc d hd).mp hwithin)
  · rintro c hc ⟨d, hd, hwithin⟩
    have hc := mem_chainsFrom.mp hc
    refine ⟨c.getLastD grown.root, hc.getLast?_eq hs, ?_⟩
    rcases hc.eq_or_below_of_getLast? hd (hc.getLast?_eq hs) with heq | hbelow
    · rwa [← heq]
    · exact (hwithin.trans_below hbelow).within

/-! ### A group that is put before others -/

def newGroup : Element := labelled "AXGroup" "new" [labelled "AXButton" "third" []]

theorem growing_keeps_matches_newGroup :
    groupButton.steps ≠ [] ∧
    nestedGroups.get? [0] = some (labelled "AXGroup" "outer"
      [labelled "AXGroup" "inner" [labelled "AXButton" "first" []],
        labelled "AXButton" "second" []]) ∧
    (groupButton.find (insertAt 0 newGroup [0] nestedGroups)).map (·.path) =
      [[0, 0, 0], [0, 1, 0], [0, 2], [0, 0, 0], [0, 1, 0]] ∧
    [[0, 1, 0], [0, 2], [0, 1, 0]].Sublist
      ((groupButton.find (insertAt 0 newGroup [0] nestedGroups)).map (·.path)) := by
  have hs : groupButton.steps ≠ [] := by decide
  have hparent : nestedGroups.get? [0] = some (labelled "AXGroup" "outer"
      [labelled "AXGroup" "inner" [labelled "AXButton" "first" []],
        labelled "AXButton" "second" []]) := rfl
  have hkept : (groupButton.find nestedGroups).map (fun n => Path.afterInsert 0 [0] n.path) =
      [[0, 1, 0], [0, 2], [0, 1, 0]] := by
    decide +kernel
  rcases growing_keeps_matches groupButton hs nestedGroups newGroup _ [0] 0 hparent
    (Nat.zero_le _) with ⟨-, -, hsublist, -⟩
  rw [hkept] at hsublist
  exact ⟨hs, hparent, by decide +kernel, hsublist⟩

end UiTree.Selector
