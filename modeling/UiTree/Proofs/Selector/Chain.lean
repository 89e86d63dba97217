import Mathlib.Data.Set.Card
import UiTree.Proofs.Element.DocumentOrder
import UiTree.Selector.Search

/-!
# Chains — the ways a search comes to its elements

A chain below an element meets the steps of a selector one below the other.  A search goes from
generation to generation, but it finds exactly the ends of all chains, one entry for each, in the
order of the positions that the chains pass through.
-/

namespace UiTree.Selector

/-! ## 1. Chains -/

/-- Elements that meet the steps in order, each a strict descendant of the one before it. -/
inductive Chain : List Step → Located → List Located → Prop
  | nil (m : Located) : Chain [] m []
  | cons {s : Step} {steps : List Step} {m d : Located} {ds : List Located}
      (below : m.Below d) (holds : s.holds d.attributes = true) (rest : Chain steps d ds) :
      Chain (s :: steps) m (d :: ds)

/-- All chains below an element. -/
def chainsFrom : List Step → Located → List (List Located)
  | [], _ => [[]]
  | s :: steps, m => (s.below m).flatMap fun d => (chainsFrom steps d).map (d :: ·)

theorem mem_below {s : Step} {m d : Located} :
    d ∈ s.below m ↔ m.Below d ∧ s.holds d.attributes = true := by
  rw [Step.below, List.mem_filter, Located.mem_descendants]

theorem mem_chainsFrom {steps : List Step} {m : Located} {c : List Located} :
    c ∈ chainsFrom steps m ↔ Chain steps m c := by
  induction steps generalizing m c with
  | nil =>
    rw [chainsFrom, List.mem_singleton]
    constructor
    · rintro rfl
      exact .nil m
    · rintro ⟨⟩
      rfl
  | cons s steps ih =>
    rw [chainsFrom, List.mem_flatMap]
    constructor
    · rintro ⟨d, hd, hc⟩
      rcases List.mem_map.mp hc with ⟨ds, hds, rfl⟩
      rcases mem_below.mp hd with ⟨hbelow, hholds⟩
      exact .cons hbelow hholds (ih.mp hds)
    · rintro (_ | ⟨hbelow, hholds, hrest⟩)
      exact ⟨_, mem_below.mpr ⟨hbelow, hholds⟩, List.mem_map_of_mem (ih.mpr hrest)⟩

theorem Chain.below_of_mem {steps : List Step} {m d : Located} {c : List Located}
    (h : Chain steps m c) (hd : d ∈ c) : m.Below d := by
  induction h with
  | nil => exact absurd hd List.not_mem_nil
  | cons hbelow _ _ ih =>
    rcases List.mem_cons.mp hd with rfl | hd
    · exact hbelow
    · exact hbelow.trans (ih hd)

/-- A chain for one step or more has an end. -/
theorem Chain.getLast?_eq {steps : List Step} {m : Located} {c : List Located}
    (h : Chain steps m c) (hs : steps ≠ []) : c.getLast? = some (c.getLastD m) := by
  cases h with
  | nil => exact absurd rfl hs
  | cons => rw [List.getLast?_cons, List.getLastD_cons, List.getLastD_eq_getLast?]

/-! ## 2. The generations of a search -/

/-- A generation holds the ends of the chains below all elements of an earlier one. -/
theorem search_eq_flatMap (steps : List Step) (found : List Located) :
    search steps found = found.flatMap fun m => (chainsFrom steps m).map (·.getLastD m) := by
  induction steps generalizing found with
  | nil => simp [search, chainsFrom]
  | cons s steps ih =>
    rw [search, ih, List.flatMap_assoc]
    -- both sides go over the elements of the generation, then over what is below each
    congr 1
    funext m
    rw [chainsFrom, List.map_flatMap]
    congr 1
    funext d
    rw [List.map_map]
    apply List.map_congr_left
    intro c _
    change c.getLastD d = (d :: c).getLastD m
    rw [List.getLastD_cons]

theorem find_eq_map (s : Selector) (e : Element) :
    s.find e = (chainsFrom s.steps e.root).map (·.getLastD e.root) := by
  rw [find, search_eq_flatMap, List.flatMap_singleton]

theorem map_some_find (s : Selector) (e : Element) (hs : s.steps ≠ []) :
    (s.find e).map some = (chainsFrom s.steps e.root).map List.getLast? := by
  rw [find_eq_map, List.map_map]
  apply List.map_congr_left
  intro c hc
  rw [(mem_chainsFrom.mp hc).getLast?_eq hs]
  rfl

/-! ## 3. The order of chains -/

theorem below_pairwise (s : Step) (m : Located) :
    (s.below m).Pairwise fun d d' => d.path < d'.path :=
  m.descendants_pairwise.filter _

theorem chainsFrom_pairwise (e : Element) (steps : List Step) (m : Located)
    (hm : e.root.Within m) :
    (chainsFrom steps m).Pairwise fun c c' => c.map e.position < c'.map e.position := by
  induction steps generalizing m with
  | nil => exact List.pairwise_singleton _ _
  | cons s steps ih =>
    have hin : ∀ d ∈ s.below m, e.root.Within d := fun d hd =>
      (hm.trans_below (mem_below.mp hd).1).within
    rw [chainsFrom, List.pairwise_flatMap]
    constructor
    · -- chains that begin alike are in the order of what follows
      intro d hd
      rw [List.pairwise_map]
      exact (ih d (hin d hd)).imp fun h => List.Lex.cons h
    · -- the others are in the order of their first elements
      refine (below_pairwise s m).imp_of_mem ?_
      intro d d' hd hd' hlt c hc c' hc'
      rcases List.mem_map.mp hc with ⟨ds, -, rfl⟩
      rcases List.mem_map.mp hc' with ⟨ds', -, rfl⟩
      exact List.Lex.rel (Element.position_lt_position (hin d hd) (hin d' hd') hlt)

theorem chainsFrom_nodup (e : Element) (steps : List Step) : (chainsFrom steps e.root).Nodup := by
  have h := chainsFrom_pairwise e steps e.root ⟨[], rfl, Element.get?_nil e⟩
  refine h.imp ?_
  rintro c c' hlt rfl
  exact lt_irrefl _ hlt

/-! ## 4. What a search finds -/

/-- The chains of a selector in a tree that end at a path. -/
def chainsTo (s : Selector) (e : Element) (path : Path) : Set (List Located) :=
  {c | Chain s.steps e.root c ∧ c.getLast?.map (·.path) = some path}

theorem encard_chainsTo (s : Selector) (e : Element) (hs : s.steps ≠ []) (path : Path) :
    (chainsTo s e path).encard = ((s.find e).map (·.path)).count path := by
  classical
  have hset : chainsTo s e path = ((chainsFrom s.steps e.root).filter
      fun c => (c.getLastD e.root).path == path).toFinset := by
    -- both sets hold the chains whose end has the path
    ext c
    rw [chainsTo, Set.mem_ofPred_eq, List.coe_toFinset, Set.mem_ofPred_eq, List.mem_filter,
      mem_chainsFrom]
    apply and_congr_right
    intro hc
    rw [hc.getLast?_eq hs, Option.map_some, Option.some.injEq, beq_iff_eq]
  rw [hset, Set.encard_coe_eq_coe_finsetCard,
    List.toFinset_card_of_nodup ((chainsFrom_nodup e s.steps).filter _), find_eq_map,
    List.map_map, List.count_eq_countP, List.countP_map, List.countP_eq_length_filter]
  rfl

/-- **A search enumerates the chains.**  It finds the end of every chain, one entry for each chain,
in the lexicographic order of the positions that the chains pass through.  So the root is never
found, and an element as often as there are chains that end in it. -/
theorem find_enumerates_chains (s : Selector) (e : Element) (hs : s.steps ≠ []) :
    ∃ chains : List (List Located),
      (∀ c, c ∈ chains ↔ Chain s.steps e.root c) ∧
      chains.Pairwise (fun c c' => c.map e.position < c'.map e.position) ∧
      (s.find e).map some = chains.map List.getLast? ∧
      (∀ n ∈ s.find e, n.path ≠ []) ∧
      ∀ path, ((s.find e).map (·.path)).count path = (chainsTo s e path).encard := by
  refine ⟨chainsFrom s.steps e.root, fun c => mem_chainsFrom, ?_, map_some_find s e hs, ?_, ?_⟩
  · exact chainsFrom_pairwise e s.steps e.root ⟨[], rfl, Element.get?_nil e⟩
  · -- the root is below no element
    intro n hn
    rw [find_eq_map] at hn
    rcases List.mem_map.mp hn with ⟨c, hc, rfl⟩
    have hchain := mem_chainsFrom.mp hc
    have hlast := List.mem_of_getLast? (hchain.getLast?_eq hs)
    rcases hchain.below_of_mem hlast with ⟨path, hne, hpath, -⟩
    rw [hpath]
    exact fun h => hne (List.append_eq_nil_iff.mp h).2
  · intro path
    exact (encard_chainsTo s e hs path).symm

/-! ### Where chains share their ends -/

def labelled (role identifier : String) (children : List Element) : Element :=
  .node { role := some role, identifier := some identifier } children

/-- A button in a group that stands in a group with a button of its own. -/
def nestedGroups : Element :=
  .node {} [labelled "AXGroup" "outer"
    [labelled "AXGroup" "inner" [labelled "AXButton" "first" []], labelled "AXButton" "second" []]]

def groupButton : Selector :=
  { steps := [{ role := some "group" }, { role := some "button" }], raw := "group button" }

/-- The inner button is found once below each group, and the other one in between. -/
theorem groupButton_find_nestedGroups :
    (groupButton.find nestedGroups).map (·.path) = [[0, 0, 0], [0, 1], [0, 0, 0]] := by
  decide +kernel

theorem find_enumerates_chains_nestedGroups :
    groupButton.steps ≠ [] ∧ (chainsTo groupButton nestedGroups [0, 0, 0]).encard = 2 := by
  have hs : groupButton.steps ≠ [] := by decide
  rcases find_enumerates_chains groupButton nestedGroups hs with ⟨_, _, _, _, _, hcount⟩
  refine ⟨hs, ?_⟩
  rw [← hcount, groupButton_find_nestedGroups]
  rfl

end UiTree.Selector
