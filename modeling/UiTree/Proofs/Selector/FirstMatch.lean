import Mathlib.Data.List.Induction
import Mathlib.Data.List.Sort
import UiTree.Proofs.Selector.Chain

/-!
# First matches — what a selector means, in document order

A search repeats elements and leaves document order where the elements it has met contain each
other.  The first occurrences of its elements are in document order all the same, so the first
element found is the earliest one that the selector means.
-/

namespace UiTree.Selector

/-- The selector means an element in which a chain ends. -/
def Means (s : Selector) (e : Element) (n : Located) : Prop :=
  ∃ c, Chain s.steps e.root c ∧ c.getLast? = some n

theorem mem_find {s : Selector} {e : Element} {n : Located} (hs : s.steps ≠ []) :
    n ∈ s.find e ↔ s.Means e n := by
  rw [find_eq_map, List.mem_map, Means]
  constructor
  · rintro ⟨c, hc, rfl⟩
    have hchain := mem_chainsFrom.mp hc
    exact ⟨c, hchain, hchain.getLast?_eq hs⟩
  · rintro ⟨c, hchain, hlast⟩
    rw [hchain.getLast?_eq hs, Option.some.injEq] at hlast
    exact ⟨c, mem_chainsFrom.mpr hchain, hlast⟩

theorem Means.within {s : Selector} {e : Element} {n : Located} (h : s.Means e n) :
    e.root.Within n := by
  rcases h with ⟨c, hchain, hlast⟩
  exact (hchain.below_of_mem (List.mem_of_getLast? hlast)).within

/-! ## 1. First occurrences -/

theorem eraseDups_of_pairwise_lt {paths : List Path} (h : paths.Pairwise (· < ·)) :
    paths.eraseDups = paths := by
  induction paths with
  | nil => rfl
  | cons p paths ih =>
    rcases List.pairwise_cons.mp h with ⟨hp, htail⟩
    -- no later path is the same as the first, which is smaller than all of them
    have hfilter : paths.filter (fun q => !q == p) = paths := by
      rw [List.filter_eq_self]
      intro q hq
      simpa using (ne_of_lt (hp q hq)).symm
    rw [List.eraseDups_cons, hfilter, ih htail]

/-- Elements whose first occurrences are in document order. -/
def FirstsRise (found : List Located) : Prop :=
  (found.map (·.path)).eraseDups.Pairwise (· < ·)

theorem firstsRise_append {found more : List Located} :
    FirstsRise (found ++ more) ↔ FirstsRise found ∧
      (((more.map (·.path)).removeAll (found.map (·.path))).eraseDups).Pairwise (· < ·) ∧
      ∀ m ∈ found, ∀ n ∈ more, (∀ k ∈ found, k.path ≠ n.path) → m.path < n.path := by
  rw [FirstsRise, FirstsRise, List.map_append, List.eraseDups_append, List.pairwise_append]
  apply and_congr_right
  intro _
  apply and_congr_right
  intro _
  simp only [List.mem_eraseDups, List.removeAll, List.mem_filter, List.mem_map]
  constructor
  · intro h m hm n hn hnew
    refine h m.path ⟨m, hm, rfl⟩ n.path ⟨⟨n, hn, rfl⟩, ?_⟩
    simpa using hnew
  · rintro h _ ⟨m, hm, rfl⟩ _ ⟨⟨n, hn, rfl⟩, hnew⟩
    exact h m hm n hn (by simpa using hnew)

/-- The step from one generation to the next.  An element that is found below `g` for the first time
is below none of those that come before `g`, so all that was found below these comes before it. -/
theorem firstsRise_flatMap_below {r : Located} (s : Step) {found : List Located}
    (hin : ∀ m ∈ found, r.Within m) (h : FirstsRise found) :
    FirstsRise (found.flatMap s.below) := by
  induction found using List.reverseRecOn with
  | nil => exact List.Pairwise.nil
  | append_singleton found g ih =>
    have hin' : ∀ m ∈ found, r.Within m := fun m hm => hin m (List.mem_append_left _ hm)
    have hg : r.Within g := hin g (List.mem_append_right _ (List.mem_singleton_self g))
    rcases firstsRise_append.mp h with ⟨hfound, -, hlt⟩
    rw [List.flatMap_append, List.flatMap_singleton, firstsRise_append]
    refine ⟨ih hin' hfound, ?_, ?_⟩
    · -- what is new below `g` is in document order, as all below `g` is
      have hrise : ((s.below g).map (·.path)).Pairwise (· < ·) :=
        List.pairwise_map.mpr (below_pairwise s g)
      have hrest := hrise.filter fun p => !(found.flatMap s.below |>.map (·.path)).elem p
      rw [List.removeAll, eraseDups_of_pairwise_lt hrest]
      exact hrest
    · intro x hx y hy hnew
      rcases List.mem_flatMap.mp hx with ⟨m, hm, hxm⟩
      rcases mem_below.mp hy with ⟨hgy, hholds⟩
      have hry : r.Within y := (hg.trans_below hgy).within
      -- were `y` below an element of `found`, it would have been found before
      have hnot : ∀ k ∈ found, ¬ k.Below y := fun k hk hky =>
        hnew y (List.mem_flatMap.mpr ⟨k, hk, mem_below.mpr ⟨hky, hholds⟩⟩) rfl
      -- so `g` itself is not in `found`, and comes after all of it
      have hmg : m.path < g.path := by
        apply hlt m hm g (List.mem_singleton_self g)
        intro k hk hkg
        rw [(hin' k hk).eq_of_path_eq hg hkg] at hk
        exact hnot g hk hgy
      rcases (mem_below.mp hxm).1 with ⟨p, -, hp, -⟩
      rcases hgy with ⟨q, hq, hpath, -⟩
      rw [hp, hpath]
      apply Path.append_lt_of_lt hmg
      -- were `g` below `m`, so would `y` be
      rintro ⟨rest, hrest⟩
      have hy : y.path = m.path ++ (rest ++ q) := by rw [hpath, ← hrest, List.append_assoc]
      have hne : rest ++ q ≠ [] := fun he => hq (List.append_eq_nil_iff.mp he).2
      exact hnot m hm ((hin' m hm).below_of_path_eq hry hne hy)

theorem firstsRise_search {r : Located} (steps : List Step) {found : List Located}
    (hin : ∀ m ∈ found, r.Within m) (h : FirstsRise found) : FirstsRise (search steps found) := by
  induction steps generalizing found with
  | nil => exact h
  | cons s steps ih =>
    apply ih _ (firstsRise_flatMap_below s hin h)
    intro d hd
    rcases List.mem_flatMap.mp hd with ⟨m, hm, hd⟩
    exact ((hin m hm).trans_below (mem_below.mp hd).1).within

/-! ## 2. The elements meant -/

section

open Classical

theorem eraseDups_find (s : Selector) (e : Element) (hs : s.steps ≠ []) :
    ((s.find e).map (·.path)).eraseDups = (e.preorder.filter (s.Means e ·)).map (·.path) := by
  have hroot : ∀ m ∈ [e.root], e.root.Within m := by
    intro m hm
    rw [List.mem_singleton.mp hm]
    exact ⟨[], rfl, Element.get?_nil e⟩
  have hfound : FirstsRise (s.find e) :=
    firstsRise_search s.steps hroot (List.pairwise_singleton _ _)
  have hmeant : ((e.preorder.filter (s.Means e ·)).map (·.path)).Pairwise (· < ·) :=
    List.pairwise_map.mpr (e.root.preorder_pairwise.filter _)
  -- two lists that rise and have the same members are the same
  apply List.Pairwise.eq_of_mem_iff hfound hmeant
  intro path
  rw [List.mem_eraseDups, List.mem_map, List.mem_map]
  constructor
  · rintro ⟨n, hn, rfl⟩
    have hmeans := (mem_find hs).mp hn
    refine ⟨n, List.mem_filter.mpr ⟨Element.mem_preorder.mpr hmeans.within, ?_⟩, rfl⟩
    exact decide_eq_true hmeans
  · rintro ⟨n, hn, rfl⟩
    exact ⟨n, (mem_find hs).mpr (of_decide_eq_true (List.mem_filter.mp hn).2), rfl⟩

theorem head?_eraseDups (paths : List Path) : paths.eraseDups.head? = paths.head? := by
  cases paths with
  | nil => rfl
  | cons p paths => rw [List.eraseDups_cons, List.head?_cons, List.head?_cons]

theorem findFirst?_eq_find? (s : Selector) (e : Element) (hs : s.steps ≠ []) :
    s.findFirst? e = e.preorder.find? (s.Means e ·) := by
  -- the two have the same path, and an element of the tree is known by it
  have hpath : (s.findFirst? e).map (·.path) = (e.preorder.find? (s.Means e ·)).map (·.path) := by
    rw [findFirst?, ← List.head?_map, ← head?_eraseDups, eraseDups_find s e hs, List.head?_map,
      List.head?_filter]
  cases hfirst : s.findFirst? e with
  | none =>
    rw [hfirst, Option.map_none, eq_comm, Option.map_eq_none_iff] at hpath
    exact hpath.symm
  | some n =>
    rw [hfirst, Option.map_some, eq_comm, Option.map_eq_some_iff] at hpath
    rcases hpath with ⟨m, hm, hmn⟩
    have hn : e.root.Within n := ((mem_find hs).mp (List.mem_of_head? hfirst)).within
    have hmw : e.root.Within m := Element.mem_preorder.mp (List.mem_of_find?_eq_some hm)
    rw [hm, hmw.eq_of_path_eq hn hmn]

end

end UiTree.Selector
