import UiTree.Proofs.Selector.Chain

/-!
# Embeddings — the same search in two trees

An element of a tree is known by its path, so a search can be told by paths alone: which path leads
on from which, and what stands there.  If a tree stands inside another one, in the same order and
with the same elements below each other, then the chains of the other tree that pass through none of
its new elements are the chains of the tree, one by one.
-/

namespace UiTree

namespace Selector

/-! ## 1. Searches told by paths -/

/-- There is an element at the path, and it meets the step. -/
def Step.holdsAt (s : Step) (e : Element) (p : Path) : Bool :=
  (e.attributes? p).any s.holds

/-- The paths of the elements below the one at a path that meet a step. -/
def Step.pathsBelow (s : Step) (e : Element) (p : Path) : List Path :=
  (e.preorder.map (·.path)).filter fun q => p <+: q ∧ p ≠ q ∧ s.holdsAt e q

/-- The paths that chains pass through. -/
def pathChains (e : Element) : List Step → Path → List (List Path)
  | [], _ => [[]]
  | s :: steps, p => (s.pathsBelow e p).flatMap fun q => (pathChains e steps q).map (q :: ·)

theorem Step.isSome_of_holdsAt {s : Step} {e : Element} {p : Path} (h : s.holdsAt e p = true) :
    (e.attributes? p).isSome := by
  rcases (Option.any_eq_true _ _).mp h with ⟨a, ha, -⟩
  rw [ha]
  rfl

theorem Step.mem_pathsBelow {s : Step} {e : Element} {p q : Path} :
    q ∈ s.pathsBelow e p ↔ p <+: q ∧ p ≠ q ∧ s.holdsAt e q = true := by
  rw [pathsBelow, List.mem_filter, decide_eq_true_iff, and_iff_right_iff_imp]
  -- an element that meets the step is one of the tree
  rintro ⟨-, -, hholds⟩
  rcases (Option.any_eq_true _ _).mp hholds with ⟨a, ha, -⟩
  rcases Element.exists_of_attributes? ha with ⟨n, hn, hpath, -⟩
  rw [← hpath]
  exact Element.path_mem_preorder hn

theorem Step.pathsBelow_pairwise (s : Step) (e : Element) (p : Path) :
    (s.pathsBelow e p).Pairwise (· < ·) :=
  (List.pairwise_map.mpr e.root.preorder_pairwise).filter _

/-- Both lists rise, so they are the same if they have the same members. -/
theorem map_path_below {e : Element} {m : Located} (hm : e.root.Within m) (s : Step) :
    (s.below m).map (·.path) = s.pathsBelow e m.path := by
  have hrise : ((s.below m).map (·.path)).Pairwise (· < ·) :=
    List.pairwise_map.mpr (below_pairwise s m)
  apply List.Pairwise.eq_of_mem_iff hrise (s.pathsBelow_pairwise e m.path)
  intro q
  rw [List.mem_map, Step.mem_pathsBelow]
  constructor
  · rintro ⟨d, hd, rfl⟩
    rcases mem_below.mp hd with ⟨hbelow, hholds⟩
    have hd : e.root.Within d := (hm.trans_below hbelow).within
    rcases hbelow with ⟨rest, hne, hpath, -⟩
    refine ⟨⟨rest, hpath.symm⟩, ?_, ?_⟩
    · rw [hpath]
      intro h
      exact hne (List.self_eq_append_right.mp h)
    · rw [Step.holdsAt, hd.attributes?_eq]
      exact hholds
  · rintro ⟨⟨rest, hpath⟩, hne, hholds⟩
    rcases (Option.any_eq_true _ _).mp hholds with ⟨a, ha, hholds⟩
    rcases Element.exists_of_attributes? ha with ⟨d, hd, rfl, rfl⟩
    have hrest : rest ≠ [] := by
      rintro rfl
      rw [List.append_nil] at hpath
      exact hne hpath
    have hbelow : m.Below d := hm.below_of_path_eq hd hrest hpath.symm
    exact ⟨d, mem_below.mpr ⟨hbelow, hholds⟩, rfl⟩

theorem map_path_chainsFrom {e : Element} (steps : List Step) {m : Located}
    (hm : e.root.Within m) :
    (chainsFrom steps m).map (List.map (·.path)) = pathChains e steps m.path := by
  induction steps generalizing m with
  | nil => rfl
  | cons s steps ih =>
    rw [chainsFrom, pathChains, ← map_path_below hm, List.map_flatMap, List.flatMap_map]
    apply List.flatMap_congr
    intro d hd
    have hd : e.root.Within d := (hm.trans_below (mem_below.mp hd).1).within
    rw [← ih hd, List.map_map, List.map_map]
    rfl

theorem map_path_find (s : Selector) (e : Element) :
    (s.find e).map (·.path) = (pathChains e s.steps []).map (·.getLastD []) := by
  have hpaths := map_path_chainsFrom s.steps e.within_root_self
  have hroot : e.root.path = [] := rfl
  rw [hroot] at hpaths
  rw [find_eq_map, ← hpaths, List.map_map, List.map_map]
  apply List.map_congr_left
  intro c _
  exact (List.getLastD_map).symm

/-! ## 2. A tree inside another -/

/-- A list whose items are dropped or kept before it is mapped to lists. -/
theorem flatMap_eq_flatMap_filter {α β : Type} {keep : α → Bool} {g h : α → List β}
    (hkeep : ∀ a, keep a = true → g a = h a) (hdrop : ∀ a, keep a = false → g a = [])
    (l : List α) : l.flatMap g = (l.filter keep).flatMap h := by
  induction l with
  | nil => rfl
  | cons a l ih =>
    rw [List.flatMap_cons, ih]
    cases ha : keep a with
    | true => rw [List.filter_cons_of_pos ha, List.flatMap_cons, hkeep a ha]
    | false => rw [List.filter_cons_of_neg (by rw [ha]; exact Bool.false_ne_true), hdrop a ha]; rfl

/-- A tree stands inside another one, every element of it at the path that `move` gives; the paths
of the other elements are new.  Of an element counts whether it meets the steps. -/
structure Embeds (steps : List Step) (move : Path → Path) (new : Path → Prop) (e f : Element) :
    Prop where
  lt : ∀ p q, p < q → move p < move q
  below : ∀ p q, move p <+: move q ↔ p <+: q
  holds : ∀ s ∈ steps, ∀ p, s.holdsAt f (move p) = s.holdsAt e p
  old : ∀ q, (f.attributes? q).isSome → (¬ new q ↔ ∃ p, move p = q)

namespace Embeds

variable {s : Step} {steps : List Step} {move : Path → Path} {new : Path → Prop} {e f : Element}

theorem injective (h : Embeds steps move new e f) {p q : Path} (hpq : move p = move q) : p = q := by
  rcases lt_trichotomy p q with hlt | heq | hgt
  · exact absurd (hpq ▸ h.lt p q hlt) (lt_irrefl _)
  · exact heq
  · exact absurd (hpq ▸ h.lt q p hgt) (lt_irrefl _)

theorem tail (h : Embeds (s :: steps) move new e f) : Embeds steps move new e f :=
  { h with holds := fun t ht => h.holds t (List.mem_cons_of_mem s ht) }

variable [DecidablePred new]

/-- What is found below an old element, as far as it is old, was found below it before. -/
theorem filter_pathsBelow (h : Embeds steps move new e f) (hs : s ∈ steps) (p : Path) :
    (s.pathsBelow f (move p)).filter (fun q => ¬ new q) = (s.pathsBelow e p).map move := by
  have hrise : ((s.pathsBelow e p).map move).Pairwise (· < ·) :=
    List.pairwise_map.mpr ((s.pathsBelow_pairwise e p).imp fun hlt => h.lt _ _ hlt)
  apply List.Pairwise.eq_of_mem_iff ((s.pathsBelow_pairwise f (move p)).filter _) hrise
  intro q
  rw [List.mem_filter, decide_eq_true_iff, Step.mem_pathsBelow, List.mem_map]
  constructor
  · rintro ⟨⟨hpre, hne, hholds⟩, hold⟩
    rcases (h.old q (Step.isSome_of_holdsAt hholds)).mp hold with ⟨r, rfl⟩
    refine ⟨r, Step.mem_pathsBelow.mpr ⟨(h.below p r).mp hpre, ?_, ?_⟩, rfl⟩
    · exact fun hpr => hne (congrArg move hpr)
    · rwa [← h.holds s hs]
  · rintro ⟨r, hr, rfl⟩
    rcases Step.mem_pathsBelow.mp hr with ⟨hpre, hne, hholds⟩
    rw [← h.holds s hs] at hholds
    refine ⟨⟨(h.below p r).mpr hpre, ?_, hholds⟩, ?_⟩
    · exact fun hpr => hne (h.injective hpr)
    · exact (h.old _ (Step.isSome_of_holdsAt hholds)).mpr ⟨r, rfl⟩

/-- **The chains of the tree are the chains of the other one that pass through nothing new.**  By
induction on the steps: the paths found below an old one are sifted by `filter_pathsBelow`. -/
theorem filter_pathChains (h : Embeds steps move new e f) (p : Path) :
    (pathChains f steps (move p)).filter (fun c => ∀ q ∈ c, ¬ new q) =
      (pathChains e steps p).map (List.map move) := by
  induction steps generalizing p with
  | nil => simp [pathChains]
  | cons s steps ih =>
    have hsift := h.filter_pathsBelow List.mem_cons_self p
    have hkeep : ∀ q, decide (¬ new q) = true →
        ((pathChains f steps q).map (q :: ·)).filter (fun c => ∀ r ∈ c, ¬ new r) =
          ((pathChains f steps q).filter fun c => ∀ r ∈ c, ¬ new r).map (q :: ·) := by
      intro q hq
      rw [List.filter_map]
      congr 1
      apply List.filter_congr
      intro c _
      simp [of_decide_eq_true hq]
    have hdrop : ∀ q, decide (¬ new q) = false →
        ((pathChains f steps q).map (q :: ·)).filter (fun c => ∀ r ∈ c, ¬ new r) = [] := by
      intro q hq
      rw [List.filter_map, List.map_eq_nil_iff, List.filter_eq_nil_iff]
      intro c _
      simp [not_not.mp (of_decide_eq_false hq)]
    rw [pathChains, List.filter_flatMap, flatMap_eq_flatMap_filter hkeep hdrop, hsift,
      List.flatMap_map, pathChains, List.map_flatMap]
    apply List.flatMap_congr
    intro r _
    rw [ih h.tail, List.map_map, List.map_map]
    rfl

end Embeds

/-- Two trees that meet the steps at the same paths are searched alike: each stands inside the other
one, and has nothing new. -/
theorem map_path_find_congr {s : Selector} {e f : Element}
    (h : ∀ t ∈ s.steps, ∀ p, t.holdsAt f p = t.holdsAt e p) :
    (s.find f).map (·.path) = (s.find e).map (·.path) := by
  have hembeds : Embeds s.steps id (fun _ => False) e f :=
    { lt := fun _ _ hlt => hlt, below := fun _ _ => Iff.rfl, holds := h
      old := fun q _ => ⟨fun _ => ⟨q, rfl⟩, fun _ => not_false⟩ }
  have hchains := hembeds.filter_pathChains []
  have hall : ∀ c ∈ pathChains f s.steps [], decide (∀ q ∈ c, ¬ False) = true :=
    fun _ _ => decide_eq_true fun _ _ => not_false
  rw [id_eq, List.filter_eq_self.mpr hall, List.map_id_fun, List.map_id] at hchains
  rw [map_path_find, map_path_find, hchains]

end Selector

end UiTree
