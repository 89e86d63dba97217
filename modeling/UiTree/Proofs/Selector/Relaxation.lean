import UiTree.Proofs.Selector.Composition

/-!
# Relaxation — selectors that ask for less

A selector without one of its steps but the last, or without one of the constraints of a step, still
finds all that it found.  What the filters of a step ask for depends neither on their order nor on
how often one of them is written.
-/

namespace UiTree.Selector

/-! ## 1. Steps that ask for less -/

namespace Step

/-- The step without one of its constraints. -/
inductive Drops (s : Step) : Step → Prop
  | role : Drops s { s with role := none }
  | identifier : Drops s { s with identifier := none }
  | filter {before after : List Filter} {f : Filter} (h : s.filters = before ++ f :: after) :
      Drops s { s with filters := before ++ after }

/-- Every element that meets the one step meets the other. -/
def Weakens (s t : Step) : Prop :=
  ∀ a, s.holds a = true → t.holds a = true

theorem holds_iff (s : Step) (a : Attributes) :
    s.holds a = true ↔
      s.roleHolds a = true ∧ s.identifierHolds a = true ∧ ∀ f ∈ s.filters, f.holds a = true := by
  rw [holds, Bool.and_eq_true, Bool.and_eq_true, List.all_eq_true, and_assoc]

theorem weakens_of_filters_subset (s : Step) {fs : List Filter} (h : fs ⊆ s.filters) :
    s.Weakens { s with filters := fs } := by
  intro a ha
  rw [holds_iff] at ha ⊢
  exact ⟨ha.1, ha.2.1, fun f hf => ha.2.2 f (h hf)⟩

theorem Drops.weakens {s t : Step} (h : s.Drops t) : s.Weakens t := by
  cases h with
  | role =>
    intro a ha
    rw [holds_iff] at ha ⊢
    exact ⟨rfl, ha.2⟩
  | identifier =>
    intro a ha
    rw [holds_iff] at ha ⊢
    exact ⟨ha.1, rfl, ha.2.2⟩
  | @filter before after f h =>
    -- the filters that are left were there before
    apply weakens_of_filters_subset
    intro g hg
    rw [h, List.mem_append]
    exact (List.mem_append.mp hg).imp_right (List.mem_cons_of_mem f)

/-- Only which filters there are counts. -/
theorem holds_congr_filters (s : Step) {fs : List Filter} (h : ∀ f, f ∈ fs ↔ f ∈ s.filters)
    (a : Attributes) : { s with filters := fs }.holds a = s.holds a := by
  rw [Bool.eq_iff_iff, holds_iff, holds_iff]
  show _ ∧ _ ∧ (∀ f ∈ fs, _) ↔ _
  simp only [h]
  rfl

theorem Weakens.below_subset {s t : Step} (h : s.Weakens t) (m : Located) :
    s.below m ⊆ t.below m := by
  intro d hd
  rw [mem_below] at hd ⊢
  exact ⟨hd.1, h _ hd.2⟩

/-- What is found below a descendant is found below the element itself. -/
theorem below_subset_of_below (s : Step) {m n : Located} (h : m.Below n) :
    s.below n ⊆ s.below m := by
  intro d hd
  rw [mem_below] at hd ⊢
  exact ⟨h.trans hd.1, hd.2⟩

end Step

/-! ## 2. Searches that ask for less -/

/-- A search that begins with more elements finds more. -/
theorem search_subset (steps : List Step) {found more : List Located} (h : found ⊆ more) :
    search steps found ⊆ search steps more := by
  induction steps generalizing found more with
  | nil => exact h
  | cons s steps ih =>
    apply ih
    intro d hd
    rcases List.mem_flatMap.mp hd with ⟨m, hm, hd⟩
    exact List.mem_flatMap.mpr ⟨m, h hm, hd⟩

theorem search_subset_of_weakens {s t : Step} (h : s.Weakens t) (late : List Step)
    (found : List Located) : search (s :: late) found ⊆ search (t :: late) found := by
  apply search_subset late
  intro d hd
  rcases List.mem_flatMap.mp hd with ⟨m, hm, hd⟩
  exact List.mem_flatMap.mpr ⟨m, hm, h.below_subset m hd⟩

/-- The next step looks below everything that the dropped one has looked below. -/
theorem search_subset_of_drop (s t : Step) (late : List Step) (found : List Located) :
    search (s :: t :: late) found ⊆ search (t :: late) found := by
  apply search_subset late
  intro d hd
  rcases List.mem_flatMap.mp hd with ⟨n, hn, hd⟩
  rcases List.mem_flatMap.mp hn with ⟨m, hm, hn⟩
  have hbelow : m.Below n := (mem_below.mp hn).1
  exact List.mem_flatMap.mpr ⟨m, hm, t.below_subset_of_below hbelow hd⟩

/-- **Relaxing a selector never loses matches.**  What it finds is still found without one of its
steps but the last, and without one of the constraints of a step, whatever else the step asks for.
The filters of a step may come in any order, and each of them as often as one likes: the selector
finds the same list. -/
theorem relaxing_keeps_matches (s : Selector) (e : Element) (early late : List Step) (x : Step)
    (hs : s.steps = early ++ x :: late) :
    (∀ t : Selector, t.steps = early ++ late → late ≠ [] → s.find e ⊆ t.find e) ∧
    (∀ (t : Selector) (y : Step), t.steps = early ++ y :: late → x.Drops y →
      s.find e ⊆ t.find e) ∧
    ∀ (t : Selector) (fs : List Filter), t.steps = early ++ { x with filters := fs } :: late →
      (∀ f, f ∈ fs ↔ f ∈ x.filters) → t.find e = s.find e := by
  refine ⟨?_, ?_, ?_⟩
  · intro t ht hlate
    rcases List.exists_cons_of_ne_nil hlate with ⟨y, late, rfl⟩
    rw [find, find, hs, ht, search_append, search_append]
    exact search_subset_of_drop x y late _
  · intro t y ht hdrops
    rw [find, find, hs, ht, search_append, search_append]
    exact search_subset_of_weakens hdrops.weakens late _
  · intro t fs ht hfs
    rw [find, find, hs, ht]
    exact search_congr (x.holds_congr_filters hfs) early late [e.root]

/-! ### A button in the inner group -/

def outerGroup : Step := { identifier := some "outer" }

def innerGroup : Step :=
  { role := some "group", identifier := some "inner"
    filters := [{ key := "identifier", value := "inner" },
      { key := "Role", value := "GROUP", op := .contains }] }

def anyButton : Step := { role := some "button" }

/-- The same filters, and one of them twice. -/
def shuffledFilters : List Filter :=
  [{ key := "Role", value := "GROUP", op := .contains }, { key := "identifier", value := "inner" },
    { key := "Role", value := "GROUP", op := .contains }]

def innerButton : Selector :=
  { steps := [outerGroup, innerGroup, anyButton]
    raw := "#outer group#inner[identifier=inner][Role~=GROUP] button" }

theorem relaxing_keeps_matches_innerButton :
    let outer : Selector := { innerButton with steps := [outerGroup, anyButton] }
    let unnamed : Step := { innerGroup with identifier := none }
    let shuffled : Step := { innerGroup with filters := shuffledFilters }
    innerButton.steps = [outerGroup] ++ innerGroup :: [anyButton] ∧ [anyButton] ≠ [] ∧
    innerGroup.Drops unnamed ∧ (∀ f, f ∈ shuffledFilters ↔ f ∈ innerGroup.filters) ∧
    (innerButton.find nestedGroups).map (·.path) = [[0, 0, 0]] ∧
    (outer.find nestedGroups).map (·.path) = [[0, 0, 0], [0, 1]] ∧
    innerButton.find nestedGroups ⊆ outer.find nestedGroups ∧
    innerButton.find nestedGroups ⊆
      Selector.find { innerButton with steps := [outerGroup, unnamed, anyButton] } nestedGroups ∧
    Selector.find { innerButton with steps := [outerGroup, shuffled, anyButton] } nestedGroups =
      innerButton.find nestedGroups := by
  intro outer unnamed shuffled
  have hsteps : innerButton.steps = [outerGroup] ++ innerGroup :: [anyButton] := rfl
  have hlate : [anyButton] ≠ [] := List.cons_ne_nil _ _
  have hfilters : ∀ f, f ∈ shuffledFilters ↔ f ∈ innerGroup.filters := by
    intro f
    simp [shuffledFilters, innerGroup, or_comm]
  rcases relaxing_keeps_matches innerButton nestedGroups [outerGroup] [anyButton] innerGroup hsteps
    with ⟨hstep, hconstraint, hshuffle⟩
  refine ⟨hsteps, hlate, .identifier, hfilters, by decide +kernel, by decide +kernel, ?_, ?_, ?_⟩
  · exact hstep outer rfl hlate
  · exact hconstraint _ unnamed rfl .identifier
  · exact hshuffle _ shuffledFilters rfl hfilters

end UiTree.Selector
