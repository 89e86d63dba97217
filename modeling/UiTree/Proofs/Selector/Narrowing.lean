import UiTree.Proofs.Selector.Composition
import UiTree.Proofs.Selector.FirstMatch

/-!
# Narrowing — one filter more behind a selector

A filter written behind a selector belongs to its last step.  The search finds the same elements as
before in the same order, less those that do not meet the filter.
-/

namespace UiTree.Selector

/-! ## 1. Derivations with a filter more -/

namespace Grammar

open UiTree.Text

variable (f : FilterTree)

def StepTree.narrow (s : StepTree) : StepTree :=
  { s with
    filters := s.filters ++ [f]
    nonempty := .inr (.inr (List.append_ne_nil_of_right_ne_nil _ (List.cons_ne_nil f []))) }

/-- The filter goes to the last step. -/
def Tree.narrow : Tree → Tree
  | .last s => .last (s.narrow f)
  | .more s g t => .more s g t.narrow

theorem StepTree.text_narrow (s : StepTree) : (s.narrow f).text = s.text ++ f.text := by
  show roleText s.role ++ (identifierText s.identifier ++ filtersText (s.filters ++ [f])) = _
  rw [filtersText, List.flatMap_append, List.flatMap_singleton, StepTree.text, filtersText]
  simp only [List.append_assoc]

theorem Tree.text_narrow (t : Tree) : (t.narrow f).text = t.text ++ f.text := by
  induction t with
  | last s => exact s.text_narrow f
  | more s g t ih =>
    show s.text ++ (g.text ++ (t.narrow f).text) = s.text ++ (g.text ++ t.text) ++ f.text
    rw [ih, List.append_assoc, List.append_assoc]

theorem Tree.exists_steps_narrow (t : Tree) :
    ∃ (early : List Step) (last : Step), t.steps = early ++ [last] ∧
      (t.narrow f).steps = early ++ [{ last with filters := last.filters ++ [f.filter] }] := by
  induction t with
  | last s =>
    refine ⟨[], s.step, rfl, ?_⟩
    show [(s.narrow f).step] = [_]
    rw [StepTree.step, StepTree.step, StepTree.narrow, List.map_append]
    rfl
  | more s g t ih =>
    rcases ih with ⟨early, last, hsteps, hnarrow⟩
    refine ⟨s.step :: early, last, ?_, ?_⟩
    · rw [Tree.steps, hsteps, List.cons_append]
    · rw [Tree.narrow, Tree.steps, hnarrow, List.cons_append]

variable {f}

/-- Behind white space the filter would be a step of its own. -/
theorem Tree.derives_narrow {t : Tree} {raw : String} (h : t.Derives raw)
    (hend : ∀ c ∈ raw.toList.getLast?, isBlank c = false) :
    (t.narrow f).Derives (raw ++ String.ofList f.text) := by
  rcases h.split with ⟨lead, trail, hraw, hlead, htrail⟩
  have hnone : trail = [] := by
    by_contra hne
    have hlast : raw.toList.getLast? = some (trail.getLast hne) := by
      rw [hraw, List.getLast?_append_of_ne_nil _ hne, List.getLast?_eq_some_getLast hne]
    have hblank := htrail _ (List.getLast_mem hne)
    rw [hend _ hlast] at hblank
    cases hblank
  refine ⟨⟨lead, [], ?_, hlead, nofun⟩, (t.narrow f).stops_text, ?_⟩
  · rw [Tree.text_narrow, String.toList_append, String.toList_ofList, hraw, hnone]
    simp only [List.append_nil, List.append_assoc]
  · rw [Tree.text_narrow, f.text_eq_concat, ← List.append_assoc, List.reverse_concat, stops_cons]
    decide

end Grammar

/-! ## 2. Searches with a filter more -/

open Grammar

theorem below_narrow (s : Step) (f : Filter) (m : Located) :
    { s with filters := s.filters ++ [f] }.below m =
      (s.below m).filter fun n => f.holds n.attributes := by
  rw [Step.below, Step.below, List.filter_filter]
  apply List.filter_congr
  intro n _
  show (s.roleHolds _ && s.identifierHolds _ && (s.filters ++ [f]).all _) = (_ && s.holds _)
  rw [List.all_append, List.all_cons, List.all_nil, Bool.and_true, ← Bool.and_assoc,
    Bool.and_comm, Step.holds]

theorem search_narrow (early : List Step) (last : Step) (f : Filter) (found : List Located) :
    search (early ++ [{ last with filters := last.filters ++ [f] }]) found =
      (search (early ++ [last]) found).filter fun n => f.holds n.attributes := by
  rw [search_append, search_append]
  show (search early found).flatMap (Step.below _) = ((search early found).flatMap last.below).filter _
  rw [List.filter_flatMap]
  congr 1
  funext m
  exact below_narrow last f m

theorem exists_parse_narrow {raw : String} {s : Selector} (hparse : parse raw = .ok s)
    (hend : ∀ c ∈ raw.toList.getLast?, Text.isBlank c = false) (f : FilterTree) :
    ∃ narrowed, parse (raw ++ String.ofList f.text) = .ok narrowed ∧
      ∀ e : Element, narrowed.find e = (s.find e).filter fun n => f.filter.holds n.attributes := by
  rcases exists_derives_of_parse hparse with ⟨t, ht, rfl⟩
  refine ⟨_, parse_of_derives (Tree.derives_narrow ht hend), fun e => ?_⟩
  rcases t.exists_steps_narrow f with ⟨early, last, hsteps, hnarrow⟩
  rw [find, find, hnarrow, hsteps]
  exact search_narrow early last f.filter [e.root]

/-- Both selectors find something, and the same element first. -/
def SameFirst (s t : Selector) (e : Element) : Prop :=
  ∃ path, (s.findFirst? e).map (·.path) = some path ∧ (t.findFirst? e).map (·.path) = some path

/-- The first element stays the first one exactly when it is kept.  It may be found again later, but
then it is dropped there too. -/
theorem sameFirst_iff {s narrowed : Selector} {e : Element} (hs : s.steps ≠ [])
    {keep : Located → Bool} (hfind : narrowed.find e = (s.find e).filter keep) :
    s.SameFirst narrowed e ↔ ∃ n, s.findFirst? e = some n ∧ keep n = true := by
  constructor
  · rintro ⟨path, hfirst, hsame⟩
    rcases Option.map_eq_some_iff.mp hfirst with ⟨n, hn, hpath⟩
    rcases Option.map_eq_some_iff.mp hsame with ⟨m, hm, hpath'⟩
    rw [findFirst?, hfind] at hm
    rcases List.mem_filter.mp (List.mem_of_head? hm) with ⟨hmem, hkeep⟩
    have hwithin : e.root.Within m := ((mem_find hs).mp hmem).within
    have hwithin' : e.root.Within n := ((mem_find hs).mp (List.mem_of_head? hn)).within
    rw [hwithin.eq_of_path_eq hwithin' (hpath'.trans hpath.symm)] at hkeep
    exact ⟨n, hn, hkeep⟩
  · rintro ⟨n, hn, hkeep⟩
    rcases List.head?_eq_some_iff.mp hn with ⟨rest, hcons⟩
    refine ⟨n.path, by rw [hn, Option.map_some], ?_⟩
    rw [findFirst?, hfind, hcons, List.filter_cons_of_pos hkeep]
    rfl

end UiTree.Selector
