import UiTree.Proofs.Selector.Chain
import UiTree.Proofs.Selector.Reading

/-!
# Composition — one selector written behind another

Two selectors with white space between them are one selector: its derivation goes on with the second
one where the first has ended, so its steps are those of both.  A search for it looks for the second
selector inside everything that the first one finds.
-/

namespace UiTree

/-! ## 1. Derivations side by side -/

namespace Selector.Grammar

open UiTree.Text

/-- The steps of one derivation, a gap, and the steps of another. -/
def Tree.join : Tree → Gap → Tree → Tree
  | .last s, gap, u => .more s gap u
  | .more s g t, gap, u => .more s g (t.join gap u)

theorem Tree.text_join (t : Tree) (gap : Gap) (u : Tree) :
    (t.join gap u).text = t.text ++ (gap.text ++ u.text) := by
  induction t with
  | last s => rfl
  | more s g t ih =>
    show s.text ++ (g.text ++ (t.join gap u).text) = s.text ++ (g.text ++ t.text) ++ _
    rw [ih, List.append_assoc, List.append_assoc]

theorem Tree.steps_join (t : Tree) (gap : Gap) (u : Tree) :
    (t.join gap u).steps = t.steps ++ u.steps := by
  induction t with
  | last s => rfl
  | more s g t ih =>
    show s.step :: (t.join gap u).steps = s.step :: t.steps ++ u.steps
    rw [ih, List.cons_append]

theorem Gap.exists_text_eq {cs : List Char} (hne : cs ≠ []) (h : ∀ c ∈ cs, isBlank c = true) :
    ∃ gap : Gap, gap.text = cs := by
  rcases List.exists_cons_of_ne_nil hne with ⟨c, cs, rfl⟩
  exact ⟨⟨c, cs, h c List.mem_cons_self, fun d hd => h d (List.mem_cons_of_mem c hd)⟩, rfl⟩

/-- What stands between two texts is a gap, the white space at their inner ends included. -/
theorem Tree.exists_derives_append {t u : Tree} {a w b : String} (ha : t.Derives a)
    (hb : u.Derives b) (hne : w ≠ "") (hw : ∀ c ∈ w.toList, isBlank c = true) :
    ∃ gap, (t.join gap u).Derives (a ++ w ++ b) := by
  rcases ha.split with ⟨lead, inner, ha', hlead, hinner⟩
  rcases hb.split with ⟨inner', trail, hb', hinner', htrail⟩
  have hgap : inner ++ w.toList ++ inner' ≠ [] := by
    intro h
    rw [List.append_eq_nil_iff, List.append_eq_nil_iff] at h
    exact hne (String.toList_eq_nil_iff.mp h.1.2)
  have hblank : ∀ c ∈ inner ++ w.toList ++ inner', isBlank c = true := by
    intro c hc
    rw [List.mem_append, List.mem_append] at hc
    rcases hc with (hc | hc) | hc
    · exact hinner c hc
    · exact hw c hc
    · exact hinner' c hc
  rcases Gap.exists_text_eq hgap hblank with ⟨gap, htext⟩
  refine ⟨gap, ⟨⟨lead, trail, ?_, hlead, htrail⟩, ?_, ?_⟩⟩
  · rw [Tree.text_join, htext, String.toList_append, String.toList_append, ha', hb']
    simp only [List.append_assoc]
  · exact (t.join gap u).stops_text
  · -- the joined text ends where the second one does
    have hlast : Stops isBlank u.text.reverse := hb.last
    rw [Tree.text_join, List.reverse_append, List.reverse_append, List.append_assoc]
    exact stops_append hlast (List.reverse_ne_nil_iff.mpr u.text_ne_nil)

end Selector.Grammar

/-! ## 2. A tree inside another -/

namespace Located

/-- The same element, in a tree that stands at a path of a greater one. -/
def under (path : Path) (n : Located) : Located :=
  { n with path := path ++ n.path }

/-- An element is the root of its own tree. -/
theorem root_under (n : Located) : n.element.root.under n.path = n := by
  rcases n with ⟨path, element⟩
  show ({ path := path ++ [], element } : Located) = { path, element }
  rw [List.append_nil]

theorem number_under (path at' : Path) (i : Nat) (es : List Element) :
    number (path ++ at') i es = (number at' i es).map (under path) := by
  induction es generalizing i with
  | nil => rfl
  | cons e es ih =>
    rw [number, number, List.map_cons, ih, List.append_assoc]
    rfl

theorem children_under (path : Path) (n : Located) :
    (n.under path).children = n.children.map (under path) :=
  number_under path n.path 0 n.element.children

theorem drain_under (path : Path) (work : List Located) :
    drain (work.map (under path)) = (drain work).map (under path) := by
  fun_induction drain work with
  | case1 => exact drain_nil
  | case2 n rest ih =>
    rw [List.map_cons, drain_cons, children_under, ← List.map_append, ih, List.map_cons]

theorem descendants_under (path : Path) (n : Located) :
    (n.under path).descendants = n.descendants.map (under path) := by
  rw [descendants, children_under, drain_under, descendants]

end Located

namespace Selector

open Grammar

/-! ## 3. Searches one after the other -/

theorem search_append (steps more : List Step) (found : List Located) :
    search (steps ++ more) found = search more (search steps found) := by
  induction steps generalizing found with
  | nil => rfl
  | cons s steps ih => exact ih (found.flatMap s.below)

/-- Steps that are met by the same elements find the same. -/
theorem search_congr {s t : Step} (h : ∀ a, s.holds a = t.holds a) (before after : List Step)
    (found : List Located) :
    search (before ++ s :: after) found = search (before ++ t :: after) found := by
  have hbelow : s.below = t.below := by
    funext n
    simp only [Step.below, h]
  rw [search_append, search_append, search, search, hbelow]

/-- A search goes on from each element of a generation on its own. -/
theorem search_flatMap (steps : List Step) (found : List Located) :
    search steps found = found.flatMap fun m => search steps [m] := by
  simp only [search_eq_flatMap, List.flatMap_singleton]

theorem below_under (s : Step) (path : Path) (n : Located) :
    s.below (n.under path) = (s.below n).map (Located.under path) := by
  rw [Step.below, Located.descendants_under, List.filter_map]
  rfl

theorem search_under (steps : List Step) (path : Path) (found : List Located) :
    search steps (found.map (Located.under path)) =
      (search steps found).map (Located.under path) := by
  induction steps generalizing found with
  | nil => rfl
  | cons s steps ih =>
    have hbelow : (found.map (Located.under path)).flatMap s.below =
        (found.flatMap s.below).map (Located.under path) := by
      rw [List.flatMap_map, List.map_flatMap]
      congr 1
      funext n
      exact below_under s path n
    rw [search, hbelow, ih, search]

/-- What is found below an element is found in its own tree. -/
theorem search_singleton (s : Selector) (m : Located) :
    search s.steps [m] = (s.find m.element).map (Located.under m.path) := by
  rw [find, ← search_under, List.map_singleton, m.root_under]

/-- **White space searches the second selector inside the results of the first.**  Two accepted
texts with white space between them are accepted, with the steps of both; what they find together is
what the second one finds in the tree of each element that the first one finds, in that order. -/
theorem append_searches_inside (a w b : String) (s t : Selector) (ha : parse a = .ok s)
    (hb : parse b = .ok t) (hne : w ≠ "") (hw : ∀ c ∈ w.toList, Text.isBlank c = true) :
    ∃ joined, parse (a ++ w ++ b) = .ok joined ∧ joined.steps = s.steps ++ t.steps ∧
      ∀ e : Element, joined.find e =
        (s.find e).flatMap fun m => (t.find m.element).map (Located.under m.path) := by
  rcases exists_derives_of_parse ha with ⟨ta, hta, rfl⟩
  rcases exists_derives_of_parse hb with ⟨tb, htb, rfl⟩
  rcases Tree.exists_derives_append hta htb hne hw with ⟨gap, hjoined⟩
  refine ⟨_, parse_of_derives hjoined, Tree.steps_join ta gap tb, fun e => ?_⟩
  rw [find, Tree.steps_join, search_append, search_flatMap]
  congr 1
  funext m
  exact search_singleton { steps := tb.steps, raw := b } m

/-! ### Brackets and white space inside a value -/

def bracketGroup : Selector :=
  { steps := [{ role := some "group", filters := [{ key := "title", value := "a ] b" }] }]
    raw := " group[title=\"a ] b\"] " }

def plainButton : Selector :=
  { steps := [{ role := some "button" }], raw := "button\n" }

/-- A button in a group that has this title, and one beside the group. -/
def bracketTitle : Element :=
  .node {} [.node { role := some "AXGroup", title := some "a ] b" } [labelled "AXButton" "inside" []],
    labelled "AXButton" "outside" []]

theorem append_searches_inside_bracketTitle :
    parse bracketGroup.raw = .ok bracketGroup ∧ parse plainButton.raw = .ok plainButton ∧
    "\u3000" ≠ "" ∧ (∀ c ∈ "\u3000".toList, Text.isBlank c = true) ∧
    ∃ joined, parse (bracketGroup.raw ++ "\u3000" ++ plainButton.raw) = .ok joined ∧
      (joined.find bracketTitle).map (·.path) = [[0, 0]] := by
  have ha : parse bracketGroup.raw = .ok bracketGroup := eq_ok_of_toOption (by decide +kernel)
  have hb : parse plainButton.raw = .ok plainButton := eq_ok_of_toOption (by decide +kernel)
  have hw : ∀ c ∈ "\u3000".toList, Text.isBlank c = true :=
    List.all_eq_true.mp (by decide)
  rcases append_searches_inside bracketGroup.raw "\u3000" plainButton.raw bracketGroup plainButton
    ha hb (by decide) hw with ⟨joined, hparse, -, hfind⟩
  refine ⟨ha, hb, by decide, hw, joined, hparse, ?_⟩
  rw [hfind]
  decide +kernel

end Selector

end UiTree
