import UiTree.Proofs.Selector.Composition
import UiTree.Proofs.Selector.Position
import UiTree.Proofs.Text.Casing

/-!
# Role words — which elements a role means

A role is put into lower case when it is read, looked up among the aliases in lower case, and
compared with the roles of elements after folding.  Folding does not see lower case, so that of the
three only the look-up can tell two words apart that fold alike.
-/

namespace UiTree.Selector

open UiTree.Text Grammar

/-! ## 1. The aliases -/

def Grammar.Word.name (w : Word isLetter) : String := String.ofList w.text

theorem Grammar.Word.name_ne_empty (w : Word isLetter) : w.name ≠ "" := by
  intro h
  have hnil := congrArg String.toList h
  rw [Word.name, String.toList_ofList] at hnil
  exact List.cons_ne_nil w.head w.tail hnil

/-- The tag of a name in any case, if it is an alias. -/
def tagOf? (name : String) : Option String := roleAliases.lookup (lower name)

theorem resolveRole_eq (name : String) : resolveRole name = (tagOf? name).getD name := rfl

theorem tagOf?_lower (name : String) : tagOf? (lower name) = tagOf? name := by
  rw [tagOf?, lower_lower, tagOf?]

theorem mem_roleAliases {name tag : String} (h : tagOf? name = some tag) :
    (lower name, tag) ∈ roleAliases := by
  obtain ⟨before, after, htable, -⟩ := List.lookup_eq_some_iff.mp h
  rw [htable]
  exact List.mem_append_right _ List.mem_cons_self

variable {p : String × String}

/-- Folding leaves the aliases as they stand in the table, and makes none of a tag. -/
theorem fold_of_mem_roleAliases (hp : p ∈ roleAliases) : fold p.1 = p.1 ∧ fold p.2 ≠ p.1 := by
  revert p
  decide +kernel

/-- A tag is a word for a role, and no alias. -/
theorem tag_of_mem_roleAliases (hp : p ∈ roleAliases) :
    tagOf? p.2 = none ∧ ∃ w : Word isLetter, w.name = p.2 := by
  have hread : ∀ p ∈ roleAliases,
      tagOf? p.2 = none ∧ readWord isLetter p.2.toList = some (p.2.toList, []) := by
    decide +kernel
  obtain ⟨hnone, hword⟩ := hread p hp
  obtain ⟨w, hw, -⟩ := exists_of_readWord hword
  exact ⟨hnone, w, by rw [Word.name, hw, String.ofList_toList]⟩

/-! ## 2. What a role means -/

/-- The element has a role that is the tag, case left aside. -/
def hasRole (tag : String) (a : Attributes) : Bool :=
  a.role.any fun role => fold role == fold tag

/-- What elements are compared with for a name. -/
def meant (name : String) : String := (tagOf? name).getD name

/-- A step with the name for its role, as it is read. -/
def roleStep (name : String) (identifier : Option String) (filters : List Filter) : Step :=
  { role := some (lower name), identifier, filters }

theorem fold_resolveRole_lower (name : String) :
    fold (resolveRole (lower name)) = fold (meant name) := by
  rw [resolveRole_eq, tagOf?_lower, meant]
  cases tagOf? name with
  | some tag => rfl
  | none => exact fold_lower name

theorem meant_ne_empty {name : String} (h : name ≠ "") : meant name ≠ "" := by
  rw [meant]
  cases htag : tagOf? name with
  | some tag =>
    obtain ⟨-, w, hw⟩ := tag_of_mem_roleAliases (mem_roleAliases htag)
    rw [Option.getD_some, ← show w.name = tag from hw]
    exact w.name_ne_empty
  | none => exact h

/-- A missing role is compared as an empty one, and no name means that. -/
theorem roleHolds_roleStep {name : String} (h : name ≠ "") (i : Option String) (fs : List Filter)
    (a : Attributes) : (roleStep name i fs).roleHolds a = hasRole (meant name) a := by
  show (fold (a.role.getD "") == fold (resolveRole (lower name))) = hasRole (meant name) a
  rw [fold_resolveRole_lower, hasRole]
  cases a.role with
  | some role => rfl
  | none =>
    have hne : fold (meant name) ≠ fold "" := fold_ne_empty (meant_ne_empty h)
    rw [Option.getD_none, Option.any_none, beq_eq_false_iff_ne]
    exact hne.symm

theorem holds_roleStep {name : String} (h : name ≠ "") (a : Attributes) :
    (roleStep name none []).holds a = hasRole (meant name) a := by
  rw [Step.holds, roleHolds_roleStep h]
  exact (Bool.and_true _).trans (Bool.and_true _)

/-- Names that mean the same up to case stand for each other in a step. -/
theorem holds_roleStep_congr {name other : String} (h : fold (meant name) = fold (meant other))
    (i : Option String) (fs : List Filter) (a : Attributes) :
    (roleStep name i fs).holds a = (roleStep other i fs).holds a := by
  have hrole : (roleStep name i fs).roleHolds a = (roleStep other i fs).roleHolds a := by
    show (fold (a.role.getD "") == fold (resolveRole (lower name)))
      = (fold (a.role.getD "") == fold (resolveRole (lower other)))
    rw [fold_resolveRole_lower, fold_resolveRole_lower, h]
  rw [Step.holds, hrole, Step.holds]
  rfl

/-! ## 3. Selectors with roles -/

/-- The selector that a word for a role is read as. -/
def wordSelector (name : String) : Selector := { steps := [roleStep name none []], raw := name }

theorem find_wordSelector {name : String} (h : name ≠ "") (e : Element) :
    (wordSelector name).find e
      = e.root.descendants.filter fun n => hasRole (meant name) n.attributes := by
  have hfind : (wordSelector name).find e = (roleStep name none []).below e.root :=
    List.append_nil _
  rw [hfind, Step.below]
  simp only [holds_roleStep h]

theorem parse_name (w : Word isLetter) : parse w.name = .ok (wordSelector w.name) := by
  have htext : (Tree.last ⟨some w, none, [], .inl rfl⟩).text = w.text := List.append_nil _
  have hparse := (Tree.last ⟨some w, none, [], .inl rfl⟩).parse_text
  rw [htext] at hparse
  rw [Word.name, hparse, wordSelector, roleStep, lower, String.toList_ofList]
  rfl

/-- **What a role means.**  A word alone is a step for the elements with the tag of the word for
their role, or with the word itself if it is no alias, case left aside.  Words that are no aliases
find just the elements that they name, and the tags of all aliases are such words.  In any place of
a selector an alias may be replaced by its tag, or by another alias of that tag. -/
theorem word_selects_tag :
    (∀ w : Word isLetter, parse w.name = .ok (wordSelector w.name) ∧
      (wordSelector w.name).steps = [roleStep w.name none []] ∧
      ∀ a, (roleStep w.name none []).holds a = hasRole ((tagOf? w.name).getD w.name) a) ∧
    (∀ w : Word isLetter, tagOf? w.name = none → ∀ e, (wordSelector w.name).find e
      = e.root.descendants.filter fun n => hasRole w.name n.attributes) ∧
    (∀ p ∈ roleAliases, tagOf? p.2 = none ∧ ∃ w : Word isLetter, w.name = p.2) ∧
    (∀ (v w : Word isLetter) (tag : String), tagOf? v.name = some tag →
      tagOf? w.name = some tag ∨ w.name = tag →
      ∀ i fs before after raw raw' e,
        Selector.find { steps := before ++ roleStep v.name i fs :: after, raw } e
          = Selector.find { steps := before ++ roleStep w.name i fs :: after, raw := raw' } e) := by
  refine ⟨fun w => ⟨parse_name w, rfl, ?_⟩, ?_, fun p hp => tag_of_mem_roleAliases hp, ?_⟩
  · exact holds_roleStep w.name_ne_empty
  · intro w hnone e
    have hmeant : meant w.name = w.name := by rw [meant, hnone, Option.getD_none]
    rw [find_wordSelector w.name_ne_empty, hmeant]
  · -- a tag is no alias, so that it means itself
    intro v w tag hv hw i fs before after raw raw' e
    have htag : tagOf? tag = none := (tag_of_mem_roleAliases (mem_roleAliases hv)).1
    have hmeant : meant v.name = meant w.name := by
      rw [meant, meant, hv, Option.getD_some]
      rcases hw with hw | hw
      · rw [hw, Option.getD_some]
      · rw [hw, htag, Option.getD_none]
    exact search_congr (holds_roleStep_congr (congrArg fold hmeant) i fs) before after [e.root]

/-! ## 4. Words that fold alike -/

def plainElement (role : String) : Element := .node { role := some role } []

def onlyChild (role : String) : Located := { path := [0], element := plainElement role }

theorem descendants_onlyChild (role : String) :
    (Element.node {} [plainElement role]).root.descendants = [onlyChild role] := by
  show Located.drain [onlyChild role] = [onlyChild role]
  rw [Located.drain_cons]
  exact congrArg (onlyChild role :: ·) Located.drain_nil

theorem find_eq_iff {name other : String} (hn : name ≠ "") (ho : other ≠ "") :
    (∀ e, (wordSelector name).find e = (wordSelector other).find e) ↔
      fold (meant name) = fold (meant other) := by
  constructor
  · intro h
    -- an element with what the one name means for its role is found by it, hence by the other
    have hfound : onlyChild (meant name)
        ∈ (wordSelector name).find (.node {} [plainElement (meant name)]) := by
      rw [find_wordSelector hn, descendants_onlyChild, List.mem_filter]
      exact ⟨List.mem_singleton_self _, beq_self_eq_true _⟩
    rw [h, find_wordSelector ho, List.mem_filter] at hfound
    exact beq_iff_eq.mp hfound.2
  · intro h e
    rw [find_wordSelector hn, find_wordSelector ho]
    simp only [hasRole, h]

variable {name tag : String}

theorem fold_eq_lower (h : tagOf? name = some tag) : fold name = lower name := by
  have hfixed := (fold_of_mem_roleAliases (mem_roleAliases h)).1
  rwa [fold_lower] at hfixed

theorem fold_tag_ne_fold (h : tagOf? name = some tag) : fold tag ≠ fold name := by
  rw [fold_eq_lower h]
  exact (fold_of_mem_roleAliases (mem_roleAliases h)).2

/-- **Words that fold alike find the same, aliases apart.**  Two words with the same folding find
the same elements in every tree if and only if both are aliases or none is. -/
theorem words_find_same_iff (v w : Word isLetter) (h : fold v.name = fold w.name) :
    parse v.name = .ok (wordSelector v.name) ∧ parse w.name = .ok (wordSelector w.name) ∧
      ((∀ e, (wordSelector v.name).find e = (wordSelector w.name).find e) ↔
        (tagOf? v.name).isSome = (tagOf? w.name).isSome) := by
  refine ⟨parse_name v, parse_name w, ?_⟩
  rw [find_eq_iff v.name_ne_empty w.name_ne_empty, meant, meant]
  cases hv : tagOf? v.name with
  | none =>
    cases hw : tagOf? w.name with
    | none => exact ⟨fun _ => rfl, fun _ => h⟩
    | some tag =>
      -- the one word folds to the alias, and the tag of the other does not
      have hne : fold v.name ≠ fold tag := by
        rw [h]
        exact (fold_tag_ne_fold hw).symm
      exact ⟨fun heq => absurd heq hne, fun hsome => nomatch hsome⟩
  | some tag =>
    cases hw : tagOf? w.name with
    | none =>
      have hne : fold tag ≠ fold w.name := by
        rw [← h]
        exact fold_tag_ne_fold hv
      exact ⟨fun heq => absurd heq hne, fun hsome => nomatch hsome⟩
    | some tag' =>
      -- both are written alike in lower case, so that the look-up gives one tag
      have hlower : lower v.name = lower w.name := by
        rw [← fold_eq_lower hv, h, fold_eq_lower hw]
      have htag : tag = tag' := by
        rw [tagOf?, hlower, ← tagOf?, hw] at hv
        exact (Option.some.inj hv).symm
      exact ⟨fun _ => rfl, fun _ => congrArg fold htag⟩

/-! ### An alias with a character that only folding sees -/

/-- With the Kelvin sign at the end, whose lower case is a `k`. -/
def kelvinLink : Word isLetter where
  head := 'l'
  tail := ['i', 'n', '\u212a']
  head_ok := by decide
  tail_ok := List.all_eq_true.mp (by decide +kernel)

def plainLink : Word isLetter where
  head := 'L'
  tail := ['i', 'n', 'k']
  head_ok := by decide
  tail_ok := List.all_eq_true.mp (by decide)

theorem words_find_same_iff_kelvinLink :
    fold kelvinLink.name = fold plainLink.name ∧
      ∀ e, (wordSelector kelvinLink.name).find e = (wordSelector plainLink.name).find e := by
  have hfold : fold kelvinLink.name = fold plainLink.name := by decide +kernel
  obtain ⟨-, -, hsame⟩ := words_find_same_iff kelvinLink plainLink hfold
  exact ⟨hfold, hsame.mpr (by decide +kernel)⟩

/-- With the long `s`, which is small already and folds to an `s`. -/
def longSlider : Word isLetter where
  head := '\u017f'
  tail := "lider".toList
  head_ok := by rfl
  tail_ok := List.all_eq_true.mp (by decide)

def plainSlider : Word isLetter where
  head := 's'
  tail := "lider".toList
  head_ok := by decide
  tail_ok := List.all_eq_true.mp (by decide)

theorem not_words_find_same_of_longSlider :
    ¬ ∀ v w : Word isLetter, fold v.name = fold w.name → ∀ s t : Selector,
      parse v.name = .ok s → parse w.name = .ok t → ∀ e, s.find e = t.find e := by
  intro hall
  have hfold : fold plainSlider.name = fold longSlider.name := by decide +kernel
  have hsame := hall plainSlider longSlider hfold _ _ (parse_name _) (parse_name _)
  have hmeant := (find_eq_iff plainSlider.name_ne_empty longSlider.name_ne_empty).mp hsame
  revert hmeant
  decide +kernel

end UiTree.Selector
