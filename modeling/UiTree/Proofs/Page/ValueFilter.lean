import UiTree.Proofs.Page.Static
import UiTree.Proofs.Selector.Narrowing

/-!
# Value filters — expectations about a value as a question to the selector

An expectation compares the value of the first element found.  Written as a filter behind the
selector the comparison keeps some of the elements, and the expectation passes exactly when the
first one found is still the first.
-/

namespace UiTree

/-! ## 1. The filter for a value -/

namespace Selector

open Grammar

/-- A filter on the value, what is compared with it in quotes. -/
def valueFilter (op : Op) (v : String) (h : '"' ∉ v.toList) : FilterTree where
  key :=
    { head := 'v', tail := "alue".toList
      head_ok := by decide, tail_ok := List.all_eq_true.mp (by decide) }
  op
  value := .quoted v.toList h

theorem ofList_text_valueFilter (op : Op) (v : String) (h : '"' ∉ v.toList) :
    String.ofList (valueFilter op v h).text = "[value" ++ op.symbol ++ "\"" ++ v ++ "\"]" := by
  apply String.toList_injective
  simp [valueFilter, FilterTree.text, FilterTree.inside, Word.text, Value.text]

theorem filter_valueFilter (op : Op) (v : String) (h : '"' ∉ v.toList) :
    (valueFilter op v h).filter = { key := "value", value := v, op } := by
  simp only [valueFilter, FilterTree.filter, Value.content, String.ofList_toList]
  rfl

theorem attributeOf?_value : attributeOf? "value" = some .value := by decide +kernel

theorem holds_value (op : Op) (v : String) (a : Attributes) :
    ({ key := "value", value := v, op } : Filter).holds a = a.value.any (op.compare v) := by
  rw [Filter.holds, Filter.attribute?, attributeOf?_value, Option.bind_some, AttributesOf.text?]
  cases a.value <;> rfl

end Selector

/-! ## 2. The checks of a value -/

open Selector Locator

/-- The check that compares the value as a filter does. -/
def Check.ofOp : Op → String → Check
  | .equals, v => .value v
  | .contains, v => .containsValue v

theorem Check.holds_ofOp (op : Op) (v : String) (a : Attributes) :
    (Check.ofOp op v).holds (some a) = a.value.any (op.compare v) := by
  cases op with
  | contains => rfl
  | equals =>
    show (a.value == some v) = a.value.any (· == v)
    cases a.value <;> rfl

theorem Check.holds_ofOp_none (op : Op) (v : String) : (Check.ofOp op v).holds none = false := by
  cases op <;> rfl

namespace Expectation

theorem exists_sameFirst_iff {e : Expectation} {sel : Selector} {s : Session} {v : String}
    (hs : s.Still) (hparse : Selector.parse e.locator.selector = .ok sel)
    (hend : ∀ c ∈ e.locator.selector.toList.getLast?, Text.isBlank c = false)
    (hv : '"' ∉ v.toList) (htimeout : 0 < e.timeout) (op : Op) :
    ∃ narrowed,
      Selector.parse (e.locator.selector ++ ("[value" ++ op.symbol ++ "\"" ++ v ++ "\"]")) =
        .ok narrowed ∧
      (s.Succeeds (e.check (.ofOp op v)) ↔ sel.SameFirst narrowed (s.frame 0).tree) := by
  rcases exists_parse_narrow hparse hend (valueFilter op v hv) with ⟨narrowed, hnarrowed, hfind⟩
  rw [ofList_text_valueFilter] at hnarrowed
  refine ⟨narrowed, hnarrowed, ?_⟩
  rw [hs.succeeds_check_iff hparse htimeout,
    sameFirst_iff (Grammar.steps_ne_nil_of_parse hparse) (hfind _), filter_valueFilter]
  -- with no element there is neither a value nor a first element
  cases sel.findFirst? (s.frame 0).tree with
  | none => simp [Check.holds_ofOp_none]
  | some n => simp [Check.holds_ofOp, holds_value]

/-- **Expectations about a value agree with filters on the value.**  On one tree that can be read, a
value contains a text, or is that text, by an expectation exactly when the selector finds something
and finds the same element first with the filter for it behind. -/
theorem value_checks_agree_with_filters (e : Expectation) (sel : Selector) (s : Session)
    (v : String) (hs : s.Still) (hparse : Selector.parse e.locator.selector = .ok sel)
    (hend : ∀ c ∈ e.locator.selector.toList.getLast?, Text.isBlank c = false)
    (hv : '"' ∉ v.toList) (htimeout : 0 < e.timeout) :
    (∃ narrowed,
      Selector.parse (e.locator.selector ++ ("[value~=\"" ++ v ++ "\"]")) = .ok narrowed ∧
      (s.Succeeds (e.check (.containsValue v)) ↔ sel.SameFirst narrowed (s.frame 0).tree)) ∧
    ∃ narrowed,
      Selector.parse (e.locator.selector ++ ("[value=\"" ++ v ++ "\"]")) = .ok narrowed ∧
      (s.Succeeds (e.check (.value v)) ↔ sel.SameFirst narrowed (s.frame 0).tree) :=
  ⟨exists_sameFirst_iff hs hparse hend hv htimeout .contains,
    exists_sameFirst_iff hs hparse hend hv htimeout .equals⟩

/-! ### A sharp s is two letters without regard to case -/

def sharpFields : Element :=
  .node {} [.node { role := some "AXTextField", value := some "[a] Groß" } [],
    .node { role := some "AXTextField", value := some "[a] GROSS" } []]

def sharpSession : Session :=
  { frames := [{ tree := sharpFields }], live := false, dispatcherFrame := none
    timeout := 1000, interval := 100 }

def fieldSelector : Selector := { steps := [{ role := some "textfield" }], raw := " textfield" }

def expectField : Expectation :=
  { locator := { selector := " textfield", timeout := 1000, interval := 100 }
    timeout := 100, interval := 30 }

/-- The first field contains the text, and only the second one is the text. -/
theorem value_checks_agree_with_filters_sharpFields :
    sharpSession.Still ∧ Selector.parse expectField.locator.selector = .ok fieldSelector ∧
    (∀ c ∈ expectField.locator.selector.toList.getLast?, Text.isBlank c = false) ∧
    '"' ∉ "[a] GROSS".toList ∧ 0 < expectField.timeout ∧
    sharpSession.Succeeds (expectField.check (.containsValue "[a] GROSS")) ∧
    ¬ sharpSession.Succeeds (expectField.check (.value "[a] GROSS")) := by
  have hstill : sharpSession.Still := ⟨rfl, rfl⟩
  have hparse : Selector.parse expectField.locator.selector = .ok fieldSelector :=
    Grammar.eq_ok_of_toOption (by decide +kernel)
  have hend : ∀ c ∈ expectField.locator.selector.toList.getLast?, Text.isBlank c = false := by
    rintro c ⟨⟩
    decide
  rcases value_checks_agree_with_filters expectField fieldSelector sharpSession "[a] GROSS" hstill
    hparse hend (by decide) (by decide) with ⟨⟨part, hpart, hcontains⟩, whole, hwhole, hequals⟩
  have hfirst : (fieldSelector.findFirst? sharpFields).map (·.path) = some [0] := by
    decide +kernel
  have hpart' : (Selector.parse
      (expectField.locator.selector ++ ("[value~=\"" ++ "[a] GROSS" ++ "\"]"))).toOption.map
        (fun t => (t.findFirst? sharpFields).map (·.path)) = some (some [0]) := by
    decide +kernel
  have hwhole' : (Selector.parse
      (expectField.locator.selector ++ ("[value=\"" ++ "[a] GROSS" ++ "\"]"))).toOption.map
        (fun t => (t.findFirst? sharpFields).map (·.path)) = some (some [1]) := by
    decide +kernel
  rw [hpart] at hpart'
  rw [hwhole] at hwhole'
  refine ⟨hstill, hparse, hend, by decide, by decide, ?_, ?_⟩
  · exact hcontains.mpr ⟨[0], hfirst, Option.some.inj hpart'⟩
  · rw [hequals]
    rintro ⟨path, h, h'⟩
    cases hfirst.symm.trans h
    cases (Option.some.inj hwhole').symm.trans h'

end Expectation

end UiTree
