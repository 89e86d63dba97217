import UiTree.Page.Expectation
import UiTree.Proofs.Text.Casing

/-!
# Containing — a question that equality answers

Folding goes character by character, so a piece of a text folds to a piece of the folded text,
however long that is.  So a text that is equal to another or contains it contains each piece of it,
and texts that fold alike are contained in the same texts.
-/

namespace UiTree

open UiTree.Text

namespace Selector

/-! ## 1. Pieces of folded texts -/

theorem infix_foldChars {cs ds : List Char} (h : cs <:+: ds) : foldChars cs <:+: foldChars ds := by
  rcases h with ⟨before, after, rfl⟩
  refine ⟨foldChars before, foldChars after, ?_⟩
  rw [foldChars_append, foldChars_append]

theorem containsFolded_iff (needle hay : String) :
    containsFolded needle hay = true ↔ foldChars needle.toList <:+: foldChars hay.toList := by
  rw [containsFolded, occursIn_iff]
  exact exists_congr fun before => exists_congr fun after => eq_comm

theorem containsFolded_of_piece {u v hay : String} (h : u.toList <:+: v.toList)
    (hv : containsFolded v hay = true) : containsFolded u hay = true := by
  rw [containsFolded_iff] at hv ⊢
  exact (infix_foldChars h).trans hv

theorem containsFolded_part {u v : String} (h : u.toList <:+: v.toList) :
    containsFolded u v = true :=
  (containsFolded_iff u v).mpr (infix_foldChars h)

theorem containsFolded_congr {u v : String} (h : fold u = fold v) (hay : String) :
    containsFolded u hay = containsFolded v hay := by
  have hchars : foldChars u.toList = foldChars v.toList := by
    rw [← toList_fold, h, toList_fold]
  rw [containsFolded, hchars, containsFolded]

/-- Whichever way a text answers to another, it contains each piece of that. -/
theorem containsFolded_of_compare (op : Op) {u v found : String} (h : u.toList <:+: v.toList)
    (hv : op.compare v found = true) : containsFolded u found = true := by
  cases op with
  | equals =>
    obtain rfl : found = v := beq_iff_eq.mp hv
    exact containsFolded_part h
  | contains => exact containsFolded_of_piece h hv

/-! ## 2. Filters -/

/-- The names of attributes that a filter can ask for. -/
def filterKeys : List String := ["title", "label", "description", "identifier", "value", "role"]

theorem lower_mem_filterKeys {key : String} {x : Attribute} (h : attributeOf? key = some x) :
    lower key ∈ filterKeys := by
  rw [attributeOf?] at h
  split at h
  case h_7 => cases h
  all_goals
    rename_i hkey
    rw [hkey]
    decide

namespace Filter

theorem holds_iff {f : Filter} {a : Attributes} :
    f.holds a = true ↔
      ∃ found, f.attribute?.bind a.text? = some found ∧ f.op.compare f.value found = true := by
  rw [holds]
  cases f.attribute?.bind a.text? with
  | none => simp
  | some found => simp

/-- What meets a filter in whatever way contains each piece of what it asks for. -/
theorem holds_contains_of_piece {key u v : String} {op : Op} {a : Attributes}
    (h : u.toList <:+: v.toList) (hv : ({ key, value := v, op } : Filter).holds a = true) :
    ({ key, value := u, op := .contains } : Filter).holds a = true := by
  rcases holds_iff.mp hv with ⟨found, hfound, hcompare⟩
  exact holds_iff.mpr ⟨found, hfound, containsFolded_of_compare op h hcompare⟩

theorem holds_contains_congr {u v : String} (h : fold u = fold v) (key : String)
    (a : Attributes) :
    ({ key, value := u, op := .contains } : Filter).holds a =
      ({ key, value := v, op := .contains } : Filter).holds a := by
  rw [holds, holds, attribute?, attribute?]
  cases (attributeOf? key).bind a.text? with
  | none => rfl
  | some found => exact containsFolded_congr h found

/-- A filter that asks for nothing known, or for something absent, is not met. -/
theorem holds_eq_false {f : Filter} {a : Attributes}
    (h : lower f.key ∉ filterKeys ∨ ∃ x, attributeOf? f.key = some x ∧ a.text? x = none) :
    f.holds a = false := by
  rw [Bool.eq_false_iff]
  intro hholds
  rcases holds_iff.mp hholds with ⟨found, hfound, -⟩
  rcases Option.bind_eq_some_iff.mp hfound with ⟨x, hx, htext⟩
  rcases h with hunknown | ⟨y, hy, hnone⟩
  · exact hunknown (lower_mem_filterKeys hx)
  · cases hx.symm.trans hy
    cases htext.symm.trans hnone

theorem holds_congr_key {key key' : String} (h : lower key = lower key') (value : String) (op : Op)
    (a : Attributes) :
    ({ key, value, op } : Filter).holds a = ({ key := key', value, op } : Filter).holds a := by
  rw [holds, holds, attribute?, attribute?, attributeOf?, h, attributeOf?]

end Filter

end Selector

/-! ## 3. Checks -/

namespace Check

/-- The one check looks at what the other looks at, and holds whenever that holds. -/
structure Weakens (c d : Check) : Prop where
  reads : d.reads = c.reads
  holds : ∀ a, c.holds a = true → d.holds a = true

variable {u v : String}

theorem weakens_text_of_exactText (h : u.toList <:+: v.toList) :
    (exactText v).Weakens (text u) where
  reads := rfl
  holds
    | none => nofun
    | some _ => Selector.containsFolded_of_compare .equals h

theorem weakens_text (h : u.toList <:+: v.toList) : (text v).Weakens (text u) where
  reads := rfl
  holds
    | none => nofun
    | some _ => Selector.containsFolded_of_piece h

theorem weakens_containsValue_of_value (h : u.toList <:+: v.toList) :
    (value v).Weakens (containsValue u) where
  reads := rfl
  holds
    | none => nofun
    | some a => fun hv => by
      have hvalue : a.value = some v := beq_iff_eq.mp hv
      rw [holds, hvalue, Option.any_some]
      exact Selector.containsFolded_part h

theorem weakens_containsValue (h : u.toList <:+: v.toList) :
    (containsValue v).Weakens (containsValue u) where
  reads := rfl
  holds
    | none => nofun
    | some a => fun hv => by
      rcases (Option.any_eq_true _ _).mp hv with ⟨found, hfound, hcontains⟩
      exact (Option.any_eq_true _ _).mpr
        ⟨found, hfound, Selector.containsFolded_of_piece h hcontains⟩

end Check

end UiTree
