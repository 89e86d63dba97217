import UiTree.Element.Decode

/-!
# Decoding — what a record comes to, field by field

A record is read field by field, and then its children are.  It comes to an element if each of its
fields comes to a value, and if it has no others.
-/

namespace UiTree

open Checked UiTree.Text

/-! ## 1. Fields and their names -/

namespace Attribute

/-- The names that a field goes by. -/
def names (x : Attribute) : List String := x.shortName?.toList ++ [x.name]

/-- The entry is one of the field, by its key. -/
def isUnder (x : Attribute) (entry : Datum × Datum) : Bool :=
  match entry.1 with
  | .text s => x.names.contains s
  | _ => false

theorem mem_all (x : Attribute) : x ∈ all := by
  cases x <;> decide

/-- No two fields share a name. -/
theorem eq_of_mem_names {x y : Attribute} {s : String} (hx : s ∈ x.names) (hy : s ∈ y.names) :
    x = y := by
  have hall : ∀ x ∈ all, ∀ y ∈ all, ∀ s ∈ x.names, s ∈ y.names → x = y := by decide +kernel
  exact hall x x.mem_all y y.mem_all s hx hy

/-- A record with all fields, each under one of its names, has each of them once. -/
theorem filter_isUnder_map {name : Attribute → String} (hname : ∀ x, name x ∈ x.names)
    (v : Attribute → Datum) (x : Attribute) :
    (all.map fun y => (Datum.text (name y), v y)).filter x.isUnder =
      [(.text (name x), v x)] := by
  have hunder : ∀ y, x.isUnder (.text (name y), v y) = (y == x) := by
    intro y
    rw [Bool.eq_iff_iff, beq_iff_eq]
    constructor
    · intro h
      exact eq_of_mem_names (hname y) (by simpa [isUnder] using h)
    · rintro rfl
      simpa [isUnder] using hname y
  rw [List.filter_map]
  simp only [Function.comp_def, hunder]
  cases x <;> rfl

/-- The first entry under a key, if there is one. -/
def found? (entries : List (Datum × Datum)) (key : String) : Option (String × Datum) :=
  (entries.find? fun (k, _) => match k with | .text s => s == key | _ => false).map fun (_, v) =>
    (key, v)

theorem under?_eq_findSome? (x : Attribute) (entries : List (Datum × Datum)) :
    x.under? entries = x.names.findSome? (found? entries) := by
  change (x.shortName?.bind (found? entries)).or (found? entries x.name) = _
  unfold names
  cases x.shortName? with
  | none => cases h : found? entries x.name <;> simp [h]
  | some short =>
    cases hshort : found? entries short <;> cases h : found? entries x.name <;> simp [h, hshort]

/-- Whether a field is found depends on its own entries only. -/
theorem found?_eq_filter {x : Attribute} {key : String} (hkey : key ∈ x.names)
    (entries : List (Datum × Datum)) :
    found? entries key = found? (entries.filter x.isUnder) key := by
  unfold found?
  rw [List.find?_filter]
  congr 2
  funext ⟨k, d⟩
  cases k with
  | text s =>
    by_cases hs : s = key
    · simp [hs, isUnder, hkey]
    · simp [hs]
  | _ => simp

theorem under?_eq_none {x : Attribute} {entries : List (Datum × Datum)}
    (h : entries.filter x.isUnder = []) : x.under? entries = none := by
  rw [under?_eq_findSome?, List.findSome?_eq_none_iff]
  intro key hkey
  rw [found?_eq_filter hkey, h]
  rfl

/-- A field with one entry is found under the key of that entry. -/
theorem under?_eq_some {x : Attribute} {entries : List (Datum × Datum)} {key : String} {d : Datum}
    (h : entries.filter x.isUnder = [(.text key, d)]) : x.under? entries = some (key, d) := by
  have hkey : key ∈ x.names := by
    have hmem : (Datum.text key, d) ∈ entries.filter x.isUnder := by simp [h]
    simpa [isUnder] using (List.mem_filter.mp hmem).2
  have hfound : ∀ s ∈ x.names, found? entries s = if key = s then some (s, d) else none := by
    intro s hs
    rw [found?_eq_filter hs, h, found?]
    by_cases hks : key = s <;> simp [hks]
  rw [under?_eq_findSome?]
  generalize x.names = keys at hkey hfound
  induction keys with
  | nil => simp at hkey
  | cons s keys ih =>
    rw [List.forall_mem_cons] at hfound
    rw [List.findSome?_cons, hfound.1]
    by_cases hks : key = s
    · rw [if_pos hks, hks]
    · rw [if_neg hks]
      exact ih ((List.mem_cons.mp hkey).resolve_left hks) hfound.2

end Attribute

/-! ## 2. Records -/

namespace Element

/-- The fields of an element but for its children. -/
def ownAttributes : List Attribute :=
  [.role, .title, .label, .identifier, .value, .enabled, .focused]

/-- Those of them that hold text. -/
def textAttributes : List Attribute := [.role, .title, .label, .identifier, .value]

theorem mem_ownAttributes_iff (x : Attribute) : x ∈ ownAttributes ↔ x ≠ .children := by
  cases x <;> decide

/-- The fields of a record come to the attributes. -/
structure FieldsRead (entries : List (Datum × Datum)) (a : AttributesOf Ragged) : Prop where
  text : ∀ x ∈ textAttributes,
    Datum.checkField none (Datum.checkOptional Datum.checkText) (x.under? entries) =
      .ok (a.text? x)
  enabled : Datum.checkField true Datum.checkTruth (Attribute.under? .enabled entries) =
    .ok a.enabled
  focused : Datum.checkField false Datum.checkTruth (Attribute.under? .focused entries) =
    .ok a.focused

theorem decodeAttributes_eq {entries : List (Datum × Datum)} {a : AttributesOf Ragged}
    (h : FieldsRead entries a) : decodeAttributes entries = .ok a := by
  have hrole := h.text .role (by decide)
  have htitle := h.text .title (by decide)
  have hlabel := h.text .label (by decide)
  have hidentifier := h.text .identifier (by decide)
  have hvalue := h.text .value (by decide)
  unfold decodeAttributes
  simp only [hrole, htitle, hlabel, hidentifier, hvalue, h.enabled, h.focused]
  rfl

/-- What the datum of a record's children comes to. -/
def decodeChildren (whole : Datum) (depth : Nat) (inside : List Nat) (d : Datum) :
    Checked (List RaggedElement) :=
  match items? whole d with
  | some items => .allFrom 0 (items.map (decodeAt whole depth inside))
  | none => .fail Problem.noList

/-- Every entry is one of a field that has it alone, so that its key is used. -/
theorem keys_used {entries : List (Datum × Datum)}
    (h : ∀ entry ∈ entries, ∃ x : Attribute, ∃ key d,
      entry = (.text key, d) ∧ entries.filter x.isUnder = [(.text key, d)]) :
    ∀ entry ∈ entries, ∃ s ∈ usedKeys entries, entry.1 = .text s := by
  intro entry hentry
  rcases h entry hentry with ⟨x, key, d, rfl, hfilter⟩
  refine ⟨key, ?_, rfl⟩
  exact List.mem_filterMap.mpr ⟨x, x.mem_all, by rw [x.under?_eq_some hfilter]; rfl⟩

theorem checkNoExtras_eq_ok {used : List String} {entries : List (Datum × Datum)}
    (h : ∀ entry ∈ entries, ∃ s ∈ used, entry.1 = .text s) :
    Datum.checkNoExtras used entries = .ok () := by
  unfold Datum.checkNoExtras
  dsimp only
  rw [if_pos]
  rw [List.isEmpty_iff, List.filterMap_eq_nil_iff]
  rintro ⟨k, d⟩ hentry
  rcases h _ hentry with ⟨s, hs, rfl⟩
  simp [hs]

/-- A record whose keys are all names of fields comes to its fields and its children. -/
theorem decodeAt_record {whole : Datum} {depth : Nat} {inside : List Nat} {identity : Option Nat}
    {entries : List (Datum × Datum)} {a : AttributesOf Ragged} {cs : List RaggedElement}
    (hfresh : ∀ id ∈ identity, id ∉ inside)
    (hkeys : ∀ entry ∈ entries, ∃ s ∈ usedKeys entries, entry.1 = .text s)
    (hfields : FieldsRead entries a)
    (hchildren : Datum.checkField [] (decodeChildren whole depth (identity.toList ++ inside))
      (Attribute.under? .children entries) = .ok cs) :
    decodeAt whole (depth + 1) inside (.record identity entries) = .ok (.node a cs) := by
  have hinside : identity.any inside.contains = false := by
    cases identity with
    | none => rfl
    | some id => simpa using hfresh id rfl
  have hwhole : (entries.any fun (k, _) => k.isRagged) = false := by
    rw [List.any_eq_false]
    rintro ⟨k, d⟩ hentry
    rcases hkeys _ hentry with ⟨s, -, rfl⟩
    exact Bool.false_ne_true
  rw [decodeAt]
  simp only [Datum.resolve, hinside, hwhole, decodeAttributes_eq hfields,
    checkNoExtras_eq_ok hkeys, Bool.false_eq_true, if_false]
  change ((both (both (.ok a) (Datum.checkField [] (decodeChildren whole depth _) _))
    (.ok ())).map _) = _
  rw [hchildren]
  rfl

end Element

end UiTree
