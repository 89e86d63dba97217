import UiTree.Element.Dump
import UiTree.Proofs.Element.Decoding

/-!
# Spelling — the records that spell an element

A record spells an element field by field, in any order.  A field stands under either of its names,
or is left out if it is what it would be anyway.  Whatever the choices, the element is what the
record decodes to, as long as it is not too deep.
-/

namespace UiTree

open Checked UiTree.Text

/-! ## 1. Records that spell elements -/

namespace Attribute

/-- How a record has a field: once, under one of its names and with a value of the kind `Means`, or
not at all if it may be left out. -/
def WrittenIn (x : Attribute) (entries : List (Datum × Datum)) (Means : Datum → Prop)
    (optional : Prop) : Prop :=
  (∃ key d, entries.filter x.isUnder = [(.text key, d)] ∧ Means d) ∨
    (entries.filter x.isUnder = [] ∧ optional)

theorem WrittenIn.imp {x : Attribute} {entries : List (Datum × Datum)} {Means Means' : Datum → Prop}
    {optional optional' : Prop} (h : x.WrittenIn entries Means optional)
    (hmeans : ∀ d, Means d → Means' d) (hoptional : optional → optional') :
    x.WrittenIn entries Means' optional' := by
  rcases h with ⟨key, d, hfilter, hd⟩ | ⟨hfilter, h⟩
  · exact .inl ⟨key, d, hfilter, hmeans d hd⟩
  · exact .inr ⟨hfilter, hoptional h⟩

/-- An entry of a field that the record has once is the one the field is found by. -/
theorem WrittenIn.eq_of_isUnder {x : Attribute} {entries : List (Datum × Datum)}
    {Means : Datum → Prop} {optional : Prop} (h : x.WrittenIn entries Means optional)
    {entry : Datum × Datum} (hentry : entry ∈ entries) (hx : x.isUnder entry = true) :
    ∃ key d, entry = (.text key, d) ∧ entries.filter x.isUnder = [(.text key, d)] := by
  have hmem : entry ∈ entries.filter x.isUnder := List.mem_filter.mpr ⟨hentry, hx⟩
  rcases h with ⟨key, d, hfilter, -⟩ | ⟨hfilter, -⟩
  · rw [hfilter, List.mem_singleton] at hmem
    exact ⟨key, d, hmem, hfilter⟩
  · rw [hfilter] at hmem
    cases hmem

end Attribute

namespace Element

mutual

/-- The datum is a record of the element, inside the records of the identities given: it has each
field once or leaves it out, and nothing else. -/
def Spells (inside : List Nat) : Element → Datum → Prop
  | .node a cs, d => ∃ identity entries, d = .record identity entries ∧
      (∀ id ∈ identity, id ∉ inside) ∧
      (∀ entry ∈ entries, ∃ x : Attribute, x.isUnder entry = true) ∧
      (∀ x ∈ ownAttributes, x.WrittenIn entries (· = .ofJson (attributeJson a x))
        (attributeJson a x = attributeJson {} x)) ∧
      Attribute.children.WrittenIn entries
        (fun d => ∃ identity' items, d = .list identity' items ∧
          SpellsAll (identity.toList ++ inside) cs items)
        (cs = [])

def SpellsAll (inside : List Nat) : List Element → List Datum → Prop
  | [], items => items = []
  | e :: es, items => ∃ d ds, items = d :: ds ∧ Spells inside e d ∧ SpellsAll inside es ds

end

mutual

/-- The number of levels of a tree. -/
def height : Element → Nat
  | .node _ cs => heightAll cs + 1

def heightAll : List Element → Nat
  | [] => 0
  | e :: es => max (height e) (heightAll es)

end

/-! ## 2. Fields that are spelled -/

theorem checkField_text {x : Attribute} {entries : List (Datum × Datum)} {t : Option String}
    (h : x.WrittenIn entries (· = .ofJson (optionalText t)) (t = none)) :
    Datum.checkField none (Datum.checkOptional Datum.checkText) (x.under? entries) =
      .ok (t.map Ragged.ofString) := by
  rcases h with ⟨key, d, hfilter, rfl⟩ | ⟨hfilter, rfl⟩
  · rw [x.under?_eq_some hfilter]
    cases t <;> rfl
  · rw [x.under?_eq_none hfilter]
    rfl

theorem checkField_truth {x : Attribute} {entries : List (Datum × Datum)} {b default : Bool}
    (h : x.WrittenIn entries (· = .bool b) (b = default)) :
    Datum.checkField default Datum.checkTruth (x.under? entries) = .ok b := by
  rcases h with ⟨key, d, hfilter, rfl⟩ | ⟨hfilter, rfl⟩
  · rw [x.under?_eq_some hfilter]
    rfl
  · rw [x.under?_eq_none hfilter]
    rfl

theorem optionalText_inj {s t : Option String} (h : optionalText s = optionalText t) : s = t := by
  cases s <;> cases t <;> simp_all [optionalText]

/-- A field that holds text is one of those with no text by default. -/
theorem attributeJson_text (a : Attributes) :
    ∀ x ∈ textAttributes, attributeJson a x = optionalText (a.text? x) := by
  simp [textAttributes, attributeJson, AttributesOf.text?]

theorem fieldsRead_of_written {entries : List (Datum × Datum)} {a : Attributes}
    (h : ∀ x ∈ ownAttributes, x.WrittenIn entries (· = .ofJson (attributeJson a x))
      (attributeJson a x = attributeJson {} x)) :
    FieldsRead entries (a.mapTexts Ragged.ofString) where
  text x hx := by
    have hown : x ∈ ownAttributes := by
      revert hx
      cases x <;> decide
    have hwritten := h x hown
    rw [attributeJson_text a x hx, attributeJson_text {} x hx] at hwritten
    rw [AttributesOf.text?_mapTexts]
    refine checkField_text (hwritten.imp (fun _ h => h) fun heq => ?_)
    rw [optionalText_inj heq]
    cases x <;> rfl
  enabled := checkField_truth ((h .enabled (by decide)).imp (fun _ h => h) Json.bool.inj)
  focused := checkField_truth ((h .focused (by decide)).imp (fun _ h => h) Json.bool.inj)

/-! ## 3. Elements that are spelled -/

mutual

theorem decodeAt_of_spells (whole : Datum) : ∀ (e : Element) {depth : Nat} {inside : List Nat}
    {d : Datum}, Spells inside e d → e.height ≤ depth →
    decodeAt whole depth inside d = .ok e.ragged
  | .node a cs, depth, inside, d, h, hdepth => by
    rw [Spells] at h
    rw [height] at hdepth
    rcases h with ⟨identity, entries, rfl, hfresh, hkeys, hown, hchildren⟩
    rcases Nat.exists_eq_succ_of_ne_zero (Nat.ne_of_gt (Nat.lt_of_lt_of_le (Nat.succ_pos _) hdepth))
      with ⟨room, rfl⟩
    have hused : ∀ entry ∈ entries, ∃ s ∈ usedKeys entries, entry.1 = .text s := by
      refine keys_used fun entry hentry => ?_
      rcases hkeys entry hentry with ⟨x, hx⟩
      by_cases hlast : x = .children
      · subst hlast
        exact ⟨_, hchildren.eq_of_isUnder hentry hx⟩
      · exact ⟨_, (hown x ((mem_ownAttributes_iff x).mpr hlast)).eq_of_isUnder hentry hx⟩
    have hbelow : Datum.checkField [] (decodeChildren whole room (identity.toList ++ inside))
        (Attribute.under? .children entries) = .ok (ElementOf.mapTextsAll Ragged.ofString cs) := by
      rcases hchildren with ⟨key, d, hfilter, identity', items, rfl, hitems⟩ | ⟨hfilter, rfl⟩
      · rw [Attribute.under?_eq_some hfilter]
        change (decodeChildren whole room _ (.list identity' items)).under key = _
        unfold decodeChildren
        simp only [items?, Datum.resolve]
        rw [allFrom_of_spellsAll whole cs 0 hitems (Nat.le_of_succ_le_succ hdepth)]
        rfl
      · rw [Attribute.under?_eq_none hfilter]
        rfl
    exact decodeAt_record hfresh hused (fieldsRead_of_written hown) hbelow

theorem allFrom_of_spellsAll (whole : Datum) : ∀ (es : List Element) (i : Nat) {depth : Nat}
    {inside : List Nat} {ds : List Datum}, SpellsAll inside es ds → heightAll es ≤ depth →
    allFrom i (ds.map (decodeAt whole depth inside)) =
      .ok (ElementOf.mapTextsAll Ragged.ofString es)
  | [], i, depth, inside, ds, h, _ => by
    rw [SpellsAll] at h
    rw [h]
    rfl
  | e :: es, i, depth, inside, ds, h, hdepth => by
    rw [SpellsAll] at h
    rw [heightAll] at hdepth
    rcases h with ⟨d, ds, rfl, hd, hds⟩
    rw [List.map_cons, allFrom, decodeAt_of_spells whole e hd (by omega),
      allFrom_of_spellsAll whole es (i + 1) hds (by omega)]
    rfl

end

/-! ## 4. Dumps -/

/-- The fields of an element, given what its children are as data. -/
def fieldJson (a : Attributes) (children : Json) : Attribute → Json
  | .children => children
  | x => attributeJson a x

theorem fieldJson_of_ne {x : Attribute} (h : x ≠ .children) (a : Attributes) (children : Json) :
    fieldJson a children x = attributeJson a x := by
  cases x with
  | children => exact absurd rfl h
  | _ => rfl

mutual

/-- An element as data, every field written out under the name given. -/
def dumpBy (name : Attribute → String) : Element → Json
  | .node a cs =>
    .obj (Attribute.all.map fun x => (name x, fieldJson a (.arr (dumpAllBy name cs)) x))

def dumpAllBy (name : Attribute → String) : List Element → List Json
  | [] => []
  | e :: es => dumpBy name e :: dumpAllBy name es

end

mutual

theorem dumpBy_name : ∀ e : Element, e.dumpBy Attribute.name = e.dump
  | .node a cs => by
    rw [dumpBy, dump, dumpAllBy_name cs]
    rfl

theorem dumpAllBy_name : ∀ es : List Element, dumpAllBy Attribute.name es = dumpAll es
  | [] => rfl
  | e :: es => by rw [dumpAllBy, dumpAll, dumpBy_name e, dumpAllBy_name es]

end

theorem ofJsonFields_eq_map (members : List (String × Json)) :
    Datum.ofJsonFields members = members.map fun (k, v) => (.text k, .ofJson v) := by
  induction members with
  | nil => rfl
  | cons member members ih => rw [Datum.ofJsonFields, ih, List.map_cons]

mutual

theorem spells_dumpBy {name : Attribute → String} (hname : ∀ x, name x ∈ x.names)
    (inside : List Nat) : ∀ e : Element, Spells inside e (.ofJson (e.dumpBy name))
  | .node a cs => by
    have hfilter := Attribute.filter_isUnder_map hname fun x =>
      .ofJson (fieldJson a (.arr (dumpAllBy name cs)) x)
    rw [Spells, dumpBy, Datum.ofJson, ofJsonFields_eq_map, List.map_map]
    refine ⟨none, _, rfl, nofun, ?_, ?_, ?_⟩
    · intro entry hentry
      rcases List.mem_map.mp hentry with ⟨x, -, rfl⟩
      exact ⟨x, by simpa [Attribute.isUnder] using hname x⟩
    · intro x hx
      refine .inl ⟨_, _, hfilter x, ?_⟩
      rw [fieldJson_of_ne ((mem_ownAttributes_iff x).mp hx)]
    · refine .inl ⟨_, _, hfilter .children, none, _, rfl, ?_⟩
      exact spellsAll_dumpAllBy hname _ cs

theorem spellsAll_dumpAllBy {name : Attribute → String} (hname : ∀ x, name x ∈ x.names)
    (inside : List Nat) : ∀ es : List Element,
    SpellsAll inside es (Datum.ofJsonItems (dumpAllBy name es))
  | [] => rfl
  | e :: es => by
    rw [SpellsAll, dumpAllBy, Datum.ofJsonItems]
    exact ⟨_, _, rfl, spells_dumpBy hname inside e, spellsAll_dumpAllBy hname inside es⟩

end

end Element

/-- The short name of a field, if it has one. -/
def Attribute.shortest (x : Attribute) : String := x.shortName?.getD x.name

theorem Attribute.name_mem_names (x : Attribute) : x.name ∈ x.names := by
  cases x <;> decide

theorem Attribute.shortest_mem_names (x : Attribute) : x.shortest ∈ x.names := by
  cases x <;> decide

namespace Element

/-- **A record decodes to the element that it spells.**  Whichever name each field of each element
goes by, in whatever order, and whether or not a field that is as by default is left out, the record
decodes to the element; and so do the dumps, under the full names and under the short ones. -/
theorem spelled_records_decode (e : Element) (h : e.height ≤ depthLimit) :
    (∀ d, Spells [] e d → decode d = .ok e.ragged) ∧
    decode (.ofJson e.dump) = .ok e.ragged ∧
    decode (.ofJson (e.dumpBy Attribute.shortest)) = .ok e.ragged := by
  have hspelled : ∀ d, Spells [] e d → decode d = .ok e.ragged :=
    fun d hd => decodeAt_of_spells d e hd h
  refine ⟨hspelled, ?_, ?_⟩
  · rw [← dumpBy_name]
    exact hspelled _ (spells_dumpBy Attribute.name_mem_names [] e)
  · exact hspelled _ (spells_dumpBy Attribute.shortest_mem_names [] e)

/-! ### A form spelled in two ways -/

/-- A form with one field. -/
def nameForm : Element :=
  .node { title := some "Name", enabled := false } [.node { label := some "First" } []]

/-- The record of the form, its fields out of order and under names of either kind. -/
def nameFormRecord : Datum :=
  .record (some 0) [
    (.text "children", .list (some 1) [
      .record (some 2) [(.text "role", .null), (.text "description", .text "First")]]),
    (.text "is_enabled", .bool false),
    (.text "title", .text "Name")]

theorem spells_nameFormRecord : Spells [] nameForm nameFormRecord := by
  have hfirst : Spells [0] (.node { label := some "First" } [])
      (.record (some 2) [(.text "role", .null), (.text "description", .text "First")]) := by
    refine ⟨_, _, rfl, by decide, ?_, ?_, .inr ⟨rfl, rfl⟩⟩
    · simp only [List.forall_mem_cons]
      exact ⟨⟨.role, rfl⟩, ⟨.label, rfl⟩, List.forall_mem_nil _⟩
    · simp only [ownAttributes, List.forall_mem_cons]
      exact ⟨.inl ⟨_, _, rfl, rfl⟩, .inr ⟨rfl, rfl⟩, .inl ⟨_, _, rfl, rfl⟩, .inr ⟨rfl, rfl⟩,
        .inr ⟨rfl, rfl⟩, .inr ⟨rfl, rfl⟩, .inr ⟨rfl, rfl⟩, List.forall_mem_nil _⟩
  refine ⟨_, _, rfl, by decide, ?_, ?_, .inl ⟨_, _, rfl, _, _, rfl, _, _, rfl, hfirst, rfl⟩⟩
  · simp only [List.forall_mem_cons]
    exact ⟨⟨.children, rfl⟩, ⟨.enabled, rfl⟩, ⟨.title, rfl⟩, List.forall_mem_nil _⟩
  · simp only [ownAttributes, List.forall_mem_cons]
    exact ⟨.inr ⟨rfl, rfl⟩, .inl ⟨_, _, rfl, rfl⟩, .inr ⟨rfl, rfl⟩, .inr ⟨rfl, rfl⟩,
      .inr ⟨rfl, rfl⟩, .inl ⟨_, _, rfl, rfl⟩, .inr ⟨rfl, rfl⟩, List.forall_mem_nil _⟩

theorem spelled_records_decode_nameForm :
    nameForm.height ≤ depthLimit ∧ Spells [] nameForm nameFormRecord ∧
    decode nameFormRecord = .ok nameForm.ragged := by
  have hheight : nameForm.height ≤ depthLimit := by decide
  exact ⟨hheight, spells_nameFormRecord,
    (spelled_records_decode nameForm hheight).1 _ spells_nameFormRecord⟩

end Element

end UiTree
