import Mathlib.Data.List.Nodup
import UiTree.Proofs.Element.DocumentOrder
import UiTree.Proofs.Element.Spelling
import UiTree.Proofs.Json.Reading
import UiTree.Proofs.Storage.Folder
import UiTree.Proofs.Yaml.Json.Data
import UiTree.Snapshot.Load

/-!
# Snapshots in JSON — dumps that are written and parsed again

A dump that is written as JSON is a snapshot of the element that was dumped, whatever its texts hold
of the characters up to `U+FFFF`.  A character above them comes back in two halves.
-/

namespace UiTree

open Checked UiTree.Text
open Yaml (Narrow textOf)

/-! ## 1. Legible values -/

namespace Json

mutual

theorem Legible.exact : ∀ {v : Json}, v.Legible → v.Exact
  | .null, _ | .bool _, _ | .str _, _ => trivial
  | .int _, h | .real _, h => h.elim
  | .arr items, h => by
    rw [Exact]
    exact LegibleItems.exact h
  | .obj members, h => by
    rw [Legible] at h
    rw [Exact]
    exact ⟨((legibleMembers_iff members).mp h).1, LegibleMembers.exact h⟩

theorem LegibleItems.exact : ∀ {items : List Json}, LegibleItems items → ExactItems items
  | [], _ => trivial
  | _ :: _, h => ⟨Legible.exact h.1, LegibleItems.exact h.2⟩

theorem LegibleMembers.exact : ∀ {members : List (String × Json)},
    LegibleMembers members → ExactMembers members
  | [], _ => trivial
  | (_, _) :: _, h => ⟨Legible.exact h.2.2.1, LegibleMembers.exact h.2.2.2⟩

end

end Json

/-! ## 2. Texts that come back -/

/-- Two changes of texts do the same to attributes just if they do the same to each text. -/
theorem AttributesOf.mapTexts_eq_iff {σ τ : Type} (f g : σ → τ) (a : AttributesOf σ) :
    a.mapTexts f = a.mapTexts g ↔
      ∀ x ∈ Element.textAttributes, ∀ s ∈ a.text? x, f s = g s := by
  have hoption (t : Option σ) : t.map f = t.map g ↔ ∀ s ∈ t, f s = g s := by
    cases t <;> simp
  simp only [mapTexts, mk.injEq, hoption, Element.textAttributes, List.forall_mem_cons, text?,
    List.not_mem_nil, false_implies, implies_true, and_true]

namespace Element

/-- No text of an element has a character above `U+FFFF`. -/
def NarrowTexts (a : Attributes) : Prop := ∀ x ∈ textAttributes, ∀ s ∈ a.text? x, Narrow s.toList

instance (a : Attributes) : Decidable (NarrowTexts a) := List.decidableBAll _ _

/-- The element with its texts as they are read from JSON. -/
def reread (e : Element) : RaggedElement := e.mapTexts fun s => textOf s.toList

theorem reread_attributes_eq_iff (a : Attributes) :
    a.mapTexts (fun s => textOf s.toList) = a.mapTexts Ragged.ofString ↔ NarrowTexts a := by
  rw [AttributesOf.mapTexts_eq_iff]
  simp only [NarrowTexts, Ragged.ofString, Yaml.textOf_eq_ofChars_iff]

mutual

theorem reread_eq_ragged_iff (path : Path) : ∀ e : Element,
    e.reread = e.ragged ↔ ∀ n ∈ e.preorderFrom path, NarrowTexts n.attributes
  | .node a cs => by
    rw [reread, ragged, ElementOf.mapTexts, ElementOf.mapTexts, ElementOf.node.injEq,
      reread_attributes_eq_iff, rereadAll_eq_iff path 0 cs, preorderFrom, List.forall_mem_cons]
    rfl

theorem rereadAll_eq_iff (path : Path) (i : Nat) : ∀ es : List Element,
    ElementOf.mapTextsAll (fun s => textOf s.toList) es =
        ElementOf.mapTextsAll Ragged.ofString es ↔
      ∀ n ∈ preorderAll path i es, NarrowTexts n.attributes
  | [] => ⟨fun _ => nofun, fun _ => rfl⟩
  | e :: es => by
    have he := reread_eq_ragged_iff (path ++ [i]) e
    rw [reread, ragged] at he
    rw [ElementOf.mapTextsAll, ElementOf.mapTextsAll, List.cons.injEq, he,
      rereadAll_eq_iff path (i + 1) es, preorderAll, List.forall_mem_append]

end

/-! ## 3. Dumps as data -/

theorem legible_attributeJson (a : Attributes) (x : Attribute) : (attributeJson a x).Legible := by
  have htext : ∀ t : Option String, (optionalText t).Legible := by
    intro t
    cases t <;> trivial
  cases x with
  | enabled | focused | children => trivial
  | _ => exact htext _

theorem collections_optionalText (t : Option String) : (optionalText t).collections = 0 := by
  cases t <;> rfl

/-- The children come last, so that no other field changes their number. -/
theorem memberData_fields (name : Attribute → String) (n : Nat) (a : Attributes)
    (children : Json) :
    Json.memberData n (Attribute.all.map fun x => (name x, fieldJson a children x)) =
      Attribute.all.map fun x => (.text (name x), (fieldJson a children x).data n) := by
  simp only [Attribute.all, List.map_cons, List.map_nil, Json.memberData, fieldJson, attributeJson,
    collections_optionalText, Json.collections, Nat.add_zero]

/-- A text is taken as it is, whether or not it holds halves. -/
theorem checkOptional_datum (t : Ragged) :
    Datum.checkOptional Datum.checkText (Yaml.Scalar.datum t) = .ok (some t) := by
  rw [Yaml.Scalar.datum]
  cases htext : t.text? with
  | none => rfl
  | some s =>
    rw [Ragged.eq_ofString_of_text? htext]
    rfl

theorem checkOptional_data (t : Option String) (n : Nat) :
    Datum.checkOptional Datum.checkText ((optionalText t).data n) =
      .ok (t.map fun s => textOf s.toList) := by
  cases t with
  | none => rfl
  | some s => exact checkOptional_datum (textOf s.toList)

theorem legibleKey_name {name : Attribute → String} (hname : ∀ x, name x ∈ x.names)
    (x : Attribute) : Json.LegibleKey (name x) := by
  have hall : ∀ x ∈ Attribute.all, ∀ s ∈ x.names,
      (Json.writeChars true s.toList).length ≤ 1024 ∧ Narrow s.toList := by decide +kernel
  have hx := hall x x.mem_all _ (hname x)
  exact ⟨hx.1, hx.2⟩

theorem nodup_names {name : Attribute → String} (hname : ∀ x, name x ∈ x.names) :
    (Attribute.all.map name).Nodup := by
  have hinj : Function.Injective name := by
    intro x y hxy
    have hx := hname x
    rw [hxy] at hx
    exact Attribute.eq_of_mem_names hx (hname y)
  exact List.Nodup.map hinj (by decide)

mutual

theorem legible_dumpBy {name : Attribute → String} (hname : ∀ x, name x ∈ x.names) :
    ∀ e : Element, (e.dumpBy name).Legible
  | .node a cs => by
    rw [dumpBy, Json.Legible, Json.legibleMembers_iff, List.map_map]
    refine ⟨nodup_names hname, fun member hmember => ?_⟩
    rcases List.mem_map.mp hmember with ⟨x, -, rfl⟩
    refine ⟨legibleKey_name hname x, ?_⟩
    by_cases hx : x = .children
    · rw [hx, fieldJson, Json.Legible]
      exact legible_dumpAllBy hname cs
    · rw [fieldJson_of_ne hx]
      exact legible_attributeJson a x

theorem legible_dumpAllBy {name : Attribute → String} (hname : ∀ x, name x ∈ x.names) :
    ∀ es : List Element, Json.LegibleItems (dumpAllBy name es)
  | [] => trivial
  | e :: es => by
    rw [dumpAllBy, Json.LegibleItems]
    exact ⟨legible_dumpBy hname e, legible_dumpAllBy hname es⟩

end

/-! ## 4. Elements -/

theorem fieldsRead_data {name : Attribute → String} (hname : ∀ x, name x ∈ x.names) (n : Nat)
    (a : Attributes) (children : Json) :
    FieldsRead (Attribute.all.map fun x => (.text (name x), (fieldJson a children x).data n))
      (a.mapTexts fun s => textOf s.toList) := by
  have hunder : ∀ x : Attribute, x.under?
      (Attribute.all.map fun x => (.text (name x), (fieldJson a children x).data n)) =
        some (name x, (fieldJson a children x).data n) :=
    fun x => Attribute.under?_eq_some (Attribute.filter_isUnder_map hname _ x)
  refine ⟨fun x hx => ?_, ?_, ?_⟩
  · have hne : x ≠ .children := by
      rintro rfl
      revert hx
      decide
    rw [hunder, fieldJson_of_ne hne, attributeJson_text a x hx, AttributesOf.text?_mapTexts]
    exact congrArg (Checked.under (name x)) (checkOptional_data _ n)
  · rw [hunder]
    rfl
  · rw [hunder]
    rfl

mutual

/-- The data of a dump come to the element, with its texts as they are read. -/
theorem decodeAt_data {name : Attribute → String} (hname : ∀ x, name x ∈ x.names)
    (whole : Datum) : ∀ (e : Element) {depth n : Nat} {inside : List Nat}, e.height ≤ depth →
    Before inside n → decodeAt whole depth inside ((e.dumpBy name).data n) = .ok e.reread
  | .node a cs, depth, n, inside, hdepth, hinside => by
    rw [height] at hdepth
    rcases Nat.exists_eq_succ_of_ne_zero (Nat.ne_of_gt (Nat.lt_of_lt_of_le (Nat.succ_pos _) hdepth))
      with ⟨room, rfl⟩
    rw [dumpBy, Json.data, memberData_fields]
    have hfresh : ∀ id ∈ some n, id ∉ inside := by
      rintro id ⟨⟩
      exact hinside.not_mem
    refine decodeAt_record hfresh (keys_used fun entry hentry => ?_)
      (fieldsRead_data hname _ a _) ?_
    · rcases List.mem_map.mp hentry with ⟨x, -, rfl⟩
      exact ⟨x, name x, _, rfl, Attribute.filter_isUnder_map hname _ x⟩
    · rw [Attribute.under?_eq_some (Attribute.filter_isUnder_map hname _ .children)]
      exact congrArg (Checked.under (name .children)) (allFrom_data hname whole cs 0
        (Nat.le_of_succ_le_succ hdepth) (hinside.enter.add 1))

theorem allFrom_data {name : Attribute → String} (hname : ∀ x, name x ∈ x.names)
    (whole : Datum) : ∀ (es : List Element) (i : Nat) {depth n : Nat} {inside : List Nat},
    heightAll es ≤ depth → Before inside n →
    allFrom i ((Json.itemData n (dumpAllBy name es)).map (decodeAt whole depth inside)) =
      .ok (ElementOf.mapTextsAll (fun s => textOf s.toList) es)
  | [], _, _, _, _, _, _ => rfl
  | e :: es, i, depth, n, inside, hdepth, hinside => by
    rw [heightAll] at hdepth
    rw [dumpAllBy, Json.itemData, List.map_cons, allFrom,
      decodeAt_data hname whole e (by omega) hinside,
      allFrom_data hname whole es (i + 1) (by omega) (hinside.add _)]
    rfl

end

end Element

/-! ## 5. Snapshots -/

namespace Snapshot

open Element

/-- The text of a dump, under whichever names, is parsed to the element, with its texts as they are
read. -/
theorem parse_dumpBy {name : Attribute → String} (hname : ∀ x, name x ∈ x.names) {e : Element}
    (h : e.height ≤ depthLimit) {loader : Yaml.Loader}
    (hstack : loader.exhausts ((e.dumpBy name).write true) = false) :
    parse loader ((e.dumpBy name).write true) = .ok e.reread := by
  have hdecode : Element.decode ((e.dumpBy name).data 0) = .ok e.reread :=
    decodeAt_data hname _ e h nofun
  have hrecord : ∃ entries, (e.dumpBy name).data 0 = .record (some 0) entries := by
    rcases e with ⟨a, cs⟩
    exact ⟨_, rfl⟩
  rcases hrecord with ⟨entries, hrecord⟩
  rw [hrecord] at hdecode
  rw [parse, Json.read_write (legible_dumpBy hname e) hstack, hrecord]
  dsimp only
  rw [hdecode]

/-- A file that holds the text of a dump is read like the text. -/
theorem load_dump {folder : Folder} {path : Location} {e : Element}
    (hfile : folder.look path = .file (e.dump.write true).toUTF8.toList)
    (h : e.height ≤ depthLimit) {loader : Yaml.Loader}
    (hstack : loader.exhausts (e.dump.write true) = false) :
    load loader folder path = .ok e.reread := by
  rw [← dumpBy_name] at hfile hstack
  have hreturn : '\r' ∉ ((e.dumpBy Attribute.name).write true).toList := fun hmem =>
    absurd (Json.uncontrolled_write _ (legible_dumpBy Attribute.name_mem_names e).exact _ hmem)
      (by decide)
  rw [load, hfile]
  simp only [Folder.textOf_toUTF8 hreturn]
  exact parse_dumpBy Attribute.name_mem_names h hstack

/-- **A dump in JSON is a snapshot of its element, unless a text has a character above `U+FFFF`.**
Such a character is written as two escapes, neither of which is a character when it is read again:
the snapshot is one of another element, with halves of characters in its texts. -/
theorem json_dump_parses_iff_narrow (loader : Yaml.Loader) (e : Element)
    (h : e.height ≤ depthLimit) (hstack : loader.exhausts (e.dump.write true) = false) :
    parse loader (e.dump.write true) = .ok e.reread ∧
    (parse loader (e.dump.write true) = .ok e.ragged ↔
      ∀ n ∈ e.preorder, NarrowTexts n.attributes) := by
  rw [← dumpBy_name] at hstack ⊢
  have hparse := parse_dumpBy Attribute.name_mem_names h hstack
  refine ⟨hparse, ?_⟩
  rw [hparse, Except.ok.injEq]
  exact reread_eq_ragged_iff [] e

/-! ### A note and a face -/

/-- A note with a quotation mark, a line break and letters beyond ASCII. -/
def note : Element :=
  .node { title := some "Café \"€ 5\"\n", focused := true } [.node { role := some "AXButton" } []]

theorem json_dump_parses_iff_narrow_note :
    note.height ≤ depthLimit ∧ Yaml.Loader.exhausts {} (note.dump.write true) = false ∧
    (∀ n ∈ note.preorder, NarrowTexts n.attributes) ∧
    parse {} (note.dump.write true) = .ok note.ragged := by
  have hheight : note.height ≤ depthLimit := by decide
  have hnarrow : ∀ n ∈ note.preorder, NarrowTexts n.attributes := by decide
  exact ⟨hheight, rfl, hnarrow, (json_dump_parses_iff_narrow {} note hheight rfl).2.mpr hnarrow⟩

/-- A lone element with a face as its title. -/
def face : Element := .node { title := some "😀" } []

theorem not_json_dump_parses_of_face :
    ¬ ∀ e : Element, e.height ≤ depthLimit → parse {} (e.dump.write true) = .ok e.ragged := by
  intro h
  have hface := h face (by decide)
  rw [← dumpBy_name, parse_dumpBy Attribute.name_mem_names (by decide) rfl] at hface
  have hwide : ¬ ∀ n ∈ face.preorder, NarrowTexts n.attributes := by decide
  exact hwide ((reread_eq_ragged_iff [] face).mp (Except.ok.inj hface))

end Snapshot

end UiTree
