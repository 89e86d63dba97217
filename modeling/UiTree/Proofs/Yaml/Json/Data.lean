import Mathlib.Data.List.Forall2
import UiTree.Proofs.Yaml.Json.Nodes
import UiTree.Yaml.Document

/-!
# Data of JSON — a value that is written and read again

A value without numbers is read as the same data, its collections numbered in the order in which
they start.  The one exception is the texts: a character above `U+FFFF` comes back in two halves.
-/

namespace UiTree

open UiTree.Text

/-! ## 1. Data of values -/

namespace Json

open Yaml (Node Scalar.datum textOf)

mutual

/-- The data of a value, its collections numbered from `n` on and its texts as they are read. -/
def data (n : Nat) : Json → Datum
  | .arr items => .list (some n) (itemData (n + 1) items)
  | .obj members => .record (some n) (memberData (n + 1) members)
  | .str s => Scalar.datum (textOf s.toList)
  | j => .ofJson j

def itemData (n : Nat) : List Json → List Datum
  | [] => []
  | v :: vs => data n v :: itemData (n + collections v) vs

def memberData (n : Nat) : List (String × Json) → List (Datum × Datum)
  | [] => []
  | (k, v) :: rest => (.text k, data n v) :: memberData (n + collections v) rest

end

mutual

theorem collections_node : ∀ (n : Nat) (j : Json), (j.node n).collections = j.collections
  | n, .arr items => by
    rw [node, Node.collections, collections, collections_itemNodes]
  | n, .obj members => by
    rw [node, Node.collections, collections, collections_memberNodes]
  | _, .str _ | _, .null | _, .bool _ | _, .int _ | _, .real _ => rfl

theorem collections_itemNodes : ∀ (n : Nat) (items : List Json),
    Node.collectionsOf (itemNodes n items) = itemCollections items
  | _, [] => rfl
  | n, v :: vs => by
    rw [itemNodes, Node.collectionsOf, itemCollections, collections_node, collections_itemNodes]

theorem collections_memberNodes : ∀ (n : Nat) (members : List (String × Json)),
    Node.collectionsOfEntries (memberNodes n members) = memberCollections members
  | _, [] => rfl
  | n, (k, v) :: members => by
    rw [memberNodes, Node.collectionsOfEntries, memberCollections, collections_node,
      collections_memberNodes, keyNode, Node.collections, Nat.zero_add]

end

end Json

/-! ## 2. Numbers -/

/-- The collections of the numbers given start before that of number `n`. -/
def Before (inside : List Nat) (n : Nat) : Prop := ∀ id ∈ inside, id < n

namespace Before

variable {inside : List Nat} {n : Nat} (h : Before inside n)
include h

theorem not_mem : n ∉ inside := fun hn => Nat.lt_irrefl n (h n hn)

theorem enter : Before (n :: inside) (n + 1) :=
  List.forall_mem_cons.mpr ⟨Nat.lt_succ_self n, fun id hid => Nat.lt_succ_of_lt (h id hid)⟩

theorem add (m : Nat) : Before inside (n + m) := fun id hid => Nat.lt_add_right m (h id hid)

end Before

/-! ## 3. Steps of the conversion -/

namespace Yaml.Node

variable {root : Node} {room depth id : Nat} {inside : List Nat}

theorem convert_scalar {kind : Kind} {text : Ragged} {d : Datum}
    (hkind : Scalar.hasTexts kind = true) (h : Scalar.value kind text = .ok d) :
    convert root (room + 1) inside depth (.scalar kind text) = (d, none) := by
  simp only [convert, hkind, h, if_true]

theorem foldl_earlier (ds : List Datum) :
    (ds.map fun d => (d, (none : Finding))).foldl (fun f p => earlier f p.2) none = none := by
  induction ds with
  | nil => rfl
  | cons d ds ih => exact ih

theorem convert_sequence {items : List Node} {ds : List Datum} (hid : id ∉ inside)
    (h : items.map (convert root room (id :: inside) (depth + 1)) = ds.map fun d => (d, none)) :
    convert root (room + 1) inside depth (.sequence id .sequence items) =
      (.list (some id) ds, none) := by
  have hcontains : inside.contains id = false := by simpa using hid
  simp only [convert, hcontains, Bool.false_eq_true, if_false, h, foldl_earlier, List.map_map,
    Function.comp_def, List.map_id']

/-- The key neither merges other entries nor stands in for its mapping. -/
def PlainKey (k : Node) : Prop := k.kind ≠ .merge ∧ plainKey k = k

theorem splitEntries_plain (entriesOf : Node → Option (List (Node × Node)))
    {entries : List (Node × Node)} (h : ∀ entry ∈ entries, PlainKey entry.1) :
    splitEntries root entriesOf entries = some ([], entries) := by
  induction entries with
  | nil => rfl
  | cons entry entries ih =>
    rcases entry with ⟨key, value⟩
    rw [List.forall_mem_cons] at h
    rcases h with ⟨⟨hmerge, hplain⟩, h⟩
    rw [splitEntries, ih h]
    dsimp only [Option.bind_eq_bind, Option.bind_some]
    split
    · exact absurd (by assumption) hmerge
    · exact absurd (by assumption) hmerge
    · rw [hplain]
      rfl

theorem entriesOf_plain {kind : Kind} {entries : List (Node × Node)}
    (h : ∀ entry ∈ entries, PlainKey entry.1) :
    entriesOf root (room + 1) [] (.mapping id kind entries) = some entries := by
  rw [entriesOf, splitEntries_plain _ h]
  rfl

/-- The entry is converted to an entry. -/
def Converts (root : Node) (room : Nat) (inside : List Nat) (depth : Nat)
    (entry : Node × Node) (d : Datum × Datum) : Prop :=
  convert root room inside depth entry.1 = (d.1, none) ∧ d.1.isKey = true ∧
    convert root room inside depth entry.2 = (d.2, none)

theorem insertEntry_of_new {key value : Datum} {found : List (Datum × Datum)}
    (h : ∀ entry ∈ found, Datum.sameKey entry.1 key = false) :
    Datum.insertEntry key value found = found ++ [(key, value)] := by
  induction found with
  | nil => rfl
  | cons entry found ih =>
    rw [List.forall_mem_cons] at h
    rw [Datum.insertEntry, h.1, ih h.2]
    rfl

theorem foldl_entries (late : Finding) {entries : List (Node × Node)} {ds : List (Datum × Datum)}
    (h : List.Forall₂ (Converts root room inside depth) entries ds) (found : List (Datum × Datum))
    (hnew : (found ++ ds).Pairwise fun a b => Datum.sameKey a.1 b.1 = false) :
    entries.foldl (fun (found, f) (k, v) =>
      let (k, g) := convert root room inside depth k
      let g := if k.isKey then g else earlier g late
      let (v, h) := convert root room inside depth v
      (Datum.insertEntry k v found, earlier (earlier f g) h)) (found, none) =
        (found ++ ds, none) := by
  -- the entries found so far are a part of all entries, so that the next key is new among them
  induction h generalizing found with
  | nil => rw [List.append_nil]; rfl
  | @cons entry d entries ds hentry _ ih =>
    rcases hentry with ⟨hkey, hiskey, hvalue⟩
    have hinsert : Datum.insertEntry d.1 d.2 found = found ++ [d] := by
      refine insertEntry_of_new fun entry hentry => ?_
      exact (List.pairwise_append.mp hnew).2.2 entry hentry d List.mem_cons_self
    rw [List.append_cons] at hnew ⊢
    rw [List.foldl_cons, ← ih _ hnew]
    simp only [hkey, hvalue, hiskey, if_true, hinsert]
    rfl

theorem convert_mapping {entries : List (Node × Node)} {ds : List (Datum × Datum)}
    (hid : id ∉ inside) (hplain : ∀ entry ∈ entries, PlainKey entry.1)
    (h : List.Forall₂ (Converts root room (id :: inside) (depth + 1)) entries ds)
    (hnew : ds.Pairwise fun a b => Datum.sameKey a.1 b.1 = false) :
    convert root (room + 1) inside depth (.mapping id .mapping entries) =
      (.record (some id) ds, none) := by
  have hcontains : inside.contains id = false := by simpa using hid
  have hfold := foldl_entries (some (depth + 1, .malformed)) h [] hnew
  simp only [convert, hcontains, Bool.false_eq_true, if_false, entriesOf_plain hplain]
  exact congrArg (fun found => (Datum.record (some id) found.1, found.2)) hfold

end Yaml.Node

/-! ## 4. Values -/

namespace Json

open Yaml (Loader Narrow Node)

theorem exists_key_of_mem_memberData (n : Nat) (members : List (String × Json)) :
    ∀ d ∈ memberData n members, ∃ k ∈ members.map Prod.fst, d.1 = .text k := by
  induction members generalizing n with
  | nil => exact nofun
  | cons member members ih =>
    rcases member with ⟨k, v⟩
    rw [memberData, List.forall_mem_cons]
    refine ⟨⟨k, List.mem_cons_self, rfl⟩, fun d hd => ?_⟩
    rcases ih _ d hd with ⟨k', hk', hd⟩
    exact ⟨k', List.mem_cons_of_mem _ hk', hd⟩

/-- Different keys are different as data. -/
theorem pairwise_memberData (n : Nat) {members : List (String × Json)}
    (h : LegibleMembers members) :
    (memberData n members).Pairwise fun a b => Datum.sameKey a.1 b.1 = false := by
  induction members generalizing n with
  | nil => exact .nil
  | cons member members ih =>
    rcases member with ⟨k, v⟩
    rw [LegibleMembers] at h
    rw [memberData, List.pairwise_cons]
    refine ⟨fun d hd => ?_, ih _ h.2.2.2⟩
    rcases exists_key_of_mem_memberData _ members d hd with ⟨k', hk', hd⟩
    have hne : k ≠ k' := by
      rintro rfl
      exact h.2.1 hk'
    rw [hd]
    exact beq_eq_false_iff_ne.mpr hne

theorem plainKey_memberNodes (n : Nat) (members : List (String × Json)) :
    ∀ entry ∈ memberNodes n members, Node.PlainKey entry.1 := by
  induction members generalizing n with
  | nil => exact nofun
  | cons member members ih =>
    rcases member with ⟨k, v⟩
    rw [memberNodes, List.forall_mem_cons]
    exact ⟨⟨by simp [keyNode, Node.kind], rfl⟩, ih _⟩

theorem datum_textOf_of_narrow {s : String} (h : Narrow s.toList) :
    Yaml.Scalar.datum (Yaml.textOf s.toList) = .text s := by
  have hchars : (Ragged.ofChars s.toList).text? = some s := Ragged.text?_ofString s
  rw [Yaml.textOf_of_narrow h, Yaml.Scalar.datum, hchars]

variable (root : Node)

theorem convert_keyNode {k : String} (h : LegibleKey k) (room depth : Nat) (inside : List Nat) :
    Node.convert root (room + 1) inside depth (keyNode k) = (.text k, none) :=
  Node.convert_scalar rfl (congrArg Except.ok (datum_textOf_of_narrow h.narrow))

-- Numbers only rise from a collection to those inside it, so that none is met inside itself.
mutual

/-- The node of a value is converted to its data, inside collections of lower numbers. -/
theorem convert_node : ∀ (j : Json) {room n depth : Nat} {inside : List Nat}, j.Legible →
    j.collections < room → Before inside n →
    Node.convert root room inside depth (j.node n) = (j.data n, none)
  | j, 0, _, _, _, _, hroom, _ => absurd hroom (Nat.not_lt_zero _)
  | .null, _ + 1, _, _, _, _, _, _ => Node.convert_scalar (by decide) rfl
  | .bool true, _ + 1, _, _, _, _, _, _ => Node.convert_scalar (by decide) rfl
  | .bool false, _ + 1, _, _, _, _, _, _ => Node.convert_scalar (by decide) rfl
  | .str _, _ + 1, _, _, _, _, _, _ => Node.convert_scalar rfl rfl
  | .arr items, room + 1, n, depth, inside, h, hroom, hinside => by
    rw [Legible] at h
    rw [collections] at hroom
    rw [node, data]
    apply Node.convert_sequence hinside.not_mem
    exact convert_itemNodes items h (Nat.lt_of_succ_lt_succ hroom) hinside.enter
  | .obj members, room + 1, n, depth, inside, h, hroom, hinside => by
    rw [Legible] at h
    rw [collections] at hroom
    rw [node, data]
    refine Node.convert_mapping hinside.not_mem (plainKey_memberNodes _ members) ?_
      (pairwise_memberData _ h)
    exact convert_memberNodes members h (Nat.lt_of_succ_lt_succ hroom) hinside.enter

theorem convert_itemNodes : ∀ (items : List Json) {room n depth : Nat} {inside : List Nat},
    LegibleItems items → itemCollections items < room → Before inside n →
    (itemNodes n items).map (Node.convert root room inside depth) =
      (itemData n items).map fun d => (d, none)
  | [], _, _, _, _, _, _, _ => rfl
  | v :: vs, room, n, depth, inside, h, hroom, hinside => by
    rw [LegibleItems] at h
    rw [itemCollections] at hroom
    rw [itemNodes, itemData, List.map_cons, List.map_cons,
      convert_node v h.1 (by omega) hinside,
      convert_itemNodes vs h.2 (by omega) (hinside.add v.collections)]

theorem convert_memberNodes : ∀ (members : List (String × Json)) {room n depth : Nat}
    {inside : List Nat}, LegibleMembers members → memberCollections members < room →
    Before inside n →
    List.Forall₂ (Node.Converts root room inside depth) (memberNodes n members)
      (memberData n members)
  | [], _, _, _, _, _, _, _ => .nil
  | (k, v) :: members, 0, _, _, _, _, hroom, _ => absurd hroom (Nat.not_lt_zero _)
  | (k, v) :: members, room + 1, n, depth, inside, h, hroom, hinside => by
    rw [LegibleMembers] at h
    rw [memberCollections] at hroom
    rw [memberNodes, memberData]
    apply List.Forall₂.cons
    · exact ⟨convert_keyNode root h.1 room depth inside, rfl,
        convert_node v h.2.2.1 (by omega) hinside⟩
    · exact convert_memberNodes members h.2.2.2 (by omega) (hinside.add v.collections)

end

/-- **A value that is written is read back**, but for characters that come back in halves. -/
theorem read_write {j : Json} (h : j.Legible) {loader : Loader}
    (hstack : loader.exhausts (j.write true) = false) :
    Yaml.read loader (j.write true) = .ok (j.data 0) := by
  have hconvert : Node.convert (j.node 0) ((j.node 0).collections + 1) [] 0 (j.node 0) =
      (j.data 0, none) := by
    rw [collections_node]
    exact convert_node (j.node 0) j h (Nat.lt_succ_self _) nofun
  have hdatum : (j.node 0).datum = .ok (j.data 0) := by
    rw [Node.datum, hconvert]
  unfold Yaml.read
  rw [hstack, toList_write, Node.ofChars_chars h]
  exact hdatum

end Json

end UiTree
