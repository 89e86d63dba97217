import UiTree.Proofs.Yaml.Json.Tokens
import UiTree.Yaml.Node

/-!
# Nodes of JSON — the tree that the tokens of a value spell

From the tokens of a value the reader builds the node of the same shape.  Nothing is anchored and
nothing is tagged, so that of what the reader keeps only the tokens and the number of collections
change.
-/

namespace UiTree

open UiTree.Text

/-! ## 1. Nodes of values -/

namespace Json

open Yaml (Node Kind textOf)

mutual

/-- How many collections a value holds, itself included. -/
def collections : Json → Nat
  | .arr items => itemCollections items + 1
  | .obj members => memberCollections members + 1
  | _ => 0

def itemCollections : List Json → Nat
  | [] => 0
  | v :: vs => collections v + itemCollections vs

def memberCollections : List (String × Json) → Nat
  | [] => 0
  | (_, v) :: rest => collections v + memberCollections rest

end

/-- The node of a key. -/
def keyNode (k : String) : Node := .scalar .text (textOf k.toList)

mutual

/-- The node of a value, its collections numbered from `n` on. -/
def node (n : Nat) : Json → Node
  | .arr items => .sequence n .sequence (itemNodes (n + 1) items)
  | .obj members => .mapping n .mapping (memberNodes (n + 1) members)
  | .str s => .scalar .text (textOf s.toList)
  | j => .scalar (.implied j.chars) (.ofChars j.chars)

def itemNodes (n : Nat) : List Json → List Node
  | [] => []
  | v :: vs => node n v :: itemNodes (n + collections v) vs

def memberNodes (n : Nat) : List (String × Json) → List (Node × Node)
  | [] => []
  | (k, v) :: rest => (keyNode k, node n v) :: memberNodes (n + collections v) rest

end

end Json

/-! ## 2. Steps of the reader -/

namespace Yaml.Node

open Json

variable {α β : Type} {p q r : Progress} {t : Token} {ts : List Token} {room : Nat}

/-- The reader gives `a` and comes from `p` to `q`. -/
def Gives (x : Reader α) (p : Progress) (a : α) (q : Progress) : Prop := x p = .ok (a, q)

theorem Gives.bind {x : Reader α} {k : α → Reader β} {a : α} {b : β} (h : Gives x p a q)
    (h' : Gives (k a) q b r) : Gives (x >>= k) p b r := by
  change (x p >>= fun s => k s.1 s.2) = _
  rw [h]
  exact h'

/-- A collection without an anchor takes the next number. -/
theorem Gives.collection {body : Nat → Reader Node} {node : Node}
    (h : Gives (body p.collections) { p with collections := p.collections + 1 } node q) :
    Gives (collection none body) p node q := by
  have hid : Gives freshId p p.collections { p with collections := p.collections + 1 } := rfl
  exact hid.bind (Gives.bind rfl (h.bind (Gives.bind rfl rfl)))

section

variable (block loose : Bool)

theorem gives_scalar (plain : Bool) (text : Ragged) :
    Gives (read block loose (room + 1)) { p with tokens := .scalar plain text :: ts }
      (.scalar (scalarKind none plain text) text) { p with tokens := ts } := rfl

theorem gives_plain (cs : List Char) :
    Gives (read block loose (room + 1)) { p with tokens := .scalar true (.ofChars cs) :: ts }
      (.scalar (.implied cs) (.ofChars cs)) { p with tokens := ts } := by
  have hkind : scalarKind none true (.ofChars cs) = .implied cs := by
    rw [scalarKind, kindOf, Bool.true_or, if_pos rfl, Ragged.toList_seen_ofChars]
  exact hkind ▸ gives_scalar block loose true (.ofChars cs)

theorem gives_sequence {items : List Node}
    (h : Gives (flowItems true room) { p with tokens := ts, collections := p.collections + 1 }
      items q) :
    Gives (read block loose (room + 1)) { p with tokens := .flowSequenceStart :: ts }
      (.sequence p.collections .sequence items) q := by
  have hread : Gives
      (Node.collection none fun id => return .sequence id .sequence (← flowItems true room))
      { p with tokens := ts } (.sequence p.collections .sequence items) q :=
    .collection (h.bind rfl)
  exact hread

theorem gives_mapping {entries : List (Node × Node)}
    (h : Gives (flowEntries true room) { p with tokens := ts, collections := p.collections + 1 }
      entries q) :
    Gives (read block loose (room + 1)) { p with tokens := .flowMappingStart :: ts }
      (.mapping p.collections .mapping entries) q := by
  have hread : Gives
      (Node.collection none fun id => return .mapping id .mapping (← flowEntries true room))
      { p with tokens := ts } (.mapping p.collections .mapping entries) q :=
    .collection (h.bind rfl)
  exact hread

end

theorem gives_itemsEnd (first : Bool) :
    Gives (flowItems first (room + 1)) { p with tokens := .flowSequenceEnd :: ts } []
      { p with tokens := ts } := rfl

theorem gives_entriesEnd (first : Bool) :
    Gives (flowEntries first (room + 1)) { p with tokens := .flowMappingEnd :: ts } []
      { p with tokens := ts } := rfl

/-- The tokens that a value starts with. -/
inductive Starts : Token → Prop
  | scalar (plain : Bool) (text : Ragged) : Starts (.scalar plain text)
  | sequence : Starts .flowSequenceStart
  | mapping : Starts .flowMappingStart

theorem gives_item (first : Bool) (ht : Starts t) {item : Node} {items : List Node}
    (h : Gives (read false false room) { p with tokens := t :: ts } item q)
    (h' : Gives (flowItems false room) q items r) :
    Gives (flowItems first (room + 1)) { p with tokens := comma first ++ t :: ts }
      (item :: items) r := by
  have hboth : Gives (do
      let item ← read false false room
      return item :: (← flowItems false room)) { p with tokens := t :: ts } (item :: items) r :=
    h.bind (h'.bind rfl)
  -- with the first token known, the steps before the item are those of `hboth`
  cases first <;> cases ht <;> exact hboth

theorem gives_entry (first : Bool) (ht : Starts t) (text : Ragged) {value : Node}
    {entries : List (Node × Node)}
    (h : Gives (read false false (room + 1)) { p with tokens := t :: ts } value q)
    (h' : Gives (flowEntries false (room + 1)) q entries r) :
    Gives (flowEntries first (room + 2))
      { p with tokens := comma first ++ .key :: .scalar false text :: .value :: t :: ts }
      ((.scalar .text text, value) :: entries) r := by
  -- the key is a text, which is read at once
  have hboth : Gives (do
      let value ← read false false (room + 1)
      return (.scalar .text text, value) :: (← flowEntries false (room + 1)))
      { p with tokens := t :: ts } ((.scalar .text text, value) :: entries) r :=
    h.bind (h'.bind rfl)
  cases first <;> cases ht <;> exact hboth

/-! ## 3. Values -/

theorem exists_tokens_eq (j : Json) : ∃ t ts, j.tokens = t :: ts ∧ Starts t := by
  cases j <;> exact ⟨_, _, rfl, by constructor⟩

theorem length_tokens_pos (j : Json) : 0 < j.tokens.length := by
  rcases exists_tokens_eq j with ⟨t, ts, htokens, -⟩
  rw [htokens]
  exact Nat.succ_pos _

theorem length_itemTokens_pos (first : Bool) (items : List Json) :
    0 < (itemTokens first items).length := by
  cases items with
  | nil => exact Nat.one_pos
  | cons v vs =>
    have hv := length_tokens_pos v
    rw [itemTokens, List.length_append, List.length_append]
    omega

theorem length_memberTokens_pos (first : Bool) (members : List (String × Json)) :
    0 < (memberTokens first members).length := by
  rcases members with _ | ⟨⟨k, v⟩, members⟩
  · exact Nat.one_pos
  · rw [memberTokens, List.length_append, List.length_cons]
    omega

variable (p : Progress)

-- A step of the reader goes down to a part of the value or past one of its tokens, so that as much
-- room as there are tokens is enough.
mutual

/-- The tokens of a value give its node, whatever follows them. -/
theorem gives_node (block loose : Bool) : ∀ (j : Json) {room n : Nat} (more : List Token),
    j.tokens.length ≤ room → Gives (read block loose room)
      { p with tokens := j.tokens ++ more, collections := n } (j.node n)
      { p with tokens := more, collections := n + j.collections }
  | j, 0, n, more, hroom => absurd hroom (Nat.not_le_of_lt (length_tokens_pos j))
  | .arr items, room + 1, n, more, hroom => by
    rw [Json.tokens, List.length_cons] at hroom
    have hitems := gives_itemNodes true items (n := n + 1) more (Nat.le_of_succ_le_succ hroom)
    rw [Json.tokens, node, Json.collections, Nat.add_comm (itemCollections items), ← Nat.add_assoc]
    exact gives_sequence (p := { p with collections := n }) block loose hitems
  | .obj members, room + 1, n, more, hroom => by
    rw [Json.tokens, List.length_cons] at hroom
    have hmembers := gives_memberNodes true members (n := n + 1) more (Nat.le_of_succ_le_succ hroom)
    rw [Json.tokens, node, Json.collections, Nat.add_comm (memberCollections members),
      ← Nat.add_assoc]
    exact gives_mapping (p := { p with collections := n }) block loose hmembers
  | .str _, _ + 1, n, _, _ => gives_scalar (p := { p with collections := n }) block loose false _
  | .null, _ + 1, n, _, _ | .bool _, _ + 1, n, _, _ | .int _, _ + 1, n, _, _
  | .real _, _ + 1, n, _, _ => gives_plain (p := { p with collections := n }) block loose _

theorem gives_itemNodes (first : Bool) : ∀ (items : List Json) {room n : Nat} (more : List Token),
    (itemTokens first items).length ≤ room → Gives (flowItems first room)
      { p with tokens := itemTokens first items ++ more, collections := n } (itemNodes n items)
      { p with tokens := more, collections := n + itemCollections items }
  | items, 0, _, _, hroom => absurd hroom (Nat.not_le_of_lt (length_itemTokens_pos first items))
  | [], _ + 1, n, _, _ => gives_itemsEnd (p := { p with collections := n }) first
  | v :: vs, room + 1, n, more, hroom => by
    rcases exists_tokens_eq v with ⟨t, ts, htokens, hstarts⟩
    have hpos := length_tokens_pos v
    have hmore := length_itemTokens_pos false vs
    rw [itemTokens, List.length_append, List.length_append] at hroom
    have hv : v.tokens.length ≤ room := by omega
    have hvs : (itemTokens false vs).length ≤ room := by omega
    have hitem := gives_node false false v (n := n) (itemTokens false vs ++ more) hv
    have hitems := gives_itemNodes false vs (n := n + v.collections) more hvs
    rw [itemTokens, itemNodes, itemCollections, ← Nat.add_assoc, List.append_assoc,
      List.append_assoc]
    rw [htokens, List.cons_append] at hitem ⊢
    exact gives_item (p := { p with collections := n }) first hstarts hitem hitems

theorem gives_memberNodes (first : Bool) : ∀ (members : List (String × Json)) {room n : Nat}
    (more : List Token), (memberTokens first members).length ≤ room →
    Gives (flowEntries first room)
      { p with tokens := memberTokens first members ++ more, collections := n }
      (memberNodes n members)
      { p with tokens := more, collections := n + memberCollections members }
  | members, 0, _, _, hroom =>
    absurd hroom (Nat.not_le_of_lt (length_memberTokens_pos first members))
  | [], _ + 1, n, _, _ => gives_entriesEnd (p := { p with collections := n }) first
  | (k, v) :: members, 1, _, _, hroom => by
    rw [memberTokens, List.length_append, List.length_cons, List.length_cons] at hroom
    omega
  | (k, v) :: members, room + 2, n, more, hroom => by
    rcases exists_tokens_eq v with ⟨t, ts, htokens, hstarts⟩
    rw [memberTokens, List.length_append, List.length_cons, List.length_cons, List.length_cons,
      List.length_append] at hroom
    have hroom : v.tokens.length + (memberTokens false members).length ≤ room + 1 := by omega
    have hvalue := gives_node false false v (n := n) (memberTokens false members ++ more)
      (Nat.le_trans (Nat.le_add_right _ _) hroom)
    have hmembers := gives_memberNodes false members (n := n + v.collections) more
      (Nat.le_trans (Nat.le_add_left _ _) hroom)
    rw [memberTokens, memberNodes, memberCollections, ← Nat.add_assoc, List.append_assoc,
      List.cons_append, List.cons_append, List.cons_append, List.append_assoc]
    rw [htokens, List.cons_append] at hvalue ⊢
    exact gives_entry (p := { p with collections := n }) first hstarts _ hvalue hmembers

end

/-! ## 4. Texts -/

theorem gives_document (j : Json) {room : Nat} (hroom : j.tokens.length ≤ room) :
    Gives (document room) { p with tokens := j.tokens ++ [.finish], collections := 0 }
      (some (j.node 0)) { p with tokens := [.finish], collections := 0 + j.collections } := by
  rcases exists_tokens_eq j with ⟨t, ts, htokens, hstarts⟩
  have hends : ∀ q : Progress, room ≠ 0 →
      Gives (onlyEnds room) { q with tokens := [.finish] } () { q with tokens := [.finish] } := by
    intro q hne
    rcases Nat.exists_eq_succ_of_ne_zero hne with ⟨room, rfl⟩
    rfl
  have hpos : room ≠ 0 := Nat.ne_of_gt (Nat.lt_of_lt_of_le (length_tokens_pos j) hroom)
  have hboth : Gives (do
      let node ← read true false room
      onlyEnds room
      return some node) { p with tokens := j.tokens ++ [.finish], collections := 0 }
      (some (j.node 0)) { p with tokens := [.finish], collections := 0 + j.collections } :=
    (gives_node p true false j [.finish] hroom).bind
      ((hends { p with collections := 0 + j.collections } hpos).bind rfl)
  rw [htokens] at hboth ⊢
  cases hstarts <;> exact hboth

/-- **A value spells its node.** -/
theorem ofChars_chars {j : Json} (h : j.Legible) : ofChars j.chars = .ok (some (j.node 0)) := by
  have hroom : j.tokens.length ≤ 3 * (j.tokens ++ [Token.finish]).length + 3 := by
    rw [List.length_append]
    omega
  have hdocument := gives_document
    { tokens := [], ending := .malformed, handles := standardHandles } j hroom
  unfold Gives at hdocument
  unfold ofChars
  rw [tokens_chars h]
  dsimp only
  rw [StateT.run', Option.getD_none, hdocument]
  rfl

end Yaml.Node

end UiTree
