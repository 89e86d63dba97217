import UiTree.Proofs.Json.Members
import UiTree.Proofs.Json.Text
import UiTree.Proofs.Text.Pieces

/-!
# Reading — values that were written, read again

A value without reals whose objects have no key twice is what is read of the text it is written as,
whether characters beyond ASCII are escaped or not.  Such a text has no control characters, and so
no line breaks.
-/

namespace UiTree.Json

open UiTree.Number UiTree.Text

variable {ascii : Bool} {rest : List Char}

/-! ## 1. Values without reals -/

mutual

/-- There are no reals in the value, and no object has a key twice. -/
def Exact : Json → Prop
  | .arr items => ExactItems items
  | .obj members => (keys members).Nodup ∧ ExactMembers members
  | .real _ => False
  | .null | .bool _ | .int _ | .str _ => True

def ExactItems : List Json → Prop
  | [] => True
  | v :: vs => Exact v ∧ ExactItems vs

def ExactMembers : List (String × Json) → Prop
  | [] => True
  | (_, v) :: rest => Exact v ∧ ExactMembers rest

end

theorem exactMembers_iff (members : List (String × Json)) :
    ExactMembers members ↔ ∀ member ∈ members, member.2.Exact := by
  induction members with
  | nil => simp [ExactMembers]
  | cons member members ih =>
    rw [List.forall_mem_cons, ← ih]
    rfl

/-! ## 2. Written collections -/

/-- A member as it is written. -/
def writtenMember (ascii : Bool) (member : String × Json) : List Char :=
  writeChars ascii member.1.toList ++ ':' :: ' ' :: (member.2.write ascii).toList

theorem writeItems_eq_map (items : List Json) :
    writeItems ascii items = items.map (·.write ascii) := by
  induction items with
  | nil => rfl
  | cons v vs ih => rw [writeItems, List.map_cons, ih]

theorem map_toList_writeMembers_eq (members : List (String × Json)) :
    (writeMembers ascii members).map String.toList = members.map (writtenMember ascii) := by
  induction members with
  | nil => rfl
  | cons member members ih =>
    rw [writeMembers, List.map_cons, List.map_cons, ih, writtenMember, String.toList_append,
      String.toList_append, toList_writeString, List.append_assoc]
    rfl

/-- Written pieces of a collection, up to the closing mark and what follows it. -/
def closedBy (close : Char) (rest : List Char) (pieces : List (List Char)) : List Char :=
  [',', ' '].intercalate pieces ++ close :: rest

theorem toList_write_arr (ascii : Bool) (rest : List Char) (items : List Json) :
    ((arr items).write ascii).toList ++ rest =
      '[' :: closedBy ']' rest (items.map fun v => (v.write ascii).toList) := by
  rw [write, String.toList_append, String.toList_append, String.toList_intercalate,
    writeItems_eq_map, List.map_map, closedBy]
  simp [Function.comp_def]

theorem toList_write_obj (ascii : Bool) (rest : List Char) (members : List (String × Json)) :
    ((obj members).write ascii).toList ++ rest =
      '\x7b' :: closedBy '\x7d' rest (members.map (writtenMember ascii)) := by
  rw [write, String.toList_append, String.toList_append, String.toList_intercalate,
    map_toList_writeMembers_eq, closedBy]
  simp

variable {close : Char} {piece : List Char} {pieces : List (List Char)}

theorem closedBy_singleton : closedBy close rest [piece] = piece ++ close :: rest := by
  rw [closedBy, List.intercalate_singleton]

theorem closedBy_cons (h : pieces ≠ []) :
    closedBy close rest (piece :: pieces) = piece ++ ',' :: ' ' :: closedBy close rest pieces := by
  rw [closedBy, List.intercalate_cons_of_ne_nil h, closedBy]
  simp

theorem length_pieces_le (pieces : List (List Char)) :
    pieces.length ≤ (closedBy close rest pieces).length := by
  induction pieces with
  | nil => exact Nat.zero_le _
  | cons piece pieces ih =>
    by_cases hlast : pieces = []
    · subst hlast
      rw [closedBy_singleton, List.length_append, List.length_singleton, List.length_cons]
      omega
    · rw [closedBy_cons hlast, List.length_append, List.length_cons, List.length_cons,
        List.length_cons]
      omega

theorem length_le_closedBy {α : Type} (xs : List α) (f : α → List Char) :
    xs.length ≤ (closedBy close rest (xs.map f)).length := by
  simpa using length_pieces_le (xs.map f)

theorem length_piece_lt (close : Char) (rest : List Char) (h : piece ∈ pieces) :
    piece.length < (closedBy close rest pieces).length := by
  induction pieces with
  | nil => cases h
  | cons first pieces ih =>
    by_cases hlast : pieces = []
    · subst hlast
      rw [List.mem_singleton] at h
      rw [closedBy_singleton, h, List.length_append, List.length_cons]
      omega
    · rw [closedBy_cons hlast, List.length_append, List.length_cons, List.length_cons]
      rcases List.mem_cons.mp h with rfl | h
      · omega
      · have hlength := ih h
        omega

theorem exists_closedBy_eq_cons (close : Char) (rest : List Char) (pieces : List (List Char))
    (c : Char) (cs : List Char) : ∃ ds, closedBy close rest ((c :: cs) :: pieces) = c :: ds := by
  by_cases hlast : pieces = []
  · subst hlast
    exact ⟨cs ++ close :: rest, closedBy_singleton⟩
  · exact ⟨_, closedBy_cons hlast⟩

theorem length_item_lt {items : List Json} {v : Json} (h : v ∈ items) :
    (v.write ascii).toList.length + 1 < ((arr items).write ascii).toList.length := by
  have hlength := congrArg List.length (toList_write_arr ascii [] items)
  have hpiece := length_piece_lt ']' []
    (List.mem_map_of_mem (f := fun v : Json => (v.write ascii).toList) h)
  rw [List.append_nil, List.length_cons] at hlength
  omega

theorem length_member_lt {members : List (String × Json)} {member : String × Json}
    (h : member ∈ members) :
    (member.2.write ascii).toList.length + 1 < ((obj members).write ascii).toList.length := by
  have hlength := congrArg List.length (toList_write_obj ascii [] members)
  have hpiece := length_piece_lt '\x7d' []
    (List.mem_map_of_mem (f := writtenMember ascii) h)
  rw [List.append_nil, List.length_cons] at hlength
  rw [writtenMember, List.length_append, List.length_cons, List.length_cons] at hpiece
  omega

/-! ## 3. First characters -/

theorem toList_toString (i : Int) :
    (toString i).toList = if 0 ≤ i then Nat.toDigits 10 i.toNat
      else '-' :: Nat.toDigits 10 (-i).toNat := by
  rw [Int.toString_eq_repr, Int.repr_eq_if]
  split
  · rw [Nat.toList_repr]
  · rw [String.toList_append, Nat.toList_repr]
    rfl

theorem exists_toDigits_eq_cons (n : Nat) :
    ∃ c cs, Nat.toDigits 10 n = c :: cs ∧ isAsciiDigit c = true := by
  rcases List.exists_cons_of_ne_nil (Nat.toDigits_ne_nil : Nat.toDigits 10 n ≠ []) with
    ⟨c, cs, hdigits⟩
  exact ⟨c, cs, hdigits, isAsciiDigit_of_mem_toDigits (by rw [hdigits]; exact List.mem_cons_self)⟩

/-- What a written value can begin with. -/
def Opens (c : Char) : Prop := c ∈ ['n', 't', 'f', '-', '"', '[', '\x7b'] ∨ isAsciiDigit c = true

instance (c : Char) : Decidable (Opens c) := inferInstanceAs (Decidable (_ ∨ _))

theorem Opens.not_isSpace {c : Char} (h : Opens c) : isSpace c = false := by
  rcases h with h | h
  · have hall : ['n', 't', 'f', '-', '"', '[', '\x7b'].all (!isSpace ·) = true := by decide
    simpa using List.all_eq_true.mp hall c h
  · by_contra hspace
    rw [Bool.not_eq_false] at hspace
    simp only [isSpace, Bool.or_eq_true, beq_iff_eq] at hspace
    rcases hspace with ((rfl | rfl) | rfl) | rfl <;> exact absurd h (by decide)

theorem Opens.ne {c close : Char} (h : Opens c) (hclose : close = ']' ∨ close = '\x7d') :
    c ≠ close := by
  rintro rfl
  rcases hclose with rfl | rfl <;> exact absurd h (by decide)

theorem exists_write_eq_cons (ascii : Bool) (v : Json) (h : v.Exact) :
    ∃ c cs, (v.write ascii).toList = c :: cs ∧ Opens c := by
  cases v with
  | null => exact ⟨'n', _, by rw [write]; rfl, by decide⟩
  | bool b =>
    cases b with
    | true => exact ⟨'t', _, by rw [write]; rfl, by decide⟩
    | false => exact ⟨'f', _, by rw [write]; rfl, by decide⟩
  | int i =>
    rw [write, toList_toString]
    split
    · rcases exists_toDigits_eq_cons i.toNat with ⟨c, cs, hdigits, hc⟩
      exact ⟨c, cs, hdigits, .inr hc⟩
    · exact ⟨_, _, rfl, by decide⟩
  | real x => exact h.elim
  | str s => exact ⟨_, _, toList_writeString s, by decide⟩
  | arr items =>
    have hwrite := toList_write_arr ascii [] items
    rw [List.append_nil] at hwrite
    exact ⟨_, _, hwrite, by decide⟩
  | obj members =>
    have hwrite := toList_write_obj ascii [] members
    rw [List.append_nil] at hwrite
    exact ⟨_, _, hwrite, by decide⟩

theorem exists_items_eq_cons (ascii : Bool) (rest : List Char) {items : List Json}
    (hne : items ≠ []) (h : ExactItems items) :
    ∃ c cs, closedBy ']' rest (items.map fun v => (v.write ascii).toList) = c :: cs ∧ Opens c := by
  rcases List.exists_cons_of_ne_nil hne with ⟨v, vs, rfl⟩
  rcases exists_write_eq_cons ascii v h.1 with ⟨c, ds, hwrite, hopens⟩
  rcases exists_closedBy_eq_cons ']' rest (vs.map fun v => (v.write ascii).toList) c ds
    with ⟨cs, htext⟩
  rw [List.map_cons, hwrite]
  exact ⟨c, cs, htext, hopens⟩

theorem exists_members_eq_cons (ascii : Bool) (rest : List Char) {members : List (String × Json)}
    (hne : members ≠ []) :
    ∃ cs, closedBy '\x7d' rest (members.map (writtenMember ascii)) = '"' :: cs := by
  rcases List.exists_cons_of_ne_nil hne with ⟨member, members, rfl⟩
  exact exists_closedBy_eq_cons _ _ _ '"' _

/-! ## 4. Reading -/

theorem skipSpace_cons {c : Char} (h : isSpace c = false) (cs : List Char) :
    skipSpace (c :: cs) = c :: cs := List.dropWhile_cons_of_neg (by simp [h])

theorem readValue_blank (depth : Nat) (cs : List Char) :
    readValue depth (' ' :: cs) = readValue depth cs := by
  rw [readValue.eq_def, readValue.eq_def depth cs]
  rfl

theorem readItems_blank (depth room : Nat) (cs : List Char) :
    readItems depth room (' ' :: cs) = readItems depth room cs := by
  cases room with
  | zero => rw [readItems, readItems]
  | succ room => rw [readItems, readItems, readValue_blank]

theorem readMembers_blank (depth room : Nat) (cs : List Char) :
    readMembers depth room (' ' :: cs) = readMembers depth room cs := by
  rw [readMembers.eq_def, readMembers.eq_def depth room cs]
  rfl

theorem writeChars_append (cs rest : List Char) :
    writeChars ascii cs ++ rest = '"' :: (cs.flatMap (writeChar ascii) ++ '"' :: rest) := by
  simp [writeChars]

theorem readValue_text (depth : Nat) (cs rest : List Char) :
    readValue (depth + 1) (writeChars ascii cs ++ rest) =
      some (.str (String.ofList cs), rest) := by
  rw [writeChars_append, readValue.eq_def, skipSpace_cons (by decide)]
  simp only [readText_writeChars]
  rfl

theorem readValue_atom (depth : Nat) {c : Char} {cs : List Char} (h : isSpace c = false)
    (hc : c ∉ ['"', '[', '\x7b']) :
    readValue (depth + 1) (c :: cs) = readAtom (c :: cs) := by
  simp only [List.mem_cons, List.not_mem_nil, or_false, not_or] at hc
  rw [readValue.eq_def, skipSpace_cons h]
  split
  · rename_i heq
    cases heq
  · rename_i heq
    exact absurd (List.cons.inj heq).1 hc.1
  · rename_i heq
    exact absurd (List.cons.inj heq).1 hc.2.1
  · rename_i heq
    exact absurd (List.cons.inj heq).1 hc.2.2
  · rfl

theorem readAtom_toDigits (n : Nat) (h : Closed rest) :
    readAtom (Nat.toDigits 10 n ++ rest) = some (.int n, rest) := by
  have hmagnitude := readMagnitude_toDigits false n h
  rcases exists_toDigits_eq_cons n with ⟨c, cs, hdigits, hc⟩
  rw [hdigits, List.cons_append] at hmagnitude ⊢
  have hword : ∀ d ds, c :: (cs ++ rest) = d :: ds → d ∉ ['n', 't', 'f', '-'] := by
    intro d ds heq hd
    have hall : ['n', 't', 'f', '-'].all (!isAsciiDigit ·) = true := by decide
    have hword := List.all_eq_true.mp hall d hd
    rw [← (List.cons.inj heq).1, hc] at hword
    cases hword
  unfold readAtom
  split
  case h_5 => exact hmagnitude
  all_goals
    rename_i heq
    exact absurd (by decide) (hword _ _ heq)

theorem readValue_int (depth : Nat) (i : Int) (h : Closed rest) :
    readValue (depth + 1) ((toString i).toList ++ rest) = some (.int i, rest) := by
  rw [toList_toString]
  split
  · have hatom := readAtom_toDigits i.toNat h
    rw [Int.toNat_of_nonneg ‹0 ≤ i›] at hatom
    rcases exists_toDigits_eq_cons i.toNat with ⟨c, cs, hdigits, hc⟩
    rw [hdigits, List.cons_append] at hatom ⊢
    rw [readValue_atom depth (Opens.not_isSpace (.inr hc)), hatom]
    intro hmem
    have hall : ['"', '[', '\x7b'].all (!isAsciiDigit ·) = true := by decide
    have hmark := List.all_eq_true.mp hall c hmem
    rw [hc] at hmark
    cases hmark
  · rw [List.cons_append, readValue_atom depth (by decide) (by decide), readAtom,
      readMagnitude_toDigits true _ h, if_pos rfl]
    congr 3
    omega

theorem readValue_arr_nil (depth : Nat) (rest : List Char) :
    readValue (depth + 1) ('[' :: ']' :: rest) = some (.arr [], rest) := by
  rw [readValue.eq_def, skipSpace_cons (by decide)]
  simp only [skipSpace_cons (show isSpace ']' = false by decide)]

theorem readValue_arr (depth : Nat) {c : Char} (cs : List Char) (h : Opens c) :
    readValue (depth + 1) ('[' :: c :: cs) =
      (readItems depth (c :: cs).length (c :: cs)).map fun (items, rest) => (.arr items, rest) := by
  rw [readValue.eq_def, skipSpace_cons (by decide)]
  simp only [skipSpace_cons h.not_isSpace]
  split
  · rename_i heq
    exact absurd (List.cons.inj heq).1 (h.ne (.inl rfl))
  · rfl

theorem readValue_obj_nil (depth : Nat) (rest : List Char) :
    readValue (depth + 1) ('\x7b' :: '\x7d' :: rest) = some (.obj [], rest) := by
  rw [readValue.eq_def, skipSpace_cons (by decide)]
  simp only [skipSpace_cons (show isSpace '\x7d' = false by decide)]

theorem readValue_obj (depth : Nat) {c : Char} (cs : List Char) (h : Opens c) :
    readValue (depth + 1) ('\x7b' :: c :: cs) =
      (readMembers depth (c :: cs).length (c :: cs)).map
        fun (members, rest) => (.obj (ofPairs members), rest) := by
  rw [readValue.eq_def, skipSpace_cons (by decide)]
  simp only [skipSpace_cons h.not_isSpace]
  split
  · rename_i heq
    exact absurd (List.cons.inj heq).1 (h.ne (.inr rfl))
  · rfl

section

variable {depth room : Nat} {cs : List Char} {v : Json}

theorem readItems_last (h : readValue depth cs = some (v, ']' :: rest)) :
    readItems depth (room + 1) cs = some ([v], rest) := by
  rw [readItems, h]
  simp only [skipSpace_cons (show isSpace ']' = false by decide)]

theorem readItems_more (h : readValue depth cs = some (v, ',' :: ' ' :: rest)) :
    readItems depth (room + 1) cs =
      (readItems depth room rest).map fun (vs, rest) => (v :: vs, rest) := by
  rw [readItems, h]
  simp only [skipSpace_cons (show isSpace ',' = false by decide), readItems_blank]

theorem readMembers_last (k : String) (h : readValue depth cs = some (v, '\x7d' :: rest)) :
    readMembers depth (room + 1) (writeChars ascii k.toList ++ ':' :: ' ' :: cs) =
      some ([(k, v)], rest) := by
  rw [writeChars_append, readMembers.eq_def]
  simp only [skipSpace_cons (show isSpace '"' = false by decide), readText_writeChars,
    skipSpace_cons (show isSpace ':' = false by decide), readValue_blank, h,
    skipSpace_cons (show isSpace '\x7d' = false by decide), List.reverse_nil, List.nil_append,
    String.ofList_toList]

theorem readMembers_more (k : String) (h : readValue depth cs = some (v, ',' :: ' ' :: rest)) :
    readMembers depth (room + 1) (writeChars ascii k.toList ++ ':' :: ' ' :: cs) =
      (readMembers depth room rest).map fun (members, rest) => ((k, v) :: members, rest) := by
  rw [writeChars_append, readMembers.eq_def]
  simp only [skipSpace_cons (show isSpace '"' = false by decide), readText_writeChars,
    skipSpace_cons (show isSpace ':' = false by decide), readValue_blank, h,
    skipSpace_cons (show isSpace ',' = false by decide), List.reverse_nil, List.nil_append,
    String.ofList_toList, readMembers_blank]

end

/-! ## 5. Round trips -/

-- A collection is read one level further in, and each of its values is shorter than it is: so the
-- length of a value is enough of a depth to read it with.
mutual

theorem readValue_write : ∀ (v : Json) {depth : Nat} {rest : List Char}, v.Exact →
    (v.write ascii).toList.length ≤ depth → Closed rest →
    readValue (depth + 1) ((v.write ascii).toList ++ rest) = some (v, rest)
  | .null, depth, rest => fun _ _ _ => by
    rw [write]
    exact readValue_atom depth (by decide) (by decide)
  | .bool true, depth, rest => fun _ _ _ => by
    rw [write, if_pos rfl]
    exact readValue_atom depth (by decide) (by decide)
  | .bool false, depth, rest => fun _ _ _ => by
    rw [write, if_neg Bool.false_ne_true]
    exact readValue_atom depth (by decide) (by decide)
  | .int i, depth, rest => fun _ _ hrest => by
    rw [write]
    exact readValue_int depth i hrest
  | .real _, _, _ => fun hexact _ _ => hexact.elim
  | .str s, depth, rest => fun _ _ _ => by
    rw [write, toList_writeString, readValue_text, String.ofList_toList]
  | .arr items, depth, rest => fun hexact hdepth _ => by
    rw [Exact] at hexact
    rw [toList_write_arr]
    by_cases hempty : items = []
    · subst hempty
      exact readValue_arr_nil depth rest
    · have hshort : ∀ v ∈ items, (v.write ascii).toList.length < depth := fun v hv =>
        Nat.lt_of_succ_lt (Nat.lt_of_lt_of_le (length_item_lt hv) hdepth)
      rcases exists_items_eq_cons ascii rest hempty hexact with ⟨c, cs, htext, hopens⟩
      rw [htext, readValue_arr depth cs hopens, ← htext,
        readItems_write items hempty hexact hshort (length_le_closedBy _ _)]
      rfl
  | .obj members, depth, rest => fun hexact hdepth _ => by
    rw [Exact] at hexact
    rw [toList_write_obj]
    by_cases hempty : members = []
    · subst hempty
      exact readValue_obj_nil depth rest
    · have hshort : ∀ m ∈ members, (m.2.write ascii).toList.length < depth := fun m hm =>
        Nat.lt_of_succ_lt (Nat.lt_of_lt_of_le (length_member_lt hm) hdepth)
      rcases exists_members_eq_cons ascii rest hempty with ⟨cs, htext⟩
      rw [htext, readValue_obj depth cs (by decide), ← htext,
        readMembers_write members hempty hexact.2 hshort (length_le_closedBy _ _)]
      exact congrArg (fun members => some (obj members, rest)) (ofPairs_of_nodup hexact.1)

theorem readItems_write : ∀ (items : List Json) {depth room : Nat} {rest : List Char},
    items ≠ [] → ExactItems items → (∀ v ∈ items, (v.write ascii).toList.length < depth) →
    items.length ≤ room →
    readItems depth room (closedBy ']' rest (items.map fun v => (v.write ascii).toList)) =
      some (items, rest)
  | [], _, _, _, hne, _, _, _ => absurd rfl hne
  | v :: vs, depth, room, rest, _, hexact, hdepth, hroom => by
    rcases Nat.exists_eq_succ_of_ne_zero (Nat.ne_of_gt (Nat.lt_of_lt_of_le (Nat.succ_pos _) hroom))
      with ⟨room, rfl⟩
    rw [List.forall_mem_cons] at hdepth
    rcases Nat.exists_eq_succ_of_ne_zero (Nat.ne_of_gt (Nat.zero_lt_of_lt hdepth.1))
      with ⟨depth, rfl⟩
    have hvalue := fun {rest : List Char} (hrest : Closed rest) =>
      readValue_write v hexact.1 (Nat.le_of_lt_succ hdepth.1) hrest
    rw [List.map_cons]
    by_cases hlast : vs = []
    · subst hlast
      rw [List.map_nil, closedBy_singleton]
      exact readItems_last (hvalue (closed_cons (.inr (.inl rfl)) rest))
    -- the comma behind the first value closes it
    · rw [closedBy_cons (mt List.map_eq_nil_iff.mp hlast),
        readItems_more (hvalue (closed_cons (.inl rfl) _)),
        readItems_write vs hlast hexact.2 hdepth.2 (Nat.le_of_succ_le_succ hroom)]
      rfl

theorem readMembers_write : ∀ (members : List (String × Json)) {depth room : Nat}
    {rest : List Char}, members ≠ [] → ExactMembers members →
    (∀ m ∈ members, (m.2.write ascii).toList.length < depth) → members.length ≤ room →
    readMembers depth room (closedBy '\x7d' rest (members.map (writtenMember ascii))) =
      some (members, rest)
  | [], _, _, _, hne, _, _, _ => absurd rfl hne
  | (k, v) :: members, depth, room, rest, _, hexact, hdepth, hroom => by
    rcases Nat.exists_eq_succ_of_ne_zero (Nat.ne_of_gt (Nat.lt_of_lt_of_le (Nat.succ_pos _) hroom))
      with ⟨room, rfl⟩
    rw [List.forall_mem_cons] at hdepth
    rcases Nat.exists_eq_succ_of_ne_zero (Nat.ne_of_gt (Nat.zero_lt_of_lt hdepth.1))
      with ⟨depth, rfl⟩
    have hvalue := fun {rest : List Char} (hrest : Closed rest) =>
      readValue_write v hexact.1 (Nat.le_of_lt_succ hdepth.1) hrest
    rw [List.map_cons]
    by_cases hlast : members = []
    · subst hlast
      rw [List.map_nil, closedBy_singleton, writtenMember, List.append_assoc, List.cons_append,
        List.cons_append]
      exact readMembers_last k (hvalue (closed_cons (.inr (.inr rfl)) rest))
    · rw [closedBy_cons (mt List.map_eq_nil_iff.mp hlast), writtenMember, List.append_assoc,
        List.cons_append, List.cons_append,
        readMembers_more k (hvalue (closed_cons (.inl rfl) _)),
        readMembers_write members hlast hexact.2 hdepth.2 (Nat.le_of_succ_le_succ hroom)]
      rfl

end

/-- **A value reads back** from the text it is written as. -/
theorem read?_write {v : Json} (h : v.Exact) : read? (v.write ascii) = some v := by
  have hvalue : readValue _ ((v.write ascii).toList ++ []) = some (v, []) :=
    readValue_write v h (Nat.le_refl _) closed_nil
  rw [List.append_nil] at hvalue
  rw [read?]
  simp only [hvalue]
  rfl

/-! ## 6. Texts without control characters -/

/-- All characters are blanks or come after it. -/
def Uncontrolled (cs : List Char) : Prop := ∀ c ∈ cs, 0x20 ≤ c.toNat

instance (cs : List Char) : Decidable (Uncontrolled cs) := List.decidableBAll _ _

theorem uncontrolled_append {cs ds : List Char} (hcs : Uncontrolled cs) (hds : Uncontrolled ds) :
    Uncontrolled (cs ++ ds) := List.forall_mem_append.mpr ⟨hcs, hds⟩

theorem uncontrolled_hexDigits (width n : Nat) : Uncontrolled (hexDigits width n) := by
  induction width generalizing n with
  | zero => nofun
  | succ width ih =>
    have hall : ∀ m < 16, Uncontrolled [hexDigit m] := by decide
    exact uncontrolled_append (ih _) (hall _ (Nat.mod_lt n (by decide)))

theorem uncontrolled_unicodeEscape (n : Nat) : Uncontrolled (unicodeEscape n) :=
  uncontrolled_append (by decide : Uncontrolled ['\\', 'u']) (uncontrolled_hexDigits 4 n)

theorem uncontrolled_writeChar (c : Char) : Uncontrolled (writeChar ascii c) := by
  fun_cases writeChar ascii c with
  | case1 | case2 | case3 | case4 | case5 | case6 | case7 => decide
  | case8 => exact uncontrolled_unicodeEscape _
  | case9 =>
    rw [escapeCode]
    split
    · exact uncontrolled_unicodeEscape _
    · exact uncontrolled_append (uncontrolled_unicodeEscape _) (uncontrolled_unicodeEscape _)
  | case10 _ _ _ _ _ _ _ hlow => exact List.forall_mem_singleton.mpr (Nat.le_of_not_lt hlow)

theorem uncontrolled_writeChars (cs : List Char) : Uncontrolled (writeChars ascii cs) := by
  refine uncontrolled_append (by decide : Uncontrolled ['"'])
    (uncontrolled_append (fun d hd => ?_) (by decide))
  rcases List.mem_flatMap.mp hd with ⟨c, -, hd⟩
  exact uncontrolled_writeChar c d hd

theorem uncontrolled_toDigits (n : Nat) : Uncontrolled (Nat.toDigits 10 n) := by
  intro c hc
  have hdigit := isAsciiDigit_of_mem_toDigits hc
  simp only [isAsciiDigit, Bool.and_eq_true, decide_eq_true_eq, Char.le_def] at hdigit
  exact Nat.le_trans (by decide) (UInt32.le_iff_toNat_le.mp hdigit.1)

theorem uncontrolled_closedBy {close : Char} (hclose : Uncontrolled [close])
    {pieces : List (List Char)} (h : ∀ piece ∈ pieces, Uncontrolled piece) :
    Uncontrolled (closedBy close [] pieces) := by
  refine uncontrolled_append (fun c hc => ?_) hclose
  by_cases hmark : c ∈ [',', ' ']
  · have hall : Uncontrolled [',', ' '] := by decide
    exact hall c hmark
  · rcases (mem_intercalate hmark).mp hc with ⟨piece, hpiece, hc⟩
    exact h piece hpiece c hc

mutual

theorem uncontrolled_write : ∀ v : Json, v.Exact → Uncontrolled (v.write ascii).toList
  | .null, _ => by
    rw [write]
    decide
  | .bool b, _ => by
    rw [write]
    cases b <;> decide
  | .int i, _ => by
    rw [write, toList_toString]
    split
    · exact uncontrolled_toDigits _
    · exact uncontrolled_append (by decide : Uncontrolled ['-']) (uncontrolled_toDigits _)
  | .real _, hexact => hexact.elim
  | .str s, _ => by
    rw [write, toList_writeString]
    exact uncontrolled_writeChars _
  | .arr items, hexact => by
    rw [Exact] at hexact
    rw [← List.append_nil (write ascii (arr items)).toList, toList_write_arr]
    refine uncontrolled_append (by decide : Uncontrolled ['['])
      (uncontrolled_closedBy (by decide) ?_)
    exact List.forall_mem_map.mpr (uncontrolled_items items hexact)
  | .obj members, hexact => by
    rw [Exact] at hexact
    rw [← List.append_nil (write ascii (obj members)).toList, toList_write_obj]
    refine uncontrolled_append (by decide : Uncontrolled ['\x7b'])
      (uncontrolled_closedBy (by decide) ?_)
    refine List.forall_mem_map.mpr fun member hmember => ?_
    exact uncontrolled_append (uncontrolled_writeChars _) (uncontrolled_append
      (by decide : Uncontrolled [':', ' ']) (uncontrolled_members members hexact.2 member hmember))

theorem uncontrolled_items : ∀ items : List Json, ExactItems items →
    ∀ v ∈ items, Uncontrolled (v.write ascii).toList
  | [], _ => nofun
  | v :: vs, hexact =>
    List.forall_mem_cons.mpr ⟨uncontrolled_write v hexact.1, uncontrolled_items vs hexact.2⟩

theorem uncontrolled_members : ∀ members : List (String × Json), ExactMembers members →
    ∀ member ∈ members, Uncontrolled (member.2.write ascii).toList
  | [], _ => nofun
  | member :: members, hexact =>
    List.forall_mem_cons.mpr
      ⟨uncontrolled_write member.2 hexact.1, uncontrolled_members members hexact.2⟩

end

end UiTree.Json
