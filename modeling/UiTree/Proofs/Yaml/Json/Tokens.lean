import UiTree.Proofs.Json.Text
import UiTree.Proofs.Text.Pieces
import UiTree.Proofs.Yaml.Json.Marks

/-!
# Tokens of JSON — what a value on one line is as tokens

A value that is written for JSON comes to the tokens of its parts: marks for brackets and commas,
texts for words and texts, and for each member of an object a key, its text, and a value.  What
each value does is said of the text at hand and whatever follows it, so that the values inside one
another are put together by recursion on the value.
-/

namespace UiTree

open UiTree.Text

/-! ## 1. Written values -/

namespace Json

/-- What stands before an item. -/
def separator (first : Bool) : List Char := if first then [] else [',', ' ']

mutual

/-- The characters of a value that is written on one line. -/
def chars : Json → List Char
  | .arr items => '[' :: itemChars true items
  | .obj members => '\x7b' :: memberChars true members
  | .str s => writeChars true s.toList
  | j => (write true j).toList

/-- The items from one on, and the end of their list. -/
def itemChars (first : Bool) : List Json → List Char
  | [] => [']']
  | v :: vs => separator first ++ (chars v ++ itemChars false vs)

/-- The members from one on, and the end of their object. -/
def memberChars (first : Bool) : List (String × Json) → List Char
  | [] => ['\x7d']
  | (k, v) :: rest =>
    separator first ++
      (writeChars true k.toList ++ ':' :: ' ' :: (chars v ++ memberChars false rest))

end

theorem itemChars_false (items : List Json) :
    itemChars false items = (items.map chars).flatMap ([',', ' '] ++ ·) ++ [']'] := by
  induction items with
  | nil => rfl
  | cons v vs ih =>
    rw [itemChars, ih, List.map_cons, List.flatMap_cons, List.append_assoc, List.append_assoc]
    rfl

/-- The characters of a member. -/
def memberText (member : String × Json) : List Char :=
  writeChars true member.1.toList ++ ':' :: ' ' :: member.2.chars

theorem memberChars_cons (first : Bool) (member : String × Json) (members : List (String × Json)) :
    memberChars first (member :: members) =
      separator first ++ (memberText member ++ memberChars false members) := by
  rw [memberChars, memberText, List.append_assoc, List.cons_append, List.cons_append]

theorem memberChars_false (members : List (String × Json)) :
    memberChars false members = (members.map memberText).flatMap ([',', ' '] ++ ·) ++ ['\x7d'] := by
  induction members with
  | nil => rfl
  | cons member members ih =>
    rw [memberChars_cons, ih, List.map_cons, List.flatMap_cons, List.append_assoc,
      List.append_assoc]
    rfl

mutual

/-- The writer writes these characters. -/
theorem toList_write : ∀ j : Json, (write true j).toList = j.chars
  | .null | .bool _ | .int _ | .real _ => rfl
  | .str s => by rw [write, toList_writeString, chars]
  | .arr items => by
    rw [write, String.toList_append, String.toList_append, String.toList_intercalate,
      map_toList_writeItems items, chars]
    -- a separator between two pieces is one before the second of them
    cases items with
    | nil => rfl
    | cons v vs =>
      rw [List.map_cons, intercalate_cons_eq_flatMap, itemChars, itemChars_false]
      simp [separator]
  | .obj members => by
    rw [write, String.toList_append, String.toList_append, String.toList_intercalate,
      map_toList_writeMembers members, chars]
    cases members with
    | nil => rfl
    | cons member members =>
      rw [List.map_cons, intercalate_cons_eq_flatMap, memberChars_cons, memberChars_false]
      simp [separator]

theorem map_toList_writeItems : ∀ items : List Json,
    (writeItems true items).map String.toList = items.map chars
  | [] => rfl
  | v :: vs => by
    rw [writeItems, List.map_cons, List.map_cons, toList_write v, map_toList_writeItems vs]

theorem map_toList_writeMembers : ∀ members : List (String × Json),
    (writeMembers true members).map String.toList = members.map memberText
  | [] => rfl
  | (k, v) :: rest => by
    rw [writeMembers, List.map_cons, List.map_cons, map_toList_writeMembers rest, memberText,
      String.toList_append, String.toList_append, toList_writeString, toList_write v,
      List.append_assoc]
    rfl

end

/-! ## 2. Tokens of values -/

open Yaml (Narrow Token textOf)

/-- The mark before an item. -/
def comma (first : Bool) : List Token := if first then [] else [.flowEntry]

mutual

/-- The tokens of a value. -/
def tokens : Json → List Token
  | .arr items => .flowSequenceStart :: itemTokens true items
  | .obj members => .flowMappingStart :: memberTokens true members
  | .str s => [.scalar false (textOf s.toList)]
  | j => [.scalar true (.ofChars j.chars)]

/-- The tokens of the items from one on, and of the end of their list. -/
def itemTokens (first : Bool) : List Json → List Token
  | [] => [.flowSequenceEnd]
  | v :: vs => comma first ++ (tokens v ++ itemTokens false vs)

/-- The tokens of the members from one on, and of the end of their object. -/
def memberTokens (first : Bool) : List (String × Json) → List Token
  | [] => [.flowMappingEnd]
  | (k, v) :: rest =>
    comma first ++
      (.key :: .scalar false (textOf k.toList) :: .value :: (tokens v ++ memberTokens false rest))

end

/-- A key that is short enough to be one for the reader, and made of characters it can hold. -/
structure LegibleKey (k : String) : Prop where
  short : (writeChars true k.toList).length ≤ 1024
  narrow : Narrow k.toList

mutual

/-- The value has no numbers, and its objects have legible and different keys. -/
def Legible : Json → Prop
  | .arr items => LegibleItems items
  | .obj members => LegibleMembers members
  | .int _ | .real _ => False
  | .null | .bool _ | .str _ => True

def LegibleItems : List Json → Prop
  | [] => True
  | v :: vs => Legible v ∧ LegibleItems vs

def LegibleMembers : List (String × Json) → Prop
  | [] => True
  | (k, v) :: rest => LegibleKey k ∧ k ∉ rest.map Prod.fst ∧ Legible v ∧ LegibleMembers rest

end

theorem legibleMembers_iff (members : List (String × Json)) :
    LegibleMembers members ↔ (members.map Prod.fst).Nodup ∧
      ∀ member ∈ members, LegibleKey member.1 ∧ member.2.Legible := by
  induction members with
  | nil => simp [LegibleMembers]
  | cons member members ih =>
    rcases member with ⟨k, v⟩
    rw [LegibleMembers, ih, List.map_cons, List.nodup_cons, List.forall_mem_cons]
    exact ⟨fun ⟨hk, hnew, hv, hnodup, hrest⟩ => ⟨⟨hnew, hnodup⟩, ⟨hk, hv⟩, hrest⟩,
      fun ⟨⟨hnew, hnodup⟩, ⟨hk, hv⟩, hrest⟩ => ⟨hk, hnew, hv, hnodup, hrest⟩⟩

end Json

/-! ## 3. Reading the tokens -/

namespace Yaml.Lexer

open Json

variable {s : Lexer} {cs blank rest : List Char} {t : Token} {ts : List Token} {level : Nat}

theorem At.text (h : At level (blank ++ (writeChars true cs ++ rest)) ts s)
    (hblank : ∀ b ∈ blank, b = ' ') :
    ∃ s', Leads s s' ∧ At level rest (.scalar false (textOf cs) :: ts) s' ∧
      (s.keyAllowed = true → (writeChars true cs).length ≤ 1024 → Pending s') := by
  have hready := h.ready blank.length (writeChars true cs ++ rest)
  rcases hready.readQuoted with ⟨s', hquoted, h', hpending⟩
  have hread := (read_quote hready.rest).trans hquoted
  have hless : rest.length ≤ (cs.flatMap (writeChar true) ++ ['"'] ++ rest).length := by
    rw [List.length_append]
    omega
  have hleads := h.leads hblank (by decide) (by decide) (by decide) hread h' hless
  exact ⟨_, hleads, h'.refreshed, fun hkey hshort => (hpending hkey hshort).refreshed⟩

theorem At.word {text : List Char} (h : At level (blank ++ (text ++ rest)) ts s)
    (hblank : ∀ b ∈ blank, b = ' ') (hlower : text.all Char.isLower = true) (hne : text ≠ [])
    (hends : Ends level rest) :
    ∃ s', Leads s s' ∧ At level rest (.scalar true (.ofChars text) :: ts) s' := by
  have htext := List.all_eq_true.mp hlower
  have hready := h.ready blank.length (text ++ rest)
  rcases hready.readPlain htext hne hends with ⟨s', hplain, h'⟩
  rcases List.exists_cons_of_ne_nil hne with ⟨c, cs, rfl⟩
  have hc := htext c List.mem_cons_self
  have hother := beq_of_isLower hc
  have hread := (read_letter hready.rest hc).trans hplain
  have hleads := h.leads hblank (visible_of_isLower hc) (beq_eq_false_iff_ne.mp (hother ' ' rfl))
    (beq_eq_false_iff_ne.mp (hother '#' rfl)) hread h' (by simp)
  exact ⟨_, hleads, h'.refreshed⟩

theorem At.opens {c : Char} (h : At level (blank ++ c :: rest) ts s)
    (hblank : ∀ b ∈ blank, b = ' ') (hmark : Opens c t) :
    ∃ s', Leads s s' ∧ At (level + 1) rest (t :: ts) s' ∧ s'.keyAllowed = true := by
  have hc : Visible c ∧ c ≠ ' ' ∧ c ≠ '#' := by cases hmark <;> decide
  have ht : t ≠ .finish := by cases hmark <;> simp
  have hready := h.ready blank.length (c :: rest)
  rcases hready.openFlow hc.1 ht with ⟨s', hopen, h', hkey⟩
  have hread := (read_opens hmark hready.rest).trans hopen
  exact ⟨_, h.leads hblank hc.1 hc.2.1 hc.2.2 hread h' (Nat.le_refl _), h'.refreshed, hkey⟩

theorem At.closes {c : Char} (h : At (level + 1) ([] ++ c :: rest) ts s) (hmark : Closes c t) :
    ∃ s', Leads s s' ∧ At level rest (t :: ts) s' := by
  have hc : Visible c ∧ c ≠ ' ' ∧ c ≠ '#' := by cases hmark <;> decide
  have ht : t ≠ .finish := by cases hmark <;> simp
  have hready := h.ready 0 (c :: rest)
  rcases hready.closeFlow hc.1 rfl ht with ⟨s', hclose, h'⟩
  have hread := (read_closes hmark hready.rest).trans hclose
  exact ⟨_, h.leads (List.forall_mem_nil _) hc.1 hc.2.1 hc.2.2 hread h' (Nat.le_refl _), h'.refreshed⟩

theorem At.flowEntry (h : At level ([] ++ ',' :: rest) ts s) :
    ∃ s', Leads s s' ∧ At level rest (.flowEntry :: ts) s' ∧ s'.keyAllowed = true := by
  have hready := h.ready 0 (',' :: rest)
  rcases hready.readFlowEntry (by decide) with ⟨s', hentry, h', hkey⟩
  have hread := (read_comma hready.rest).trans hentry
  have hleads := h.leads (List.forall_mem_nil _) (by decide) (by decide) (by decide) hread h' (Nat.le_refl _)
  exact ⟨_, hleads, h'.refreshed, hkey⟩

theorem At.colon (h : At (level + 1) ([] ++ ':' :: rest) (t :: ts) s) (hpending : Pending s) :
    ∃ s', Leads s s' ∧ At (level + 1) rest (.value :: t :: .key :: ts) s' := by
  have hready := h.ready 0 (':' :: rest)
  have hinside : (s.ready 0 (':' :: rest)).inFlow = true := by
    rw [inFlow, hready.flow]
    rfl
  rcases hready.readValue (by decide) (hpending.ready _) with ⟨s', hvalue, h'⟩
  have hread := (read_colon hready.rest hinside).trans hvalue
  have hleads := h.leads (List.forall_mem_nil _) (by decide) (by decide) (by decide) hread h' (Nat.le_refl _)
  exact ⟨_, hleads, h'.refreshed⟩

/-- Before an item a key may stand. -/
theorem At.separates {first : Bool} (h : At level (separator first ++ rest) ts s)
    (hkey : first = true → s.keyAllowed = true) :
    ∃ s' blank, Leads s s' ∧ At level (blank ++ rest) ((comma first).reverse ++ ts) s' ∧
      (∀ b ∈ blank, b = ' ') ∧ s'.keyAllowed = true := by
  cases first with
  | true => exact ⟨s, [], .refl s, h, List.forall_mem_nil _, hkey rfl⟩
  | false =>
    -- the blank after the comma is left for the item
    rcases At.flowEntry h with ⟨s', hleads, h', hallowed⟩
    exact ⟨s', [' '], hleads, h', by simp, hallowed⟩

/-- The text of a key, and the colon after it. -/
theorem At.key (h : At (level + 1) (blank ++ (writeChars true cs ++ ':' :: rest)) ts s)
    (hblank : ∀ b ∈ blank, b = ' ') (hkey : s.keyAllowed = true)
    (hshort : (writeChars true cs).length ≤ 1024) :
    ∃ s', Leads s s' ∧
      At (level + 1) rest (.value :: .scalar false (textOf cs) :: .key :: ts) s' := by
  rcases h.text hblank with ⟨s₁, hleads, h₁, hpending⟩
  rcases At.colon h₁ (hpending hkey hshort) with ⟨s₂, hmore, h₂⟩
  exact ⟨s₂, hleads.trans hmore, h₂⟩

theorem ends_itemChars (items : List Json) : Ends (level + 1) (itemChars false items ++ rest) := by
  cases items <;> exact ⟨Nat.succ_ne_zero level, rfl⟩

theorem ends_memberChars (members : List (String × Json)) :
    Ends (level + 1) (memberChars false members ++ rest) := by
  rcases members with _ | ⟨⟨k, v⟩, members⟩ <;> exact ⟨Nat.succ_ne_zero level, rfl⟩

-- The recursion is on the value: a collection has its parts read one level further in, and its end
-- brings the reader back.
mutual

/-- A value is read as its tokens, whatever follows it. -/
theorem At.value : ∀ (j : Json) (blank : List Char) {s : Lexer} {rest : List Char}
    {ts : List Token} {level : Nat}, j.Legible → (∀ b ∈ blank, b = ' ') →
    At level (blank ++ (j.chars ++ rest)) ts s → Ends level rest →
    ∃ s', Leads s s' ∧ At level rest (j.tokens.reverse ++ ts) s'
  | .null, _, _, _, _, _, _, hblank, h, hends =>
    At.word h hblank (by decide) (by decide) hends
  | .bool true, _, _, _, _, _, _, hblank, h, hends =>
    At.word h hblank (by decide) (by decide) hends
  | .bool false, _, _, _, _, _, _, hblank, h, hends =>
    At.word h hblank (by decide) (by decide) hends
  | .str text, blank, s, rest, ts, level, _, hblank, h, _ => by
    rw [chars] at h
    rcases h.text hblank with ⟨s', hleads, h', -⟩
    exact ⟨s', hleads, h'⟩
  | .arr items, blank, s, rest, ts, level, hlegible, hblank, h, _ => by
    rw [chars, List.cons_append] at h
    rw [Legible] at hlegible
    rcases h.opens hblank .sequence with ⟨s₁, hleads, h₁, hkey⟩
    rcases At.items items true hlegible h₁ fun _ => hkey with ⟨s₂, hmore, h₂⟩
    refine ⟨s₂, hleads.trans hmore, ?_⟩
    rw [Json.tokens, List.reverse_cons, List.append_assoc]
    exact h₂
  | .obj members, blank, s, rest, ts, level, hlegible, hblank, h, _ => by
    rw [chars, List.cons_append] at h
    rw [Legible] at hlegible
    rcases h.opens hblank .mapping with ⟨s₁, hleads, h₁, hkey⟩
    rcases At.members members true hlegible h₁ fun _ => hkey with ⟨s₂, hmore, h₂⟩
    refine ⟨s₂, hleads.trans hmore, ?_⟩
    rw [Json.tokens, List.reverse_cons, List.append_assoc]
    exact h₂

theorem At.items : ∀ (items : List Json) (first : Bool) {s : Lexer} {rest : List Char}
    {ts : List Token} {level : Nat}, LegibleItems items →
    At (level + 1) (itemChars first items ++ rest) ts s → (first = true → s.keyAllowed = true) →
    ∃ s', Leads s s' ∧ At level rest ((itemTokens first items).reverse ++ ts) s'
  | [], first, s, rest, ts, level, _, h, _ => h.closes .sequence
  | v :: vs, first, s, rest, ts, level, hlegible, h, hkey => by
    rw [LegibleItems] at hlegible
    rw [itemChars, List.append_assoc, List.append_assoc] at h
    rcases h.separates hkey with ⟨s₁, blank, hleads, h₁, hblank, -⟩
    rcases At.value v blank hlegible.1 hblank h₁ (ends_itemChars vs) with ⟨s₂, hvalue, h₂⟩
    rcases At.items vs false hlegible.2 h₂ nofun with ⟨s₃, hrest, h₃⟩
    refine ⟨s₃, hleads.trans (hvalue.trans hrest), ?_⟩
    rw [itemTokens, List.reverse_append, List.reverse_append, List.append_assoc, List.append_assoc]
    exact h₃

theorem At.members : ∀ (members : List (String × Json)) (first : Bool) {s : Lexer}
    {rest : List Char} {ts : List Token} {level : Nat}, LegibleMembers members →
    At (level + 1) (memberChars first members ++ rest) ts s →
    (first = true → s.keyAllowed = true) →
    ∃ s', Leads s s' ∧ At level rest ((memberTokens first members).reverse ++ ts) s'
  | [], first, s, rest, ts, level, _, h, _ => h.closes .mapping
  | (k, v) :: members, first, s, rest, ts, level, hlegible, h, hkey => by
    rw [LegibleMembers] at hlegible
    rcases hlegible with ⟨hname, -, hv, hmembers⟩
    rw [memberChars, List.append_assoc, List.append_assoc, List.cons_append, List.cons_append,
      List.append_assoc] at h
    rcases h.separates hkey with ⟨s₁, blank, hleads, h₁, hblank, hallowed⟩
    rcases h₁.key hblank hallowed hname.short with ⟨s₂, hcolon, h₂⟩
    -- the blank after the colon is skipped with the blanks before the value
    rcases At.value v [' '] hv (by simp) h₂ (ends_memberChars members) with ⟨s₃, hvalue, h₃⟩
    rcases At.members members false hmembers h₃ nofun with ⟨s₄, hrest, h₄⟩
    refine ⟨s₄, hleads.trans (hcolon.trans (hvalue.trans hrest)), ?_⟩
    rw [memberTokens]
    simp only [List.reverse_append, List.reverse_cons, List.append_assoc, List.cons_append,
      List.nil_append]
    exact h₄

end

theorem At.exists_finish (h : At level [] ts s) :
    ∃ s', s.next = .ok s' ∧ s'.tokens = .finish :: ts := by
  have hskip : s.skipSpace (s.rest.length + 1) = s := by
    unfold skipSpace
    rw [h.rest]
    simp only [skipBlanks, List.dropWhile_nil, takeBreak?, goTo, h.rest, List.length_nil,
      Nat.sub_self, skip]
  have hfresh := h.refreshed
  refine ⟨(Lexer.emit .finish { s.refreshed with keyAllowed := false, places := [] }).refreshed, ?_,
    congrArg (List.cons Token.finish) h.tokens⟩
  unfold Lexer.next
  rw [hskip, h.dropStale]
  change ((Lexer.unwind _ s.refreshed).read >>= Lexer.dropStale) = _
  rw [hfresh.unwind, Lexer.read, hfresh.rest]
  change (s.refreshed.finish >>= Lexer.dropStale) = _
  rw [Lexer.finish, hfresh.unwind, hfresh.dropPlace]
  rfl

/-- At the end of the text the tokens are those that were read. -/
theorem At.run_end (h : At level [] ts s) (room : Nat) :
    s.run (room + 2) = ((.finish :: ts).reverse, none) := by
  rcases h.exists_finish with ⟨s', hnext, htokens⟩
  rw [run_succ (by rw [h.tokens]; exact h.unfinished) hnext, run, htokens]
  rfl

end Yaml.Lexer

/-! ## 4. Texts -/

namespace Json

theorem visible_of_all_isLower {cs : List Char} (h : cs.all Char.isLower = true) :
    ∀ c ∈ cs, Yaml.Visible c :=
  fun c hc => Yaml.Lexer.visible_of_isLower (List.all_eq_true.mp h c hc)

theorem visible_separator (first : Bool) : ∀ c ∈ separator first, Yaml.Visible c := by
  cases first with
  | true => exact nofun
  | false =>
    exact List.forall_mem_cons.mpr ⟨by decide, List.forall_mem_singleton.mpr (by decide)⟩

mutual

theorem visible_chars : ∀ j : Json, j.Legible → ∀ c ∈ j.chars, Yaml.Visible c
  | .null, _ => visible_of_all_isLower (by decide)
  | .bool true, _ => visible_of_all_isLower (by decide)
  | .bool false, _ => visible_of_all_isLower (by decide)
  | .str s, _ => Yaml.visible_writeChars s.toList
  | .arr items, h => by
    rw [Legible] at h
    rw [chars, List.forall_mem_cons]
    exact ⟨by decide, visible_itemChars items true h⟩
  | .obj members, h => by
    rw [Legible] at h
    rw [chars, List.forall_mem_cons]
    exact ⟨by decide, visible_memberChars members true h⟩

theorem visible_itemChars : ∀ (items : List Json) (first : Bool), LegibleItems items →
    ∀ c ∈ itemChars first items, Yaml.Visible c
  | [], _, _ => by
    rw [itemChars, List.forall_mem_singleton]
    decide
  | v :: vs, first, h => by
    rw [LegibleItems] at h
    rw [itemChars, List.forall_mem_append, List.forall_mem_append]
    exact ⟨visible_separator first, visible_chars v h.1, visible_itemChars vs false h.2⟩

theorem visible_memberChars : ∀ (members : List (String × Json)) (first : Bool),
    LegibleMembers members → ∀ c ∈ memberChars first members, Yaml.Visible c
  | [], _, _ => by
    rw [memberChars, List.forall_mem_singleton]
    decide
  | (k, v) :: members, first, h => by
    rw [LegibleMembers] at h
    rw [memberChars, List.forall_mem_append, List.forall_mem_append, List.forall_mem_cons,
      List.forall_mem_cons, List.forall_mem_append]
    exact ⟨visible_separator first, Yaml.visible_writeChars k.toList, by decide, by decide,
      visible_chars v h.2.2.1, visible_memberChars members false h.2.2.2⟩

end

/-- **A value comes to its tokens.** -/
theorem tokens_chars {j : Json} (h : j.Legible) :
    Yaml.tokens j.chars = (j.tokens ++ [.finish], none) := by
  have hvisible := visible_chars j h
  have hadmitted : j.chars.all Yaml.isAdmitted = true := by
    rw [List.all_eq_true]
    intro c hc
    have hc := hvisible c hc
    unfold Yaml.Visible at hc
    simp [Yaml.isAdmitted]
    omega
  have hstart : (j.chars.head? == some '\ufeff') = false := by
    rw [beq_eq_false_iff_ne]
    intro hhead
    have hmark := hvisible _ (List.mem_of_head? hhead)
    revert hmark
    decide
  have hat : Yaml.Lexer.At 0 ([] ++ (j.chars ++ [])) [] { rest := j.chars } :=
    { flow := rfl, rest := by simp, tokens := rfl, indent := rfl, indents := rfl, optional := nofun,
      unfinished := nofun }
  rcases Yaml.Lexer.At.value j [] h (List.forall_mem_nil _) hat trivial with ⟨s, ⟨n, hroom, hrun⟩, hs⟩
  -- the tokens took a step for each character at most, which leaves two to finish and to stop
  have henough : j.chars.length + 2 = j.chars.length - n + 2 + n := by
    change _ ≤ j.chars.length at hroom
    omega
  unfold Yaml.tokens
  rw [hadmitted, hstart]
  simp only [Bool.not_true, Bool.false_eq_true, if_false]
  rw [henough, hrun, hs.run_end]
  simp

end Json

end UiTree
