import Mathlib.Data.List.Basic
import Mathlib.Data.List.TakeWhile
import UiTree.Proofs.Text.Classes
import UiTree.Text.Markup

/-!
# Markup — escaped texts as they are shown

Escaping keeps the tags of a text from being taken for markup.  What is shown of an escaped text is
the text itself, but for names of pictographs, and for a backslash before a bracket that opens no
tag: escaping adds none to that one, and it is dropped.
-/

namespace UiTree.Text

/-! ## 1. Names between colons -/

/-- No name between two colons stands for a pictograph. -/
def Unnamed (cs : List Char) : Prop :=
  ∀ name, (∀ c ∈ name, isNamePart c = true) → ':' :: (name ++ [':']) <:+: cs →
    pictograph? (lowerChars (splitStyle name).1) = none

theorem Unnamed.part {cs ds : List Char} (h : Unnamed cs) (hpart : ds <:+: cs) : Unnamed ds :=
  fun name hname hmem => h name hname (hmem.trans hpart)

theorem unnamed_of_not_mem {cs : List Char} (h : ':' ∉ cs) : Unnamed cs := by
  intro name _ hmem
  exfalso
  exact h (hmem.subset List.mem_cons_self)

theorem named_of_eq_none {name : List Char}
    (h : pictograph? (lowerChars (splitStyle name).1) = none) :
    named name = ':' :: (name ++ [':']) := by
  unfold named
  -- the table of pictographs is too large to be opened
  generalize pictograph? = picture? at h ⊢
  simp only [h]

theorem drawNamesFrom_of_unnamed {cs : List Char} (h : Unnamed cs) (room : Nat) :
    drawNamesFrom room cs = cs := by
  induction room generalizing cs with
  | zero => rfl
  | succ room ih =>
    rcases cs with _ | ⟨c, cs⟩
    · rfl
    · have htail : Unnamed cs := h.part (List.suffix_cons c cs).isInfix
      by_cases hc : c = ':'
      · subst hc
        rw [drawNamesFrom]
        split
        · rename_i rest hrest
          have hcs : cs.takeWhile isNamePart ++ ':' :: rest = cs := by
            rw [← hrest, List.takeWhile_append_dropWhile]
          have hname :
              pictograph? (lowerChars (splitStyle (cs.takeWhile isNamePart)).1) = none := by
            refine h _ (fun c hc => List.mem_takeWhile_imp hc) ⟨[], rest, ?_⟩
            simp [hcs]
          rw [named_of_eq_none hname, ih (htail.part ⟨cs.takeWhile isNamePart ++ [':'], [], by
            simp [hcs]⟩), List.cons_append, List.append_assoc, List.singleton_append, hcs]
        · rw [ih htail]
      · rw [drawNamesFrom, ih htail]
        exact hc

theorem drawNames_of_unnamed {cs : List Char} (h : Unnamed cs) : drawNames cs = cs :=
  drawNamesFrom_of_unnamed h cs.length

namespace Markup

/-! ## 2. Tags -/

/-- Brackets around a text without brackets that starts as tags do. -/
def IsTag (tag : List Char) : Prop :=
  ∃ c inside, isTagStart c = true ∧ (∀ d ∈ inside, d ≠ '[' ∧ d ≠ ']') ∧
    tag = '[' :: c :: (inside ++ [']'])

theorem ne_of_isTagStart {c : Char} (h : isTagStart c = true) : c ≠ '[' ∧ c ≠ ']' ∧ c ≠ '\\' := by
  refine ⟨?_, ?_, ?_⟩ <;>
    · rintro rfl
      exact absurd h (by decide)

theorem not_mem_inside {c : Char} {inside : List Char} (hc : isTagStart c = true)
    (hinside : ∀ d ∈ inside, d ≠ '[' ∧ d ≠ ']') : '[' ∉ c :: (inside ++ [']']) := by
  simp only [List.mem_cons, List.mem_append, List.not_mem_nil, or_false, not_or]
  exact ⟨(ne_of_isTagStart hc).1.symm, fun hmem => (hinside _ hmem).1 rfl, by decide⟩

theorem IsTag.length_pos {tag : List Char} (h : IsTag tag) : 0 < tag.length := by
  rcases h with ⟨c, inside, -, -, rfl⟩
  exact Nat.succ_pos _

theorem tag?_append {tag : List Char} (h : IsTag tag) (rest : List Char) :
    tag? (tag ++ rest) = some (tag, rest) := by
  rcases h with ⟨c, inside, hc, hinside, rfl⟩
  have hrun : ∀ d ∈ inside, (d != '[' && d != ']') = true := fun d hd => by simpa using hinside d hd
  have hstop : Stops (fun d => d != '[' && d != ']') (']' :: rest) := stops_cons.mpr (by decide)
  simp only [List.cons_append, List.append_assoc, List.nil_append, tag?, if_pos hc,
    dropWhile_append_stops hrun hstop, takeWhile_append_stops hrun hstop]

theorem isTag_of_tag? {cs tag rest : List Char} (h : tag? cs = some (tag, rest)) :
    IsTag tag ∧ cs = tag ++ rest := by
  unfold tag? at h
  split at h
  · rename_i c cs
    by_cases hc : isTagStart c = true
    · simp only [if_pos hc] at h
      split at h
      · rename_i after hafter
        have hcs : cs.takeWhile (fun d => d != '[' && d != ']') ++ ']' :: after = cs := by
          rw [← hafter, List.takeWhile_append_dropWhile]
        rw [Option.some.injEq, Prod.mk.injEq] at h
        rcases h with ⟨rfl, rfl⟩
        refine ⟨⟨c, _, hc, fun d hd => ?_, rfl⟩, by simp [hcs]⟩
        simpa using List.mem_takeWhile_imp hd
      · exact absurd h nofun
    · rw [if_neg hc] at h
      exact absurd h nofun
  · exact absurd h nofun

section Steps

variable {tag : List Char} {c : Char} {cs : List Char}

theorem escapeFrom_tag (h : IsTag tag) (slashes room : Nat) (rest : List Char) :
    escapeFrom slashes (room + 1) (tag ++ rest) =
      List.replicate (2 * slashes + 1) '\\' ++ (tag ++ escapeFrom 0 room rest) := by
  have htag := tag?_append h rest
  rcases h with ⟨d, inside, -, -, rfl⟩
  rw [List.cons_append] at htag ⊢
  rw [escapeFrom, htag]
  · exact List.append_assoc _ _ _
  · exact nofun

theorem escapeFrom_of_none (hc : c ≠ '\\') (hnone : tag? (c :: cs) = none) (slashes room : Nat) :
    escapeFrom slashes (room + 1) (c :: cs) =
      List.replicate slashes '\\' ++ c :: escapeFrom 0 room cs := by
  rw [escapeFrom, hnone]
  exact hc

theorem stretchesFrom_slashes (slashes : Nat) (read : List Char) (room n : Nat) (cs : List Char) :
    stretchesFrom slashes read (room + n) (List.replicate n '\\' ++ cs) =
      stretchesFrom (slashes + n) read room cs := by
  induction n generalizing slashes with
  | zero => rfl
  | succ n ih =>
    rw [List.replicate_succ, List.cons_append, ← Nat.add_assoc, stretchesFrom, ih, Nat.add_assoc,
      Nat.add_comm 1]

theorem stretchesFrom_tag (h : IsTag tag) (n : Nat) (read : List Char) (room : Nat)
    (rest : List Char) :
    stretchesFrom (2 * n + 1) read (room + 1) (tag ++ rest) =
      read.reverse :: List.replicate n '\\' :: tag :: stretchesFrom 0 [] room rest := by
  have htag := tag?_append h rest
  have hhalf : (2 * n + 1) / 2 = n := by omega
  have hodd : ((2 * n + 1) % 2 == 1) = true := by simp
  rcases h with ⟨d, inside, -, -, rfl⟩
  rw [List.cons_append] at htag ⊢
  rw [stretchesFrom, htag]
  · simp only [hhalf, if_pos hodd, List.cons_append, List.nil_append]
  · exact nofun

theorem stretchesFrom_of_none (hc : c ≠ '\\') (hnone : tag? (c :: cs) = none) (slashes : Nat)
    (read : List Char) (room : Nat) :
    stretchesFrom slashes read (room + 1) (c :: cs) =
      stretchesFrom 0 (c :: (List.replicate slashes '\\' ++ read)) room cs := by
  rw [stretchesFrom, hnone]
  exact hc

end Steps

/-! ## 3. Slashes before brackets -/

/-- The second text is the first one with backslashes put before brackets. -/
inductive Slashed : List Char → List Char → Prop
  | nil : Slashed [] []
  | cons (c : Char) {cs ds : List Char} : Slashed cs ds → Slashed (c :: cs) (c :: ds)
  | slash {cs ds : List Char} : Slashed ('[' :: cs) ds → Slashed ('[' :: cs) ('\\' :: ds)

namespace Slashed

variable {cs ds : List Char}

theorem refl : ∀ cs : List Char, Slashed cs cs
  | [] => .nil
  | c :: cs => .cons c (refl cs)

theorem append_left (h : Slashed cs ds) : ∀ front : List Char, Slashed (front ++ cs) (front ++ ds)
  | [] => h
  | c :: front => .cons c (h.append_left front)

theorem slashes (h : Slashed ('[' :: cs) ds) (n : Nat) :
    Slashed ('[' :: cs) (List.replicate n '\\' ++ ds) := by
  induction n with
  | zero => exact h
  | succ n ih => exact ih.slash

theorem ne_nil (h : Slashed cs ds) (hcs : cs ≠ []) : ds ≠ [] := by
  cases h with
  | nil => exact absurd rfl hcs
  | cons c _ => exact List.cons_ne_nil _ _
  | slash _ => exact List.cons_ne_nil _ _

theorem getLast?_eq (h : Slashed cs ds) : ds.getLast? = cs.getLast? := by
  induction h with
  | nil => rfl
  | @cons c cs ds h ih =>
    rcases cs with _ | ⟨b, cs⟩
    · cases h
      rfl
    · rcases List.exists_cons_of_ne_nil (h.ne_nil (List.cons_ne_nil b cs)) with ⟨d, ds, rfl⟩
      rw [List.getLast?_cons_cons, List.getLast?_cons_cons, ih]
  | slash h ih =>
    rcases List.exists_cons_of_ne_nil (h.ne_nil (List.cons_ne_nil _ _)) with ⟨d, ds, rfl⟩
    rw [List.getLast?_cons_cons, ih]

/-- No backslash is put into a text without opening brackets. -/
theorem exists_of_closed {inside rest : List Char} (hinside : '[' ∉ inside)
    (h : Slashed cs (inside ++ ']' :: rest)) : ∃ rest', cs = inside ++ ']' :: rest' := by
  induction inside generalizing cs with
  | nil =>
    cases h with
    | cons _ h => exact ⟨_, rfl⟩
  | cons c inside ih =>
    rw [List.mem_cons, not_or] at hinside
    cases h with
    | cons _ h =>
      rcases ih hinside.2 h with ⟨rest', rfl⟩
      exact ⟨rest', rfl⟩
    | slash h =>
      rcases ih hinside.2 h with ⟨rest', heq⟩
      rcases inside with _ | ⟨d, inside⟩
      · exact absurd (List.cons.inj heq).1 (by decide)
      · rw [(List.cons.inj heq).1] at hinside
        exact absurd List.mem_cons_self hinside.2

/-- A bracket that opens no tag opens none behind the backslashes either. -/
theorem tag?_eq_none (h : Slashed cs ds) {c : Char} (hnone : tag? (c :: cs) = none) :
    tag? (c :: ds) = none := by
  by_contra hsome
  rcases Option.ne_none_iff_exists'.mp hsome with ⟨⟨tag, rest⟩, htag⟩
  rcases isTag_of_tag? htag with ⟨⟨d, inside, hd, hinside, rfl⟩, heq⟩
  have hopen : '[' ∉ d :: inside := by
    rw [List.mem_cons, not_or]
    exact ⟨(ne_of_isTagStart hd).1.symm, fun hmem => (hinside _ hmem).1 rfl⟩
  have hds : c = '[' ∧ ds = d :: inside ++ ']' :: rest := by simpa using heq
  rcases hds with ⟨rfl, rfl⟩
  rcases exists_of_closed hopen h with ⟨rest', rfl⟩
  have hopens := tag?_append ⟨d, inside, hd, hinside, rfl⟩ rest'
  rw [List.cons_append, List.cons_append, List.append_assoc] at hopens
  exact absurd (hnone.symm.trans hopens) nofun

end Slashed

/-- Escaping only puts backslashes before brackets. -/
theorem slashed_escapeFrom {room : Nat} {cs : List Char} (hroom : cs.length < room)
    (slashes : Nat) :
    Slashed (List.replicate slashes '\\' ++ cs) (escapeFrom slashes room cs) := by
  induction room generalizing cs slashes with
  | zero => exact absurd hroom (Nat.not_lt_zero _)
  | succ room ih =>
    rcases cs with _ | ⟨c, cs⟩
    · rw [List.append_nil]
      exact .refl _
    · have hrest : cs.length < room := Nat.lt_of_succ_lt_succ hroom
      by_cases hc : c = '\\'
      · subst hc
        rw [escapeFrom, List.append_cons, ← List.replicate_succ']
        exact ih hrest (slashes + 1)
      · cases htag : tag? (c :: cs) with
        | none =>
          rw [escapeFrom_of_none hc htag]
          exact (Slashed.cons c (ih hrest 0)).append_left _
        | some parts =>
          rcases parts with ⟨tag, rest⟩
          rcases isTag_of_tag? htag with ⟨hparts, heq⟩
          have hlength := congrArg List.length heq
          have hpos := hparts.length_pos
          rw [List.length_cons, List.length_append] at hlength
          rw [heq, escapeFrom_tag hparts, Nat.two_mul, Nat.add_assoc,
            ← List.replicate_append_replicate, List.append_assoc]
          -- of its backslashes as many as there were are the text's own, and the others are new
          have htail : Slashed (tag ++ rest) (tag ++ escapeFrom 0 room rest) :=
            Slashed.append_left (ih (by omega) 0) tag
          rcases hparts with ⟨d, inside, -, -, rfl⟩
          exact Slashed.append_left (htail.slashes (slashes + 1)) _

/-! ## 4. What is shown of an escaped text -/

/-- The text without the backslashes that stand before a bracket which opens no tag. -/
def bare : List Char → List Char
  | '\\' :: '[' :: cs =>
    if (tag? ('[' :: cs)).isSome then '\\' :: '[' :: bare cs else '[' :: bare cs
  | c :: cs => c :: bare cs
  | [] => []

theorem bare_cons_of_ne {c : Char} (hc : c ≠ '\\') (cs : List Char) :
    bare (c :: cs) = c :: bare cs := by
  rw [bare]
  exact fun _ h => absurd h hc

theorem openBrackets_cons_of_ne {c : Char} (hc : c ≠ '\\') (cs : List Char) :
    openBrackets (c :: cs) = c :: openBrackets cs := by
  rw [openBrackets]
  exact fun _ h => absurd h hc

theorem openBrackets_of_not_mem {cs : List Char} (h : '[' ∉ cs) : openBrackets cs = cs := by
  induction cs with
  | nil => rfl
  | cons c cs ih =>
    rw [List.mem_cons, not_or] at h
    rw [openBrackets, ih h.2]
    rintro _ - rfl
    exact h.2 List.mem_cons_self

theorem bare_of_not_mem {cs : List Char} (h : '[' ∉ cs) : bare cs = cs := by
  induction cs with
  | nil => rfl
  | cons c cs ih =>
    rw [List.mem_cons, not_or] at h
    rw [bare, ih h.2]
    rintro _ - rfl
    exact h.2 List.mem_cons_self

/-- No backslash is at the end. -/
def Shut (cs : List Char) : Prop := cs.getLast? ≠ some '\\'

theorem shut_reverse_nil : Shut (List.reverse []) := nofun

theorem Shut.tail {c : Char} {cs : List Char} (h : Shut (c :: cs)) : Shut cs := by
  cases cs with
  | nil => exact nofun
  | cons d cs => rwa [Shut, List.getLast?_cons_cons] at h

/-- What follows on a shut text does not change how its first character is taken. -/
theorem Shut.not_slash {c : Char} {cs ds : List Char} (h : Shut (c :: cs))
    (hne : ∀ cs', c = '\\' → cs = '[' :: cs' → False) :
    ∀ cs', c = '\\' → cs ++ ds = '[' :: cs' → False := by
  rintro cs' rfl hcs
  rcases cs with _ | ⟨d, cs⟩
  · exact h rfl
  · exact hne cs rfl (congrArg (· :: cs) (List.cons.inj hcs).1)

/-- A text is opened up in parts, if the first one is shut. -/
theorem openBrackets_append {cs : List Char} (h : Shut cs) (ds : List Char) :
    openBrackets (cs ++ ds) = openBrackets cs ++ openBrackets ds := by
  fun_induction openBrackets cs with
  | case1 cs ih =>
    rw [List.cons_append, List.cons_append, openBrackets, ih h.tail.tail, List.cons_append]
  | case2 c cs hne ih =>
    rw [List.cons_append, openBrackets, ih h.tail, List.cons_append]
    exact h.not_slash hne
  | case3 => rfl

theorem bare_append {cs : List Char} (hcs : '[' ∉ cs) (h : Shut cs) (ds : List Char) :
    bare (cs ++ ds) = cs ++ bare ds := by
  induction cs with
  | nil => rfl
  | cons c cs ih =>
    rw [List.mem_cons, not_or] at hcs
    rw [List.cons_append, bare, ih hcs.2 h.tail, List.cons_append]
    exact h.not_slash fun cs' _ hbracket => hcs.2 (hbracket ▸ List.mem_cons_self)

theorem openBrackets_tag {tag : List Char} (h : IsTag tag) : openBrackets tag = tag := by
  rcases h with ⟨c, inside, hc, hinside, rfl⟩
  rw [openBrackets_cons_of_ne (by decide), openBrackets_of_not_mem (not_mem_inside hc hinside)]

theorem bare_tag {tag : List Char} (h : IsTag tag) (rest : List Char) :
    bare (tag ++ rest) = tag ++ bare rest := by
  rcases h with ⟨c, inside, hc, hinside, rfl⟩
  have hshut : Shut (c :: (inside ++ [']'])) := by
    rw [Shut, ← List.cons_append, List.getLast?_concat]
    decide
  rw [List.cons_append, bare_cons_of_ne (by decide),
    bare_append (not_mem_inside hc hinside) hshut]
  rfl

/-- All backslashes before a tag stay. -/
theorem bare_slashes_tag {tag : List Char} (h : IsTag tag) (rest : List Char) :
    ∀ n, bare (List.replicate n '\\' ++ (tag ++ rest)) =
      List.replicate n '\\' ++ (tag ++ bare rest)
  | 0 => bare_tag h rest
  | 1 => by
    have htag := tag?_append h rest
    have hbare := bare_tag h rest
    rcases h with ⟨c, inside, -, -, rfl⟩
    rw [List.cons_append] at htag hbare
    rw [bare_cons_of_ne (by decide)] at hbare
    rw [List.replicate_one, List.singleton_append, List.singleton_append, List.cons_append, bare,
      htag, if_pos Option.isSome_some, hbare]
  | n + 2 => by
    rw [List.replicate_succ, List.cons_append, bare, bare_slashes_tag h rest (n + 1),
      List.cons_append]
    exact fun _ _ => nofun

/-- Of the backslashes before any other character one is dropped if that is a bracket. -/
theorem bare_slashes_of_none {c : Char} {cs : List Char} (hc : c ≠ '\\')
    (hnone : tag? (c :: cs) = none) :
    ∀ n, bare (List.replicate n '\\' ++ c :: cs) =
      openBrackets (List.replicate n '\\' ++ [c]) ++ bare cs
  | 0 => by
    rw [List.replicate_zero, List.nil_append, List.nil_append, bare_cons_of_ne hc,
      openBrackets_cons_of_ne hc]
    rfl
  | 1 => by
    by_cases hbracket : c = '['
    · subst hbracket
      rw [List.replicate_one, List.singleton_append, bare, hnone]
      rfl
    · have hnot : '[' ∉ ['\\', c] := by simp [Ne.symm hbracket]
      have hshut : Shut ['\\', c] := fun h => hc (Option.some.inj h)
      exact (bare_append hnot hshut cs).trans
        (congrArg (· ++ bare cs) (openBrackets_of_not_mem hnot).symm)
  | n + 2 => by
    rw [List.replicate_succ, List.cons_append, bare, bare_slashes_of_none hc hnone (n + 1),
      List.cons_append, openBrackets, List.cons_append]
    · exact fun _ _ => nofun
    · exact fun _ _ => nofun

section Opened

variable {read : List Char}

theorem not_mem_slashes (n : Nat) : '[' ∉ List.replicate n '\\' := by simp

/-- Backslashes at the end belong to what was read before them. -/
theorem opened_end (hread : Shut read.reverse) (room n : Nat) :
    (stretchesFrom 0 read (room + 1 + n) (List.replicate n '\\')).flatMap openBrackets =
      openBrackets read.reverse ++ List.replicate n '\\' := by
  have hstop := stretchesFrom_slashes 0 read (room + 1) n []
  rw [List.append_nil, Nat.zero_add, stretchesFrom] at hstop
  rw [hstop, List.flatMap_singleton, openBrackets_append hread,
    openBrackets_of_not_mem (not_mem_slashes n)]

/-- A tag behind an odd number of backslashes is a stretch of its own. -/
theorem opened_tag {tag : List Char} (h : IsTag tag) (room n : Nat) (rest : List Char) :
    (stretchesFrom 0 read (room + 1 + (2 * n + 1))
      (List.replicate (2 * n + 1) '\\' ++ (tag ++ rest))).flatMap openBrackets =
      openBrackets read.reverse ++ (List.replicate n '\\' ++
        (tag ++ (stretchesFrom 0 [] room rest).flatMap openBrackets)) := by
  rw [stretchesFrom_slashes, Nat.zero_add, stretchesFrom_tag h, List.flatMap_cons,
    List.flatMap_cons, List.flatMap_cons, openBrackets_of_not_mem (not_mem_slashes n),
    openBrackets_tag h]

/-- Another character is read on, with the backslashes before it. -/
theorem opened_of_none {c : Char} {cs : List Char} (hc : c ≠ '\\') (hnone : tag? (c :: cs) = none)
    (room n : Nat) :
    stretchesFrom 0 read (room + 1 + n) (List.replicate n '\\' ++ c :: cs) =
      stretchesFrom 0 (c :: (List.replicate n '\\' ++ read)) room cs := by
  rw [stretchesFrom_slashes, stretchesFrom_of_none hc hnone, Nat.zero_add]

theorem shut_reverse_cons {c : Char} (hc : c ≠ '\\') (cs : List Char) :
    Shut (c :: cs).reverse := by
  rw [Shut, List.reverse_cons, List.getLast?_concat]
  exact fun h => hc (Option.some.inj h)

end Opened

/-- The stretches of an escaped text, opened up, are the bare text in parts. -/
theorem flatMap_stretchesFrom {room : Nat} {cs : List Char} (hroom : cs.length < room)
    {slashes : Nat} {read : List Char} (hread : Shut read.reverse) {more : Nat}
    (hmore : (escapeFrom slashes room cs).length < more) :
    (stretchesFrom 0 read more (escapeFrom slashes room cs)).flatMap openBrackets =
      openBrackets read.reverse ++ bare (List.replicate slashes '\\' ++ cs) := by
  -- the backslashes counted so far stand before the rest of the text, and what was read on is shut
  induction room generalizing cs slashes read more with
  | zero => exact absurd hroom (Nat.not_lt_zero _)
  | succ room ih =>
    rcases cs with _ | ⟨c, cs⟩
    · rw [escapeFrom, List.length_replicate] at hmore
      obtain ⟨left, rfl⟩ : ∃ left, more = left + 1 + slashes := ⟨more - slashes - 1, by omega⟩
      rw [escapeFrom, opened_end hread, List.append_nil, bare_of_not_mem (not_mem_slashes _)]
    · have hrest : cs.length < room := Nat.lt_of_succ_lt_succ hroom
      by_cases hc : c = '\\'
      · subst hc
        rw [escapeFrom] at hmore ⊢
        rw [ih hrest hread hmore, List.replicate_succ', List.append_assoc, List.singleton_append]
      · cases htag : tag? (c :: cs) with
        | none =>
          rw [escapeFrom_of_none hc htag, List.length_append, List.length_replicate,
            List.length_cons] at hmore
          obtain ⟨left, rfl⟩ : ∃ left, more = left + 1 + slashes := ⟨more - slashes - 1, by omega⟩
          have hnone := (slashed_escapeFrom hrest 0).tag?_eq_none htag
          rw [escapeFrom_of_none hc htag, opened_of_none hc hnone,
            ih hrest (shut_reverse_cons hc _) (by omega), List.reverse_cons, List.reverse_append,
            List.reverse_replicate, List.append_assoc, openBrackets_append hread,
            bare_slashes_of_none hc htag, List.append_assoc]
          rfl
        | some parts =>
          rcases parts with ⟨tag, rest⟩
          rcases isTag_of_tag? htag with ⟨hparts, heq⟩
          have hlength := congrArg List.length heq
          have hpos := hparts.length_pos
          rw [List.length_cons, List.length_append] at hlength
          rw [heq, escapeFrom_tag hparts] at hmore ⊢
          rw [List.length_append, List.length_replicate, List.length_append] at hmore
          obtain ⟨left, rfl⟩ : ∃ left, more = left + 1 + (2 * slashes + 1) :=
            ⟨more - (2 * slashes + 1) - 1, by omega⟩
          rw [opened_tag hparts, ih (by omega) shut_reverse_nil (by omega),
            bare_slashes_tag hparts]
          rfl

theorem bare_sublist (cs : List Char) : (bare cs).Sublist cs := by
  fun_induction bare cs with
  | case1 cs _ ih => exact (ih.cons_cons '[').cons_cons '\\'
  | case2 cs _ ih => exact (ih.cons_cons '[').cons '\\'
  | case3 c cs _ ih => exact ih.cons_cons c
  | case4 => exact .slnil

theorem getLast?_cons_of_eq {c d : Char} {cs : List Char} (h : cs.getLast? = some d) :
    (c :: cs).getLast? = some d := by
  rw [List.getLast?_cons, h]
  rfl

theorem getLast?_of_cons {c d : Char} {cs : List Char} (h : (c :: cs).getLast? = some d)
    (hc : c ≠ d) : cs.getLast? = some d := by
  rw [List.getLast?_cons] at h
  cases hlast : cs.getLast? with
  | none =>
    rw [hlast] at h
    exact absurd (Option.some.inj h) hc
  | some e =>
    rw [hlast] at h
    exact h

theorem getLast?_bare {cs : List Char} (h : cs.getLast? = some ']') :
    (bare cs).getLast? = some ']' := by
  fun_induction bare cs with
  | case1 cs _ ih =>
    have hrest := getLast?_of_cons (getLast?_of_cons h (by decide)) (by decide)
    exact getLast?_cons_of_eq (getLast?_cons_of_eq (ih hrest))
  | case2 cs _ ih =>
    have hrest := getLast?_of_cons (getLast?_of_cons h (by decide)) (by decide)
    exact getLast?_cons_of_eq (ih hrest)
  | case3 c cs _ ih =>
    by_cases hc : c = ']'
    · rcases cs with _ | ⟨d, cs⟩
      · exact h
      · rw [List.getLast?_cons_cons] at h
        exact getLast?_cons_of_eq (ih h)
    · exact getLast?_cons_of_eq (ih (getLast?_of_cons h hc))
  | case4 => exact h

theorem closeSlash_of_getLast? {cs : List Char} (h : cs.getLast? = some ']') :
    closeSlash cs = cs := by
  rcases List.getLast?_eq_some_iff.mp h with ⟨ds, rfl⟩
  rw [closeSlash, List.reverse_append, List.reverse_singleton, List.singleton_append]
  rfl

/-- What is shown of a text that ends with a bracket is the bare text, in parts in which names of
pictographs are replaced. -/
theorem exists_parts_of_escape {cs : List Char} (hclosed : cs.getLast? = some ']') :
    ∃ parts : List (List Char), parts.flatten = bare cs ∧
      plain (escape cs) = (parts.flatMap drawNames).filter (!isStripped ·) := by
  have hslashed : Slashed cs (escapeFrom 0 (cs.length + 1) cs) :=
    slashed_escapeFrom (Nat.lt_succ_self _) 0
  have hescape : escape cs = escapeFrom 0 (cs.length + 1) cs :=
    closeSlash_of_getLast? (hslashed.getLast?_eq.trans hclosed)
  refine ⟨(stretchesFrom 0 [] ((escape cs).length + 1) (escape cs)).map openBrackets, ?_, ?_⟩
  · rw [← List.flatMap_def, hescape]
    exact flatMap_stretchesFrom (Nat.lt_succ_self _) shut_reverse_nil (Nat.lt_succ_self _)
  · rw [List.flatMap_map]
    rfl

/-- Without names of pictographs the bare text is shown. -/
theorem plain_escape {cs : List Char} (hclosed : cs.getLast? = some ']')
    (hshown : ∀ c ∈ cs, isStripped c = false) (hnames : Unnamed (bare cs)) :
    plain (escape cs) = bare cs := by
  rcases exists_parts_of_escape hclosed with ⟨parts, hparts, hplain⟩
  have hdrawn : ∀ part ∈ parts, drawNames part = part := fun part hpart =>
    drawNames_of_unnamed (hnames.part (hparts ▸ List.infix_of_mem_flatten hpart))
  have hkept : ∀ c ∈ bare cs, (!isStripped c) = true := fun c hc => by
    rw [hshown c ((bare_sublist cs).subset hc)]
    rfl
  rw [hplain, List.flatMap_congr hdrawn, List.flatMap_id', hparts, List.filter_eq_self.mpr hkept]

/-- Behind every backslash that stands before a bracket there is a tag. -/
def Opens (cs : List Char) : Prop :=
  ∀ before after, cs = before ++ '\\' :: '[' :: after → (tag? ('[' :: after)).isSome

theorem opens_cons_iff (c : Char) (cs : List Char) :
    Opens (c :: cs) ↔
      (∀ after, c = '\\' → cs = '[' :: after → (tag? ('[' :: after)).isSome) ∧ Opens cs := by
  constructor
  · intro h
    refine ⟨?_, fun before after hcs => h (c :: before) after (congrArg (c :: ·) hcs)⟩
    rintro after rfl rfl
    exact h [] after rfl
  · rintro ⟨hhead, htail⟩ before after hcs
    rcases before with _ | ⟨b, before⟩
    · rcases List.cons.inj hcs with ⟨rfl, rfl⟩
      exact hhead after rfl rfl
    · exact htail before after (List.cons.inj hcs).2

/-- Just the texts in which such backslashes stand before tags are bare. -/
theorem bare_eq_self_iff (cs : List Char) : bare cs = cs ↔ Opens cs := by
  fun_induction bare cs with
  | case1 cs htag ih =>
    rw [opens_cons_iff, opens_cons_iff, ← ih, List.cons.injEq, List.cons.injEq]
    have hhead : ∀ after, '\\' = '\\' → '[' :: cs = '[' :: after →
        (tag? ('[' :: after)).isSome := by
      rintro after - h
      rwa [← (List.cons.inj h).2]
    exact ⟨fun h => ⟨hhead, nofun, h.2.2⟩, fun h => ⟨rfl, rfl, h.2.2⟩⟩
  | case2 cs htag ih =>
    rw [opens_cons_iff]
    exact iff_of_false (fun h => absurd (List.cons.inj h).1 (by decide))
      fun h => htag (h.1 cs rfl rfl)
  | case3 c cs hne ih =>
    rw [opens_cons_iff, ← ih, List.cons.injEq]
    exact ⟨fun h => ⟨fun after hc hcs => (hne after hc hcs).elim, h.2⟩, fun h => ⟨rfl, h.2⟩⟩
  | case4 => exact iff_of_true rfl fun before after h => absurd h (by simp)

end Markup

end UiTree.Text
