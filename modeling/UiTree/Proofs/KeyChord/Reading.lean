import Mathlib.Data.List.Induction
import UiTree.KeyChord
import UiTree.Proofs.Text.Casing
import UiTree.Proofs.Text.Classes
import UiTree.Proofs.Text.Pieces

/-!
# Reading chords — from a text to its words, and from the words to the chord

A text that is made by joining words gives these words back, as long as they hold neither
separators nor white space.  The words are read one after the other, but what comes of them is told
by the modifiers among them and by the words that are none.
-/

namespace UiTree

namespace Text

/-! ## 1. Texts without blanks -/

theorem trimEnd_append_singleton (cs : List Char) {c : Char} (h : isBlank c = false) :
    trimEnd (cs ++ [c]) = cs ++ [c] := by
  unfold trimEnd
  rw [List.reverse_append, List.reverse_singleton, List.singleton_append,
    List.dropWhile_cons_of_neg (by simp [h]), List.reverse_cons, List.reverse_reverse]

theorem trim_of_not_isBlank {cs : List Char} (h : ∀ c ∈ cs, isBlank c = false) : trim cs = cs := by
  apply trim_eq_of_stripped
  refine { split := ⟨[], [], by simp, by simp, by simp⟩, head := ?_, last := ?_ }
  · intro c hc
    exact h c (List.mem_of_mem_head? hc)
  · intro c hc
    exact h c (List.mem_reverse.mp (List.mem_of_mem_head? hc))

end Text

namespace KeyChord

open Text

/-! ## 2. Words that are joined -/

/-- A word as it may stand between separators: it holds none of them, and no white space. -/
structure Solid (word : List Char) : Prop where
  ne_nil : word ≠ []
  no_separator : '+' ∉ word
  no_blank : ∀ c ∈ word, isBlank c = false

theorem solid_iff {word : List Char} :
    (!word.isEmpty && !word.contains '+' && word.all (!isBlank ·)) = true ↔ Solid word := by
  have hcontains : (!word.contains '+') = true ↔ '+' ∉ word := by
    rw [Bool.not_eq_true', ← Bool.not_eq_true, List.contains_iff_mem]
  simp only [Bool.and_eq_true, hcontains, Bool.not_eq_true', List.isEmpty_eq_false_iff,
    List.all_eq_true]
  exact ⟨fun h => ⟨h.1.1, h.1.2, h.2⟩, fun h => ⟨⟨h.ne_nil, h.no_separator⟩, h.no_blank⟩⟩

instance (word : List Char) : Decidable (Solid word) := decidable_of_iff _ solid_iff

theorem endsWithPlus_iff (raw : List Char) :
    endsWithPlus raw = true ↔ ['+', '+'] <:+ trimEnd raw := by
  rw [← List.reverse_prefix]
  change endsWithPlus raw = true ↔ ['+', '+'] <+: (trimEnd raw).reverse
  unfold endsWithPlus
  constructor
  · intro h
    split at h
    · rename_i rest heq
      rw [heq]
      exact ⟨rest, rfl⟩
    · cases h
  · rintro ⟨rest, heq⟩
    rw [← heq]
    rfl

theorem endsWithPlus_intercalate {pieces : List (List Char)} (h : ∀ piece ∈ pieces, Solid piece) :
    endsWithPlus (['+'].intercalate pieces) = false := by
  cases pieces using List.reverseRecOn with
  | nil => rfl
  | append_singleton pieces piece =>
    have hpiece : Solid piece := h piece (by simp)
    -- the text ends as its last word does, which is neither a separator nor white space
    have hbefore : ∃ before, ['+'].intercalate (pieces ++ [piece]) = before ++ piece := by
      by_cases hne : pieces = []
      · subst hne
        exact ⟨[], List.intercalate_singleton⟩
      · rw [intercalate_append hne (List.cons_ne_nil piece []), List.intercalate_singleton]
        exact ⟨_, rfl⟩
    rcases hbefore with ⟨before, hbefore⟩
    cases piece using List.reverseRecOn with
    | nil => exact absurd rfl hpiece.ne_nil
    | append_singleton start c =>
      have hblank : isBlank c = false := hpiece.no_blank c (by simp)
      rw [← Bool.not_eq_true, endsWithPlus_iff, hbefore, ← List.append_assoc,
        trimEnd_append_singleton _ hblank]
      rintro ⟨rest, hrest⟩
      apply hpiece.no_separator
      have hlast : rest ++ ['+'] ++ ['+'] = before ++ start ++ [c] := by
        rw [← hrest, List.append_assoc]
        rfl
      rw [List.singleton_inj.mp (List.append_inj' hlast rfl).2]
      exact List.mem_append_right start List.mem_cons_self

/-- The pieces of a text, blank ones among them or not, as its words. -/
theorem words_eq_of_splitAt {raw : List Char} {pieces gaps : List (List Char)}
    (hsplit : splitAt '+' raw = pieces ++ gaps) (h : ∀ piece ∈ pieces, Solid piece)
    (hgaps : ∀ piece ∈ gaps, trim piece = []) : words raw = pieces.map lowerChars := by
  have htrim : pieces.map trim = pieces := by
    rw [List.map_congr_left fun piece hpiece => trim_of_not_isBlank (h piece hpiece).no_blank]
    exact List.map_id' pieces
  have hkept : pieces.filter (!·.isEmpty) = pieces := by
    apply List.filter_eq_self.mpr
    intro piece hpiece
    simpa using (h piece hpiece).ne_nil
  have hdropped : (gaps.map trim).filter (!·.isEmpty) = [] := by
    apply List.filter_eq_nil_iff.mpr
    intro piece hpiece
    rcases List.mem_map.mp hpiece with ⟨gap, hgap, rfl⟩
    rw [hgaps gap hgap]
    exact Bool.false_ne_true
  rw [words, hsplit, List.map_append, htrim, List.filter_append, hkept, hdropped, List.append_nil]

/-- **Words that are joined are read as they were, in lower case.** -/
theorem parts_intercalate {pieces : List (List Char)} (h : ∀ piece ∈ pieces, Solid piece) :
    parts (['+'].intercalate pieces) = pieces.map lowerChars := by
  rw [parts, endsWithPlus_intercalate h, if_neg Bool.false_ne_true, List.append_nil]
  by_cases hne : pieces = []
  · rw [hne]
    rfl
  · have hsplit : splitAt '+' (['+'].intercalate pieces) = pieces ++ [] := by
      rw [List.append_nil]
      exact splitAt_intercalate (fun piece hpiece => (h piece hpiece).no_separator) hne
    exact words_eq_of_splitAt hsplit h (by simp)

/-! ## 3. Words that are read -/

/-- The modifiers among words. -/
def held (parts : List (List Char)) : List Modifier := parts.filterMap modifierOf?

/-- The words that are no modifiers. -/
def others (parts : List (List Char)) : List (List Char) :=
  parts.filter fun part => (modifierOf? part).isNone

variable {part : List Char} {parts : List (List Char)}

theorem held_cons (part : List Char) (parts : List (List Char)) :
    held (part :: parts) = (modifierOf? part).toList ++ held parts := by
  cases h : modifierOf? part with
  | none => rw [held, List.filterMap_cons_none h]; rfl
  | some m => rw [held, List.filterMap_cons_some h]; rfl

theorem others_cons_of_modifier {m : Modifier} (h : modifierOf? part = some m) :
    others (part :: parts) = others parts := by
  rw [others, List.filter_cons_of_neg (by simp [h]), others]

theorem others_cons_of_none (h : modifierOf? part = none) :
    others (part :: parts) = part :: others parts := by
  rw [others, List.filter_cons_of_pos (by simp [h]), others]

theorem held_append (parts more : List (List Char)) :
    held (parts ++ more) = held parts ++ held more :=
  List.filterMap_append

theorem others_append (parts more : List (List Char)) :
    others (parts ++ more) = others parts ++ others more :=
  List.filter_append parts more

/-- A run of reading stops at the second word that is no modifier, and otherwise comes to all the
modifiers and to the one other word, if there is one. -/
theorem readParts_eq (seen : List Modifier) (key : Option (List Char))
    (parts : List (List Char)) :
    readParts seen key parts =
      match key.toList ++ others parts with
      | [] => .ok (seen ++ held parts, none)
      | [word] => .ok (seen ++ held parts, some word)
      | _ :: _ :: _ => .error .severalKeys := by
  -- on the words, as `seen` and `key` are what a step changes
  induction parts generalizing seen key with
  | nil =>
    rw [others, List.filter_nil, held, List.filterMap_nil, List.append_nil, List.append_nil]
    cases key with
    | none => rfl
    | some word => rfl
  | cons part parts ih =>
    rw [held_cons]
    cases hpart : modifierOf? part with
    | some m =>
      -- a modifier is held, whatever the key is
      rw [others_cons_of_modifier hpart, readParts.eq_def]
      simp only [hpart, ih, Option.toList_some, List.append_assoc]
    | none =>
      rw [others_cons_of_none hpart, readParts.eq_def]
      cases key with
      | none => simp only [hpart, ih, Option.toList_none, Option.toList_some, List.nil_append,
          List.singleton_append]
      | some word => simp only [hpart, Option.toList_some, List.singleton_append]

/-- There are no words if none of them is a modifier and none is not. -/
theorem isEmpty_of_others_eq_nil (h : others parts = []) : parts.isEmpty = (held parts).isEmpty := by
  cases parts with
  | nil => rfl
  | cons part parts =>
    cases hpart : modifierOf? part with
    | none =>
      rw [others_cons_of_none hpart] at h
      cases h
    | some m =>
      rw [held_cons, hpart]
      rfl

theorem isKey_iff {key : List Char} :
    isKey key = true ↔ String.ofList key ∈ namedKeys ∨ ∃ c, key = [c] ∧ isPrintable c = true := by
  unfold isKey
  rw [Bool.or_eq_true, List.contains_iff_mem]
  apply or_congr Iff.rfl
  constructor
  · intro h
    split at h
    · rename_i c
      exact ⟨c, rfl, h⟩
    · cases h
  · rintro ⟨c, rfl, hc⟩
    exact hc

/-- The chord of a key with modifiers held. -/
def chordOf (held : List Modifier) (key : List Char) : Except Problem KeyChord :=
  if isKey key then
    .ok { key := String.ofList key, modifiers := Modifier.all.filter held.contains }
  else .error (.unknownKey (String.ofList key))

/-- A chord has the modifiers that are held. -/
theorem mem_modifiers {ms : List Modifier} {m : Modifier} :
    m ∈ Modifier.all.filter ms.contains ↔ m ∈ ms := by
  have hall : m ∈ Modifier.all := by cases m <;> decide
  rw [List.mem_filter, List.contains_iff_mem]
  exact and_iff_right hall

/-- What comes of modifiers and other words. -/
def settle (held : List Modifier) : List (List Char) → Except Problem KeyChord
  | [] => .error (if held.isEmpty then .empty else .noKey)
  | [key] => chordOf held key
  | _ :: _ :: _ => .error .severalKeys

/-- **What comes of words is told by the modifiers among them and by the others.** -/
theorem ofParts_eq (parts : List (List Char)) :
    ofParts parts = settle (held parts) (others parts) := by
  rw [ofParts, readParts_eq, Option.toList_none, List.nil_append, List.nil_append]
  cases hothers : others parts with
  | nil =>
    rw [isEmpty_of_others_eq_nil hothers, settle]
    cases (held parts).isEmpty with
    | true => rfl
    | false => rfl
  | cons key rest =>
    have hparts : parts.isEmpty = false := by
      cases parts with
      | nil => cases hothers
      | cons part parts => rfl
    rw [hparts, if_neg Bool.false_ne_true]
    cases rest with
    | nil => rfl
    | cons word rest => rfl

theorem parse_of_ofParts {raw : String} {chord : KeyChord}
    (h : ofParts (KeyChord.parts raw.toList) = .ok chord) : parse raw = .ok chord := by
  rw [parse, h]

theorem parse_of_ofParts_error {raw : String} {problem : Problem}
    (h : ofParts (KeyChord.parts raw.toList) = .error problem) :
    parse raw = .error (.invalidKey raw (problem.reason raw)) := by
  rw [parse, h]

theorem ofParts_of_parse {raw : String} {chord : KeyChord} (h : parse raw = .ok chord) :
    ofParts (KeyChord.parts raw.toList) = .ok chord := by
  cases hparts : ofParts (KeyChord.parts raw.toList) with
  | ok _ =>
    rw [parse, hparts] at h
    cases h
    rfl
  | error problem =>
    rw [parse, hparts] at h
    cases h

end KeyChord

end UiTree
