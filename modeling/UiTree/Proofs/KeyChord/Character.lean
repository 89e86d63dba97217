import Mathlib.Data.List.Basic
import UiTree.Proofs.KeyChord.Reading
import UiTree.Proofs.Text.Appearance

/-!
# Characters — keys that are one printable character

A character that can be seen is a key by itself and with modifiers before it, in lower case.  There
are two exceptions: the plus key without modifiers is taken for a separator, and the dotted capital
is two characters in lower case.
-/

namespace UiTree

open Text

/-- The modifier that a word names, in whatever letter case. -/
def Modifier.named? (word : String) : Option Modifier := Modifier.ofWord? word.toLower

namespace KeyChord

/-! ## 1. Names of modifiers -/

/-- The words that mean a modifier. -/
def aliases : List String := ["command", "cmd", "shift", "option", "alt", "control", "ctrl"]

theorem mem_aliases {word : String} {m : Modifier} (h : Modifier.ofWord? word = some m) :
    word ∈ aliases := by
  unfold Modifier.ofWord? at h
  split at h
  case h_8 => cases h
  all_goals decide

/-- An alias is made of small letters, three or more. -/
theorem aliases_spec {word : String} (h : word ∈ aliases) :
    2 < word.toList.length ∧ ∀ d ∈ word.toList, d.isLower = true := by
  have hall : (aliases.all fun word => decide (2 < word.toList.length) &&
      word.toList.all Char.isLower) = true := by
    decide +kernel
  have hword := List.all_eq_true.mp hall word h
  rw [Bool.and_eq_true, decide_eq_true_eq, List.all_eq_true] at hword
  exact hword

theorem modifierOf?_of_length_le {word : List Char} (h : word.length ≤ 2) :
    modifierOf? word = none := by
  cases hword : modifierOf? word with
  | none => rfl
  | some m =>
    have hlength := (aliases_spec (mem_aliases hword)).1
    rw [String.toList_ofList] at hlength
    omega

/-- What is a small letter in lower case is an ASCII letter. -/
theorem letter_of_toLower {c : Char} (h : c.toLower.isLower = true) :
    c.toNat < 0x80 ∧ c ≠ '+' ∧ isBlank c = false := by
  -- beyond ASCII no character changes, and none is a small letter
  have hlt : c.toNat < 0x80 := by
    by_contra hge
    have hkept : c.toLower = c :=
      dif_neg fun hcapital => hge (Nat.lt_of_le_of_lt hcapital.2 (by decide))
    rw [hkept] at h
    have htop : c.val ≤ 'z'.val := of_decide_eq_true (Bool.and_eq_true_iff.mp h).2
    exact hge (Nat.lt_of_le_of_lt htop (by decide))
  have hletter : c.toLower.isLower = true → c ≠ '+' ∧ isBlank c = false := by
    apply of_toNat_lt ?_ hlt
    decide +kernel
  exact ⟨hlt, hletter h⟩

/-- A name is read as the modifier that it names. -/
theorem named_spec {word : String} {m : Modifier} (h : Modifier.named? word = some m) :
    Solid word.toList ∧ modifierOf? (lowerChars word.toList) = some m := by
  obtain ⟨hlength, hsmall⟩ := aliases_spec (mem_aliases h)
  have htext : word.toLower.toList = word.toList.map Char.toLower := String.toList_map
  rw [htext] at hlength hsmall
  have hletter : ∀ c ∈ word.toList, c.toNat < 0x80 ∧ c ≠ '+' ∧ isBlank c = false :=
    fun c hc => letter_of_toLower (hsmall _ (List.mem_map_of_mem hc))
  constructor
  · refine { ne_nil := ?_, no_separator := ?_, no_blank := fun c hc => (hletter c hc).2.2 }
    · intro hnil
      rw [hnil] at hlength
      exact absurd hlength (by decide)
    · intro hplus
      exact (hletter '+' hplus).2.1 rfl
  · have hlower : lowerChars word.toList = word.toLower.toList := by
      rw [htext]
      exact lowerFrom_of_lt fun c hc => (hletter c hc).1
    rw [modifierOf?, hlower, String.ofList_toList]
    exact h

/-! ## 2. Names before a character -/

section

variable {names : List String} (hnames : ∀ name ∈ names, (Modifier.named? name).isSome)
include hnames

theorem solid_of_mem_names {piece : List Char} (hpiece : piece ∈ names.map String.toList) :
    Solid piece := by
  rcases List.mem_map.mp hpiece with ⟨name, hname, rfl⟩
  rcases Option.isSome_iff_exists.mp (hnames name hname) with ⟨m, hm⟩
  exact (named_spec hm).1

theorem modifierOf?_of_mem_names {name : String} (hname : name ∈ names) :
    modifierOf? (lowerChars name.toList) = Modifier.named? name := by
  rcases Option.isSome_iff_exists.mp (hnames name hname) with ⟨m, hm⟩
  rw [hm, (named_spec hm).2]

/-- The words of a text of names and one word that is no modifier. -/
theorem held_others_names {key : List Char} (hkey : modifierOf? key = none) :
    held ((names.map String.toList).map lowerChars ++ [key]) =
        names.filterMap Modifier.named? ∧
      others ((names.map String.toList).map lowerChars ++ [key]) = [key] := by
  have hheld : held ((names.map String.toList).map lowerChars) =
      names.filterMap Modifier.named? := by
    rw [held, List.map_map, List.filterMap_map]
    exact List.filterMap_congr fun name hname => modifierOf?_of_mem_names hnames hname
  have hothers : others ((names.map String.toList).map lowerChars) = [] := by
    apply List.filter_eq_nil_iff.mpr
    intro word hword
    rw [List.map_map] at hword
    rcases List.mem_map.mp hword with ⟨name, hname, rfl⟩
    have hsome := hnames name hname
    rw [← modifierOf?_of_mem_names hnames hname, Option.isSome_iff_ne_none] at hsome
    simpa using hsome
  constructor
  · rw [held_append, hheld, held_cons, hkey]
    exact List.append_nil _
  · rw [others_append, hothers, others_cons_of_none hkey]
    rfl

/-- The words of a text of names and a character are those of the names, and the character in lower
case.  The plus key is found at the end of the text, if there is a separator before it. -/
theorem parts_character {c : Char} (hblank : isBlank c = false) (hplus : c = '+' → names ≠ []) :
    KeyChord.parts (['+'].intercalate (names.map String.toList ++ [[c]])) =
      (names.map String.toList).map lowerChars ++ [lowerChars [c]] := by
  by_cases hc : c = '+'
  · subst hc
    have hne : names.map String.toList ≠ [] := fun h => hplus rfl (List.map_eq_nil_iff.mp h)
    -- the text is cut into the names and two empty pieces, as both separators stand at its end
    have hjoined : ['+'].intercalate (names.map String.toList ++ [['+']]) =
        ['+'].intercalate (names.map String.toList) ++ ['+'] ++ ['+'] := by
      rw [intercalate_append hne (by simp), List.intercalate_singleton]
    have hempty : ['+'].intercalate (names.map String.toList ++ [[], []]) =
        ['+'].intercalate (names.map String.toList) ++ ['+'] ++ ['+'] := by
      rw [intercalate_append hne (by simp)]
      rfl
    have hsplit : splitAt '+' (['+'].intercalate (names.map String.toList ++ [['+']])) =
        names.map String.toList ++ [[], []] := by
      rw [hjoined, ← hempty]
      apply splitAt_intercalate
      · intro piece hpiece
        rcases List.mem_append.mp hpiece with hname | hlast
        · exact (solid_of_mem_names hnames hname).no_separator
        · have hnil : piece = [] := by simpa using hlast
          rw [hnil]
          exact List.not_mem_nil
      · exact List.append_ne_nil_of_left_ne_nil hne _
    have hends : endsWithPlus (['+'].intercalate (names.map String.toList ++ [['+']])) = true := by
      rw [endsWithPlus_iff, hjoined, trimEnd_append_singleton _ hblank, List.append_assoc]
      exact List.suffix_append _ _
    have hblanks : ∀ piece ∈ [([] : List Char), []], trim piece = [] := by
      intro piece hpiece
      have hnil : piece = [] := by simpa using hpiece
      rw [hnil]
      rfl
    rw [KeyChord.parts, words_eq_of_splitAt hsplit (fun _ => solid_of_mem_names hnames) hblanks,
      hends]
    rfl
  · rw [parts_intercalate, List.map_append, List.map_singleton]
    intro piece hpiece
    rcases List.mem_append.mp hpiece with hname | hlast
    · exact solid_of_mem_names hnames hname
    · rw [List.mem_singleton.mp hlast]
      refine { ne_nil := List.cons_ne_nil c [], no_separator := ?_, no_blank := ?_ }
      · intro hmem
        exact hc (List.mem_singleton.mp hmem).symm
      · intro d hd
        rwa [List.mem_singleton.mp hd]

/-- What comes of such a text is told by the character in lower case. -/
theorem ofParts_character {c : Char} (hblank : isBlank c = false)
    (hplus : c = '+' → names ≠ []) (hkey : modifierOf? (lowerChars [c]) = none) :
    ofParts (KeyChord.parts ("+".intercalate (names ++ [String.singleton c])).toList) =
      chordOf (names.filterMap Modifier.named?) (lowerChars [c]) := by
  have htext : ("+".intercalate (names ++ [String.singleton c])).toList =
      ['+'].intercalate (names.map String.toList ++ [[c]]) := by
    rw [String.toList_intercalate, List.map_append, List.map_singleton, String.toList_singleton]
    rfl
  obtain ⟨hheld, hothers⟩ := held_others_names hnames hkey
  rw [htext, parts_character hnames hblank hplus, ofParts_eq, hheld, hothers, settle]

end

/-! ## 3. Characters -/

/-- In lower case a printable character is a key of one character. -/
theorem isKey_lowerChars {c : Char} (hdotted : c ≠ 'İ') (hprintable : isPrintable c = true) :
    isKey (lowerChars [c]) = true ∧ modifierOf? (lowerChars [c]) = none := by
  rcases exists_lowerAt_eq_singleton hdotted [] [] with ⟨d, hat⟩
  have hlower : lowerChars [c] = [d] := by
    rw [lowerChars, lowerFrom_cons, hat]
    rfl
  have hd : d ∈ lowerAt [] c [] := by
    rw [hat]
    exact List.mem_cons_self
  rw [hlower]
  constructor
  · exact isKey_iff.mpr (.inr ⟨d, rfl, isPrintable_of_mem_lowerAt hprintable hd⟩)
  · exact modifierOf?_of_length_le (by simp)

/-- A character is a key when names of modifiers stand before it: it is read in lower case, with
exactly the modifiers named. -/
def IsKeyBehind (names : List String) (c : Char) : Prop :=
  ∃ chord, parse ("+".intercalate (names ++ [String.singleton c])) = .ok chord ∧
    chord.key = lower (String.singleton c) ∧
    ∀ m, m ∈ chord.modifiers ↔ ∃ name ∈ names, Modifier.named? name = some m

theorem not_isKeyBehind_of_error {names : List String} {c : Char} {f : Failure}
    (h : parse ("+".intercalate (names ++ [String.singleton c])) = .error f) :
    ¬ IsKeyBehind names c := by
  rintro ⟨chord, hread, -⟩
  rw [h] at hread
  cases hread

/-- **A printable character is a key, save for two cases.**  The dotted capital is two characters in
lower case, and so an unknown key; and the plus key with no modifier before it is taken for a
separator, and so for an empty text. -/
theorem characters_are_keys_save_two {names : List String} {c : Char}
    (hnames : ∀ name ∈ names, (Modifier.named? name).isSome)
    (hprintable : isPrintable c = true) (hblank : isBlank c = false) :
    let raw := "+".intercalate (names ++ [String.singleton c])
    (IsKeyBehind names c ↔ c ≠ 'İ' ∧ (c = '+' → names ≠ [])) ∧
    (c = 'İ' → parse raw =
      .error (.invalidKey raw (Problem.reason raw (.unknownKey (lower (String.singleton c)))))) ∧
    (c = '+' → names = [] → parse raw = .error (.invalidKey raw (Problem.reason raw .empty))) := by
  intro raw
  have hlower : String.ofList (lowerChars [c]) = lower (String.singleton c) := by
    rw [lower, String.toList_singleton]
  have hdotted : c = 'İ' → parse raw =
      .error (.invalidKey raw (Problem.reason raw (.unknownKey (lower (String.singleton c))))) := by
    rintro rfl
    have hnone : modifierOf? (lowerChars ['İ']) = none := by decide +kernel
    have hkey : isKey (lowerChars ['İ']) = false := by decide +kernel
    have hread := ofParts_character hnames hblank (fun h => absurd h (by decide)) hnone
    rw [chordOf, hkey, if_neg Bool.false_ne_true, hlower] at hread
    exact parse_of_ofParts_error hread
  have halone : c = '+' → names = [] →
      parse raw = .error (.invalidKey raw (Problem.reason raw .empty)) := by
    rintro rfl rfl
    exact parse_of_ofParts_error (by decide +kernel)
  refine ⟨⟨?_, ?_⟩, hdotted, halone⟩
  -- a text that is refused is no key, so that a key is neither of the two
  · intro hkey
    refine ⟨fun hc => ?_, fun hc hnil => ?_⟩
    · exact not_isKeyBehind_of_error (hdotted hc) hkey
    · exact not_isKeyBehind_of_error (halone hc hnil) hkey
  · rintro ⟨hc, hplus⟩
    obtain ⟨hkey, hnone⟩ := isKey_lowerChars hc hprintable
    have hread := ofParts_character hnames hblank hplus hnone
    rw [chordOf, if_pos hkey] at hread
    refine ⟨_, parse_of_ofParts hread, hlower, fun m => ?_⟩
    rw [mem_modifiers, List.mem_filterMap]

/-- The plus key behind two modifiers, and the Kelvin sign, whose lower case is a `k`. -/
theorem characters_are_keys_save_two_plus :
    (∀ name ∈ ["CMD", "Alt"], (Modifier.named? name).isSome) ∧
    isPrintable '+' = true ∧ isBlank '+' = false ∧ IsKeyBehind ["CMD", "Alt"] '+' ∧
    isPrintable '\u212a' = true ∧ isBlank '\u212a' = false ∧ IsKeyBehind [] '\u212a' := by
  have hnames : ∀ name ∈ ["CMD", "Alt"], (Modifier.named? name).isSome := by decide +kernel
  have hplus : isPrintable '+' = true ∧ isBlank '+' = false := by decide
  have hkelvin : isPrintable '\u212a' = true ∧ isBlank '\u212a' = false := by decide +kernel
  refine ⟨hnames, hplus.1, hplus.2, ?_, hkelvin.1, hkelvin.2, ?_⟩
  · exact (characters_are_keys_save_two hnames hplus.1 hplus.2).1.mpr ⟨by decide, by decide⟩
  · have hnone : ∀ name ∈ ([] : List String), (Modifier.named? name).isSome :=
      List.forall_mem_nil _
    exact (characters_are_keys_save_two hnone hkelvin.1 hkelvin.2).1.mpr ⟨by decide, by decide⟩

/-- Both of the two can be seen, and neither is a key by itself. -/
theorem not_characters_are_keys_of_plus :
    isPrintable '+' = true ∧ isBlank '+' = false ∧ ¬ IsKeyBehind [] '+' ∧
    isPrintable 'İ' = true ∧ isBlank 'İ' = false ∧ ¬ IsKeyBehind [] 'İ' := by
  refine ⟨by decide, by decide, ?_, by decide +kernel, by decide +kernel, ?_⟩
  · have hread : ofParts (KeyChord.parts "+".toList) = .error .empty := by decide +kernel
    exact not_isKeyBehind_of_error (parse_of_ofParts_error hread)
  · have hread : ofParts (KeyChord.parts "İ".toList) = .error (.unknownKey "i\u0307") := by
      decide +kernel
    exact not_isKeyBehind_of_error (parse_of_ofParts_error hread)

end KeyChord

end UiTree
