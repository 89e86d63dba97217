import UiTree.Proofs.KeyChord.Reading
import UiTree.Proofs.Text.Appearance

/-!
# Spelling — one chord, however it is written

What comes of a text is told by the modifiers that it names and by its other words, in whatever
order they stand and however often a modifier is named.  A chord that was read can be written back.
-/

namespace UiTree.KeyChord

open Text

/-! ## 1. Order and repetition -/

variable {ms ns : List Modifier} {parts more : List (List Char)}

/-- Modifiers are a set. -/
theorem settle_congr (h : ∀ m, m ∈ ms ↔ m ∈ ns) (words : List (List Char)) :
    settle ms words = settle ns words := by
  cases words with
  | nil =>
    have hempty : ms.isEmpty = ns.isEmpty := by
      rw [Bool.eq_iff_iff, List.isEmpty_iff, List.isEmpty_iff, List.eq_nil_iff_forall_not_mem,
        List.eq_nil_iff_forall_not_mem]
      simp only [h]
    rw [settle, settle, hempty]
  | cons key rest =>
    cases rest with
    | nil =>
      have hcontains : ∀ m ∈ Modifier.all, ms.contains m = ns.contains m := by
        intro m _
        rw [Bool.eq_iff_iff, List.contains_iff_mem, List.contains_iff_mem, h m]
      rw [settle, settle, chordOf, chordOf, List.filter_congr hcontains]
    | cons word rest => rfl

/-- The other words are a multiset. -/
theorem settle_perm (ms : List Modifier) {words more : List (List Char)} (h : words.Perm more) :
    settle ms words = settle ms more := by
  induction h with
  | nil => rfl
  | @cons key words more h _ =>
    cases words with
    | nil => rw [h.nil_eq]
    | cons word words =>
      cases more with
      | nil => cases h.eq_nil
      | cons other more => rfl
  -- two words are too many in either order
  | swap => rfl
  | trans _ _ first second => exact first.trans second

theorem ofParts_congr (hheld : ∀ m, m ∈ held parts ↔ m ∈ held more)
    (hothers : (others parts).Perm (others more)) : ofParts parts = ofParts more := by
  rw [ofParts_eq, ofParts_eq, settle_congr hheld, settle_perm _ hothers]

theorem parts_of_not_endsWithPlus {raw : List Char} (h : ¬ ['+', '+'] <:+ trimEnd raw) :
    KeyChord.parts raw = words raw := by
  rw [← endsWithPlus_iff, Bool.not_eq_true] at h
  rw [KeyChord.parts, h, if_neg Bool.false_ne_true, List.append_nil]

/-! ## 2. Keys -/

theorem lowerChars_of_mem_words {raw word : List Char} (h : word ∈ words raw) :
    ∃ piece, Stops isBlank piece ∧ piece ≠ [] ∧ word = lowerChars piece := by
  rcases List.mem_map.mp h with ⟨piece, hpiece, rfl⟩
  rcases List.mem_filter.mp hpiece with ⟨htrimmed, hne⟩
  rcases List.mem_map.mp htrimmed with ⟨untrimmed, -, rfl⟩
  exact ⟨trim untrimmed, (stripped_trim untrimmed).head, by simpa using hne, rfl⟩

theorem solid_of_mem_namedKeys {name : String} (h : name ∈ namedKeys) : Solid name.toList := by
  have hall : (namedKeys.all fun name => Solid name.toList) = true := by decide +kernel
  exact of_decide_eq_true (List.all_eq_true.mp hall name h)

/-- A key that was read holds no white space, for a word that lower case makes one character of
does not begin with any; and it holds a separator only if it is one. -/
theorem solid_of_isKey {raw key : List Char} (hkey : isKey key = true) (hword : key ∈ words raw)
    (hplus : key ≠ ['+']) : Solid key := by
  rcases isKey_iff.mp hkey with hnamed | ⟨d, rfl, -⟩
  · have hsolid := solid_of_mem_namedKeys hnamed
    rwa [String.toList_ofList] at hsolid
  · rcases lowerChars_of_mem_words hword with ⟨piece, hstops, hne, hlower⟩
    rcases List.exists_cons_of_ne_nil hne with ⟨c, rest, rfl⟩
    rw [stops_cons] at hstops
    -- the one character is what the first of a trimmed piece becomes
    have hd : d ∈ lowerAt [] c rest := by
      rcases List.exists_cons_of_ne_nil (lowerAt_ne_nil [] c rest) with ⟨e, es, hat⟩
      rw [lowerChars, lowerFrom_cons, hat] at hlower
      rw [hat, (List.cons.inj hlower).1]
      exact List.mem_cons_self
    refine { ne_nil := List.cons_ne_nil d [], no_separator := ?_, no_blank := ?_ }
    · intro hmem
      rw [List.mem_singleton.mp hmem] at hplus
      exact hplus rfl
    · intro e he
      rw [List.mem_singleton.mp he]
      exact isBlank_of_mem_lowerAt hstops hd

/-- What a chord was read from. -/
theorem exists_of_ofParts {chord : KeyChord} (h : ofParts parts = .ok chord) :
    others parts = [chord.key.toList] ∧ isKey chord.key.toList = true ∧
      ∀ m, m ∈ chord.modifiers ↔ m ∈ held parts := by
  rw [ofParts_eq] at h
  unfold settle at h
  split at h
  · cases h
  · rename_i key hothers
    unfold chordOf at h
    split at h
    · rename_i hkey
      cases h
      rw [String.toList_ofList]
      exact ⟨hothers, hkey, fun m => mem_modifiers⟩
    · cases h
  · cases h

/-! ## 3. Writing back -/

/-- The name of a modifier, as it stands in a text. -/
def nameOf (m : Modifier) : List Char := m.name.toList

theorem solid_nameOf (m : Modifier) : Solid (nameOf m) := by
  cases m <;> decide +kernel

theorem lowerChars_nameOf (m : Modifier) : lowerChars (nameOf m) = nameOf m := by
  cases m <;> rfl

theorem modifierOf?_nameOf (m : Modifier) : modifierOf? (nameOf m) = some m := by
  rw [modifierOf?, nameOf, String.ofList_toList]
  cases m <;> rfl

theorem held_map_nameOf (ms : List Modifier) : held (ms.map nameOf) = ms := by
  have hread : modifierOf? ∘ nameOf = some := funext modifierOf?_nameOf
  rw [held, List.filterMap_map, hread, List.filterMap_some]

theorem others_map_nameOf (ms : List Modifier) : others (ms.map nameOf) = [] := by
  apply List.filter_eq_nil_iff.mpr
  intro word hword
  rcases List.mem_map.mp hword with ⟨m, -, rfl⟩
  rw [modifierOf?_nameOf]
  exact Bool.false_ne_true

/-- Names of modifiers around a word that is none. -/
theorem held_others_around {key : List Char} (hkey : modifierOf? key = none)
    (before after : List Modifier) :
    held (before.map nameOf ++ key :: after.map nameOf) = before ++ after ∧
      others (before.map nameOf ++ key :: after.map nameOf) = [key] := by
  have hheld : held (key :: after.map nameOf) = after := by
    rw [held_cons, hkey, held_map_nameOf]
    rfl
  have hothers : others (key :: after.map nameOf) = [key] := by
    rw [others_cons_of_none hkey, others_map_nameOf]
  constructor
  · rw [held_append, held_map_nameOf, hheld]
  · rw [others_append, others_map_nameOf, hothers, List.nil_append]

/-- The words of a text that names a key between modifiers. -/
theorem parts_around {key : List Char} (hsolid : Solid key) (hlower : lowerChars key = key)
    (before after : List Modifier) :
    KeyChord.parts (['+'].intercalate (before.map nameOf ++ key :: after.map nameOf)) =
      before.map nameOf ++ key :: after.map nameOf := by
  have hnames : ∀ ms : List Modifier, (ms.map nameOf).map lowerChars = ms.map nameOf := by
    intro ms
    rw [List.map_map]
    exact List.map_congr_left fun m _ => lowerChars_nameOf m
  rw [parts_intercalate, List.map_append, List.map_cons, hnames, hnames, hlower]
  intro piece hpiece
  rcases List.mem_append.mp hpiece with hbefore | hrest
  · rcases List.mem_map.mp hbefore with ⟨m, -, rfl⟩
    exact solid_nameOf m
  · rcases List.mem_cons.mp hrest with rfl | hafter
    · exact hsolid
    · rcases List.mem_map.mp hafter with ⟨m, -, rfl⟩
      exact solid_nameOf m

/-- A key that is not the plus key stands among the words that it was read from. -/
theorem mem_words_of_parse {raw : String} {chord : KeyChord} (h : parse raw = .ok chord)
    (hplus : chord.key ≠ "+") : chord.key.toList ∈ words raw.toList := by
  rcases exists_of_ofParts (ofParts_of_parse h) with ⟨hothers, -, -⟩
  have hpart : chord.key.toList ∈ KeyChord.parts raw.toList := by
    have hmem : chord.key.toList ∈ others (KeyChord.parts raw.toList) := by
      rw [hothers]
      exact List.mem_cons_self
    exact (List.mem_filter.mp hmem).1
  rcases List.mem_append.mp hpart with hword | hlast
  · exact hword
  · exfalso
    split at hlast
    · exact hplus (String.toList_inj.mp (List.mem_singleton.mp hlast))
    · cases hlast

theorem lowerChars_of_word {raw word : List Char} (h : word ∈ words raw) :
    lowerChars word = word := by
  rcases lowerChars_of_mem_words h with ⟨piece, -, -, rfl⟩
  exact lowerChars_lowerChars piece

/-- A chord that was read can be written with its modifiers in any order and number, and its key
anywhere among them. -/
theorem parse_around {raw : String} {chord : KeyChord} (h : parse raw = .ok chord)
    (hplus : chord.key ≠ "+") {before after : List Modifier}
    (hmodifiers : ∀ m, m ∈ before ++ after ↔ m ∈ chord.modifiers) :
    parse ("+".intercalate (before.map Modifier.name ++ chord.key :: after.map Modifier.name)) =
      .ok chord := by
  have hread := ofParts_of_parse h
  rcases exists_of_ofParts hread with ⟨hothers, hkey, hheld⟩
  have hword := mem_words_of_parse h hplus
  have hplus' : chord.key.toList ≠ ['+'] := fun hlist => hplus (String.toList_inj.mp hlist)
  have hnone : modifierOf? chord.key.toList = none := by
    have hmem : chord.key.toList ∈ others (KeyChord.parts raw.toList) := by
      rw [hothers]
      exact List.mem_cons_self
    simpa using (List.mem_filter.mp hmem).2
  have htext : ("+".intercalate (before.map Modifier.name ++
      chord.key :: after.map Modifier.name)).toList =
        ['+'].intercalate (before.map nameOf ++ chord.key.toList :: after.map nameOf) := by
    rw [String.toList_intercalate, List.map_append, List.map_cons, List.map_map, List.map_map]
    rfl
  -- the words are those of the text that was read, up to their order and number
  apply parse_of_ofParts
  rw [htext, parts_around (solid_of_isKey hkey hword hplus') (lowerChars_of_word hword), ← hread]
  rcases held_others_around hnone before after with ⟨haround, hone⟩
  apply ofParts_congr
  · intro m
    rw [haround, hmodifiers, hheld]
  · rw [hone, hothers]

/-! ## 4. Spelling -/

/-- **A chord does not depend on how it is written.**  Two texts that do not end with two
separators, and name the same modifiers and the same other words in whatever order, come to the
same chord or to the same problem.  And a chord that was read, save for the plus key, is read again
from its key anywhere among its modifiers, in any order and each any number of times. -/
theorem spellings_agree :
    (∀ raw other : String,
      ¬ ['+', '+'] <:+ trimEnd raw.toList → ¬ ['+', '+'] <:+ trimEnd other.toList →
      (∀ m, m ∈ held (words raw.toList) ↔ m ∈ held (words other.toList)) →
      (others (words raw.toList)).Perm (others (words other.toList)) →
      (∃ chord, parse raw = .ok chord ∧ parse other = .ok chord) ∨
      ∃ problem : Problem, parse raw = .error (.invalidKey raw (problem.reason raw)) ∧
        parse other = .error (.invalidKey other (problem.reason other))) ∧
    ∀ raw chord, parse raw = .ok chord → chord.key ≠ "+" → ∀ before after : List Modifier,
      (∀ m, m ∈ before ++ after ↔ m ∈ chord.modifiers) →
      parse ("+".intercalate (before.map Modifier.name ++
        chord.key :: after.map Modifier.name)) = .ok chord := by
  constructor
  · intro raw other hraw hother hheld hothers
    have hparts : ofParts (KeyChord.parts raw.toList) = ofParts (KeyChord.parts other.toList) := by
      rw [parts_of_not_endsWithPlus hraw, parts_of_not_endsWithPlus hother]
      exact ofParts_congr hheld hothers
    cases hread : ofParts (KeyChord.parts raw.toList) with
    | ok chord => exact .inl ⟨chord, parse_of_ofParts hread, parse_of_ofParts (hparts ▸ hread)⟩
    | error problem =>
      exact .inr ⟨problem, parse_of_ofParts_error hread,
        parse_of_ofParts_error (hparts ▸ hread)⟩
  · intro raw chord h hplus before after hmodifiers
    exact parse_around h hplus hmodifiers

/-- An alias, an empty part, capitals and a modifier named twice; and what was read written back
with its key in the middle. -/
theorem spellings_agree_controlOption :
    parse "ctrl + alt + F12" = .ok { key := "f12", modifiers := [.control, .option] } ∧
    parse " Option++f12+CONTROL+alt" = .ok { key := "f12", modifiers := [.control, .option] } ∧
    parse "option+option+f12+control" = .ok { key := "f12", modifiers := [.control, .option] } := by
  obtain ⟨hsame, hback⟩ := spellings_agree
  have hread : parse "ctrl + alt + F12" =
      .ok { key := "f12", modifiers := [.control, .option] } :=
    parse_of_ofParts (by decide +kernel)
  refine ⟨hread, ?_, ?_⟩
  · have hheld : ∀ m, m ∈ held (words "ctrl + alt + F12".toList) ↔
        m ∈ held (words " Option++f12+CONTROL+alt".toList) := by
      intro m
      cases m <;> decide +kernel
    rcases hsame "ctrl + alt + F12" " Option++f12+CONTROL+alt" (by decide +kernel)
      (by decide +kernel) hheld (by decide +kernel) with
      ⟨chord, hfirst, hsecond⟩ | ⟨problem, hfirst, -⟩
    · rw [hread] at hfirst
      rw [hsecond, ← hfirst]
    · rw [hread] at hfirst
      cases hfirst
  · apply hback _ _ hread (by decide) [.option, .option] [.control]
    intro m
    cases m <;> decide

end UiTree.KeyChord
