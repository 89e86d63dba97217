import UiTree.Proofs.Selector.Position

/-!
# Offence — what stands at the place of a refusal

A refusal counts its place in the trimmed text, and what stands there is what its cause complains
about.  In the text as it was given the same characters stand further on, by the white space at its
start.
-/

namespace UiTree.Selector.Grammar

open UiTree.Text

/-! ## 1. What a cause complains about -/

/-- A text goes on with what the cause of a refusal says. -/
def Offends : Cause → List Char → Prop
  | .emptyStep, cs => cs ≠ [] ∧ Stops isLetter cs ∧ cs.head? ≠ some '#' ∧ cs.head? ≠ some '['
  | .noIdentifier, cs => Stops startsIdentifier cs
  | .noKey, cs => Stops isLetter cs
  | .noOperator _, cs => ∀ (op : Op) (rest : List Char), cs ≠ op.symbol.toList ++ rest
  | .openQuote _, cs => '"' ∉ cs
  | .emptyValue _, cs => ∀ c ∈ cs.head?, c = ']'
  -- a filter up to the end of the text, without its closing bracket
  | .openFilter, cs => ∃ (key : Word isLetter) (op : Op) (v : Value),
      cs = '[' :: (key.text ++ (op.symbol.toList ++ v.text))
  | .noClosing _, cs => ∃ c rest, cs = c :: rest ∧ c ≠ ']'
  | .noGap, cs => ∃ c rest, cs = c :: rest ∧ isBlank c = false

/-- The place of a refusal divides the text, and what comes after it offends. -/
def Halts (cs : List Char) (r : Refusal) : Prop :=
  ∃ after, after <:+ cs ∧ after.length = r.left ∧ Offends r.cause after

variable {r : Refusal} {key rest : List Char}

theorem Halts.behind {cs ds : List Char} (h : Halts cs r) (hs : cs <:+ ds) : Halts ds r := by
  obtain ⟨after, hafter, hleft, hoffends⟩ := h
  exact ⟨after, hafter.trans hs, hleft, hoffends⟩

theorem halts_at_start {cs : List Char} {cause : Cause} (h : Offends cause cs) :
    Halts cs ⟨cause, cs.length⟩ :=
  ⟨cs, List.suffix_refl cs, rfl, h⟩

/-! ## 2. The readers of a filter -/

theorem stops_of_readWord {first : Char → Bool} {cs : List Char} (h : readWord first cs = none) :
    Stops first cs := by
  cases cs with
  | nil => exact stops_nil
  | cons c cs =>
    rw [readWord] at h
    split at h
    · cases h
    · rename_i hc
      exact stops_cons.mpr (Bool.eq_false_iff.mpr hc)

theorem halts_of_readOp {cs : List Char} (h : readOp key cs = .error r) : Halts cs r := by
  unfold readOp at h
  split at h
  · cases h
  · cases h
  · rename_i hcontains hequals
    cases h
    refine halts_at_start fun op rest hcs => ?_
    cases op with
    | contains => exact hcontains rest hcs
    | equals => exact hequals rest hcs

theorem halts_of_readValue {cs : List Char} (h : readValue key cs = .error r) : Halts cs r := by
  unfold readValue at h
  split at h
  · rename_i cs
    split at h
    · cases h
    · rename_i hd
      cases h
      have hopen : '"' ∉ cs := by
        have hsplit : cs.takeWhile (· != '"') ++ cs.dropWhile (· != '"') = cs :=
          List.takeWhile_append_dropWhile
        rw [hd, List.append_nil] at hsplit
        rw [← hsplit]
        exact not_mem_takeWhile_bne cs '"'
      exact ⟨cs, List.suffix_cons '"' cs, rfl, hopen⟩
  · simp only at h
    split at h
    · rename_i hempty
      cases h
      refine halts_at_start fun c hc => ?_
      cases cs with
      | nil => cases hc
      | cons d cs =>
        obtain rfl : d = c := Option.some.inj hc
        apply Decidable.byContradiction
        intro hne
        rw [List.takeWhile_cons_of_pos (by simpa using hne)] at hempty
        cases hempty
    · cases h

/-- The text ends where the closing bracket is missing, or goes on with something else. -/
theorem halts_of_readClosing {cs : List Char} {left : Nat}
    (h : readClosing key left cs = .error r) :
    (cs = [] ∧ r = ⟨.openFilter, left⟩) ∨ Halts cs r := by
  unfold readClosing at h
  split at h
  · cases h
  · cases h
    exact .inl ⟨rfl, rfl⟩
  · rename_i hclosing hend
    cases h
    right
    cases cs with
    | nil => exact absurd rfl hend
    | cons c cs =>
      refine halts_at_start ⟨c, cs, rfl, ?_⟩
      rintro rfl
      exact hclosing cs rfl

/-- A filter that is not closed is refused at its opening bracket. -/
theorem halts_of_readFilter {cs : List Char} (h : readFilter cs = .error r) :
    Halts ('[' :: cs) r := by
  unfold readFilter at h
  split at h
  · rename_i hw
    cases h
    have hkey : Offends .noKey cs := stops_of_readWord hw
    exact (halts_at_start hkey).behind (List.suffix_cons '[' cs)
  · rename_i key r1 hw
    obtain ⟨w, rfl, rfl⟩ := exists_of_readWord hw
    have hr1 : r1 <:+ '[' :: (w.text ++ r1) := ⟨'[' :: w.text, rfl⟩
    rcases exists_of_bind_error h with hop | ⟨⟨op, r2⟩, hop, h1⟩
    · exact (halts_of_readOp hop).behind hr1
    obtain rfl := eq_of_readOp hop
    have hr2 : r2 <:+ '[' :: (w.text ++ (op.symbol.toList ++ r2)) :=
      (List.suffix_append op.symbol.toList r2).trans hr1
    rcases exists_of_bind_error h1 with hv | ⟨⟨value, r3⟩, hv, h2⟩
    · exact (halts_of_readValue hv).behind hr2
    obtain ⟨v, rfl, rfl⟩ := exists_of_readValue hv
    rcases exists_of_bind_error h2 with hc | ⟨r4, -, h3⟩
    · rcases halts_of_readClosing hc with ⟨rfl, rfl⟩ | hclosing
      · refine ⟨_, List.suffix_refl _, rfl, w, op, v, ?_⟩
        rw [List.append_nil]
      · exact hclosing.behind ((List.suffix_append v.text r3).trans hr2)
    · cases h3

theorem halts_of_readFilters {cs : List Char} (h : readFilters cs = .error r) : Halts cs r := by
  fun_induction readFilters cs with
  | case1 cs r' h1 =>
    cases h
    exact halts_of_readFilter h1
  | case2 cs f r1 h1 _ r' h2 ih =>
    cases h
    obtain ⟨t, rfl, rfl⟩ := exists_of_readFilter h1
    exact (ih h2).behind ⟨'[' :: t.inside, rfl⟩
  | case3 => cases h
  | case4 => cases h

/-! ## 3. The readers of steps -/

theorem stops_of_readRole {cs : List Char} (h : readRole cs = (none, rest)) :
    Stops isLetter cs := by
  unfold readRole at h
  split at h
  · cases h
  · rename_i hw
    exact stops_of_readWord hw

theorem head?_ne_of_readIdentifier {cs : List Char} (h : readIdentifier cs = .ok (none, rest)) :
    cs.head? ≠ some '#' := by
  unfold readIdentifier at h
  split at h
  · split at h <;> cases h
  · rename_i hmark
    cases cs with
    | nil => decide
    | cons c cs =>
      intro hc
      obtain rfl : c = '#' := Option.some.inj hc
      exact hmark cs rfl

theorem head?_ne_of_readFilters {cs : List Char} (h : readFilters cs = .ok ([], rest)) :
    cs.head? ≠ some '[' := by
  cases cs with
  | nil => decide
  | cons c cs =>
    intro hc
    obtain rfl : c = '[' := Option.some.inj hc
    rw [readFilters] at h
    split at h
    · cases h
    · split at h <;> cases h

theorem halts_of_readIdentifier {cs : List Char} (h : readIdentifier cs = .error r) :
    Halts cs r := by
  unfold readIdentifier at h
  split at h
  · rename_i cs
    split at h
    · cases h
    · rename_i hw
      cases h
      exact ⟨cs, List.suffix_cons '#' cs, rfl, stops_of_readWord hw⟩
  · cases h

/-- A step without any part begins with what begins none of them. -/
theorem halts_of_readStep {cs : List Char} (hne : cs ≠ []) (h : readStep cs = .error r) :
    Halts cs r := by
  unfold readStep at h
  rcases hr : readRole cs with ⟨role, r0⟩
  rw [hr] at h
  obtain ⟨w, rfl, rfl⟩ := exists_of_readRole hr
  have hr0 : r0 <:+ roleText w ++ r0 := List.suffix_append _ _
  rcases exists_of_bind_error h with hi | ⟨⟨identifier, r1⟩, hi, h1⟩
  · exact (halts_of_readIdentifier hi).behind hr0
  obtain ⟨i, rfl, rfl⟩ := exists_of_readIdentifier hi
  rcases exists_of_bind_error h1 with hf | ⟨⟨filters, r2⟩, hf, h2⟩
  · exact (halts_of_readFilters hf).behind ((List.suffix_append _ r1).trans hr0)
  obtain ⟨fs, rfl, rfl⟩ := exists_of_readFilters hf
  simp only at h2
  split at h2
  · rename_i hempty
    cases h2
    simp only [Step.isEmpty, Bool.and_eq_true, Option.isNone_iff_eq_none, Option.map_eq_none_iff,
      List.isEmpty_iff, List.map_eq_nil_iff] at hempty
    obtain ⟨⟨rfl, rfl⟩, rfl⟩ := hempty
    refine halts_at_start ⟨hne, ?_, ?_, ?_⟩
    · exact stops_of_readRole hr
    · exact head?_ne_of_readIdentifier hi
    · exact head?_ne_of_readFilters hf
  · cases h2

/-- White space inside a trimmed text is not the last of it. -/
theorem trimStart_ne_nil {cs : List Char} {c : Char} (hc : isBlank c = true)
    (hs : c :: rest <:+ cs) (hlast : Stops isBlank cs.reverse) : trimStart rest ≠ [] := by
  intro hnil
  have hblank : ∀ d ∈ c :: rest, isBlank d = true := by
    have hsplit : rest.takeWhile isBlank ++ trimStart rest = rest :=
      List.takeWhile_append_dropWhile
    rw [hnil, List.append_nil] at hsplit
    rw [← hsplit]
    exact List.forall_mem_cons.mpr ⟨hc, List.all_eq_true.mp List.all_takeWhile⟩
  obtain ⟨before, rfl⟩ := hs
  rw [List.reverse_append] at hlast
  have hend : Stops isBlank (c :: rest).reverse := stops_of_append hlast
  have hlastBlank : isBlank ((c :: rest).getLast (List.cons_ne_nil c rest)) = true :=
    hblank _ (List.getLast_mem _)
  rw [hend _ (by rw [List.head?_reverse]; exact List.getLast?_eq_some_getLast _)] at hlastBlank
  cases hlastBlank

theorem halts_of_readSteps {cs : List Char} (hne : cs ≠ []) (hlast : Stops isBlank cs.reverse)
    (h : readSteps cs = .error r) : Halts cs r := by
  fun_induction readSteps cs with
  | case1 cs r' h1 =>
    cases h
    exact halts_of_readStep hne h1
  | case2 => cases h
  | case3 cs step c rest h1 hc _ _ r' h2 ih =>
    cases h
    obtain ⟨s, rfl, rfl⟩ := exists_of_readStep h1
    have hrest : c :: rest <:+ s.text ++ c :: rest := List.suffix_append _ _
    have htrim : trimStart rest <:+ s.text ++ c :: rest :=
      ((List.dropWhile_suffix isBlank).trans (List.suffix_cons c rest)).trans hrest
    refine (ih (trimStart_ne_nil hc hrest hlast) ?_ h2).behind htrim
    obtain ⟨before, hsplit⟩ := htrim
    rw [← hsplit, List.reverse_append] at hlast
    exact stops_of_append hlast
  | case4 => cases h
  | case5 cs step c rest h1 hc =>
    cases h
    obtain ⟨s, rfl, rfl⟩ := exists_of_readStep h1
    exact ⟨c :: rest, List.suffix_append _ _, rfl, c, rest, rfl, Bool.eq_false_iff.mpr hc⟩

/-! ## 4. The parser -/

/-- The text is refused, and the message names this cause and this position. -/
def Reports (raw : String) (cause : Cause) (position : Nat) : Prop :=
  ∃ shown : String, parse raw = .error (.invalidSelector
    s!"{Refusal.causeText cause} at position {position} near {shown}")

/-- How much white space a text starts with. -/
def indent (raw : String) : Nat := (raw.toList.takeWhile isBlank).length

theorem parse_of_refused {raw : String} (hne : trim raw.toList ≠ [])
    (h : readSteps (trim raw.toList) = .error r) :
    parse raw = .error (.invalidSelector (r.message (trim raw.toList))) := by
  have hempty : (trim raw.toList).isEmpty = false := List.isEmpty_eq_false_iff.mpr hne
  simp only [parse, h, hempty, Bool.false_eq_true, if_false]

/-- A text that is not accepted is blank, or its trimmed text is refused somewhere. -/
theorem parse_cases (raw : String) :
    (∃ s, parse raw = .ok s) ∨
    (trim raw.toList = [] ∧ parse raw = .error (.invalidSelector emptyMessage)) ∨
    ∃ r, trim raw.toList ≠ [] ∧ readSteps (trim raw.toList) = .error r := by
  by_cases hblank : trim raw.toList = []
  · refine .inr (.inl ⟨hblank, ?_⟩)
    rw [parse, hblank]
    rfl
  · cases hsteps : readSteps (trim raw.toList) with
    | ok steps =>
      have hempty : (trim raw.toList).isEmpty = false := List.isEmpty_eq_false_iff.mpr hblank
      refine .inl ⟨{ steps, raw }, ?_⟩
      simp only [parse, hsteps, hempty, Bool.false_eq_true, if_false]
    | error r => exact .inr (.inr ⟨r, hblank, rfl⟩)

theorem reports_of_refused {raw : String} (hne : trim raw.toList ≠ [])
    (h : readSteps (trim raw.toList) = .error r) :
    Reports raw r.cause (r.position (trim raw.toList)) :=
  ⟨_, parse_of_refused hne h⟩

/-- A text is its indent, the trimmed text, and the white space at its end. -/
theorem exists_eq_indent_append (raw : String) :
    ∃ lead trail : List Char, raw.toList = lead ++ (trim raw.toList ++ trail) ∧
      lead.length = indent raw ∧ ∀ c ∈ trail, isBlank c = true := by
  refine ⟨raw.toList.takeWhile isBlank, ((trimStart raw.toList).reverse.takeWhile isBlank).reverse,
    ?_, rfl, ?_⟩
  · rw [trim, trimEnd_append_blanks, trimStart, List.takeWhile_append_dropWhile]
  · intro c hc
    exact List.all_eq_true.mp List.all_takeWhile c (List.mem_reverse.mp hc)

/-- **A position counts in the trimmed text.**  A text that is neither blank nor accepted is refused
with a position inside the trimmed text, and the trimmed text goes on there with what the message
complains about.  In the text as it was given this stands further on by as much white space as the
text starts with. -/
theorem refused_at_offence (raw : String) :
    (∃ s, parse raw = .ok s) ∨
    (trim raw.toList = [] ∧ parse raw = .error (.invalidSelector emptyMessage)) ∨
    ∃ (cause : Cause) (position : Nat), Reports raw cause position ∧
      position ≤ (trim raw.toList).length ∧ indent raw + position ≤ raw.toList.length ∧
      Offends cause ((trim raw.toList).drop position) ∧
      ∃ trail : List Char, (∀ c ∈ trail, isBlank c = true) ∧
        raw.toList.drop (indent raw + position) = (trim raw.toList).drop position ++ trail := by
  rcases parse_cases raw with hok | hblank | ⟨r, hne, hsteps⟩
  · exact .inl hok
  · exact .inr (.inl hblank)
  obtain ⟨after, ⟨before, htext⟩, hleft, hoffends⟩ :=
    halts_of_readSteps hne (stripped_trim raw.toList).last hsteps
  obtain ⟨lead, trail, hraw, hindent, htrail⟩ := exists_eq_indent_append raw
  have hposition : r.position (trim raw.toList) = before.length := by
    rw [Refusal.position, ← htext, List.length_append, hleft, Nat.add_sub_cancel]
  have hdrop : (trim raw.toList).drop before.length = after := by
    rw [← htext, List.drop_left]
  have hle : before.length ≤ (trim raw.toList).length := by
    rw [← htext, List.length_append]
    exact Nat.le_add_right _ _
  refine .inr (.inr ⟨r.cause, before.length, ?_, hle, ?_, ?_, trail, htrail, ?_⟩)
  · rw [← hposition]
    exact reports_of_refused hne hsteps
  · rw [hraw, List.length_append, List.length_append, hindent]
    omega
  · rw [hdrop]
    exact hoffends
  · calc raw.toList.drop (indent raw + before.length)
      _ = (lead ++ (trim raw.toList ++ trail)).drop (lead.length + before.length) := by
          rw [← hraw, hindent]
      _ = (trim raw.toList ++ trail).drop before.length := by
          rw [← List.drop_drop, List.drop_left]
      _ = (trim raw.toList).drop before.length ++ trail := List.drop_append_of_le_length hle

/-! ### A position behind an indent -/

/-- Where and why a text is refused. -/
def refusal? (cs : List Char) : Option Refusal :=
  match readSteps cs with
  | .error r => some r
  | .ok _ => none

theorem readSteps_of_refusal? {cs : List Char} (h : refusal? cs = some r) :
    readSteps cs = .error r := by
  unfold refusal? at h
  split at h
  · rename_i r' hr
    rw [hr, Option.some.inj h]
  · cases h

/-- A step that goes on without white space, behind an indent. -/
def paddedStep : String := "  a]"

/-- In the text as it was given, white space stands at the position that the message names. -/
theorem not_refused_at_offence_of_raw :
    ¬ ∀ (raw : String) (cause : Cause) (position : Nat), Reports raw cause position →
      Offends cause (raw.toList.drop position) := by
  intro hall
  have htrim : trim paddedStep.toList = ['a', ']'] := by decide +kernel
  have hne : trim paddedStep.toList ≠ [] := by
    rw [htrim]
    exact List.cons_ne_nil _ _
  have hrefused : readSteps (trim paddedStep.toList) = .error ⟨.noGap, 1⟩ :=
    readSteps_of_refusal? (by decide +kernel)
  have hreports := reports_of_refused hne hrefused
  have hposition : Refusal.position ['a', ']'] ⟨.noGap, 1⟩ = 1 := rfl
  rw [htrim, hposition] at hreports
  obtain ⟨c, rest, hdrop, hc⟩ := hall paddedStep _ _ hreports
  have hblank : paddedStep.toList.drop 1 = ' ' :: ['a', ']'] := by decide +kernel
  rw [hblank] at hdrop
  obtain ⟨rfl, -⟩ := List.cons.inj hdrop
  exact absurd hc (by decide)

end UiTree.Selector.Grammar
