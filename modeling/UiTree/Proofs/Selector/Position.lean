import UiTree.Proofs.Selector.Reading

/-!
# Position — where a text stops being a selector

A refusal has a place, and what stands before the place can be gone on with: it is the beginning of
a text that some derivation spells.  If two steps are not kept apart, a derivation spells just what
stands before the place.
-/

namespace UiTree.Selector.Grammar

open UiTree.Text

/-! ## 1. Places -/

/-- The place of a refusal divides the text.  What stands before it begins a text of the class, and
is one itself if only a gap is missing. -/
def Breaks (spelled : List Char → Prop) (cs : List Char) (r : Refusal) : Prop :=
  ∃ before after, cs = before ++ after ∧ after.length = r.left ∧
    (∃ more, spelled (before ++ more)) ∧ (r.cause = .noGap → spelled before)

variable {P Q : List Char → Prop} {r : Refusal} {key rest : List Char}

/-- What was read before comes first. -/
theorem Breaks.behind {cs : List Char} (h : Breaks P cs r) (read : List Char)
    (hread : ∀ x, P x → Q (read ++ x)) : Breaks Q (read ++ cs) r := by
  obtain ⟨before, after, rfl, hleft, ⟨more, hmore⟩, hgap⟩ := h
  refine ⟨read ++ before, after, (List.append_assoc ..).symm, hleft, ⟨more, ?_⟩, ?_⟩
  · rw [List.append_assoc]
    exact hread _ hmore
  · intro hcause
    exact hread _ (hgap hcause)

/-- Refused at its first character, a text may still begin anew. -/
theorem breaks_at_start {cs : List Char} (hleft : r.left = cs.length) (hcause : r.cause ≠ .noGap)
    {x : List Char} (hx : P x) : Breaks P cs r :=
  ⟨[], cs, rfl, hleft.symm, ⟨x, hx⟩, fun h => absurd h hcause⟩

/-! ## 2. The readers of a filter -/

def letterWord : Word isLetter := ⟨'a', [], by decide, by simp⟩

def identifierWord : Word startsIdentifier := ⟨'a', [], by decide, by simp⟩

def bareValue : Value := .bare ['a'] (by decide) (by decide) (by decide)

def plainFilter : FilterTree := ⟨letterWord, .equals, bareValue⟩

def plainStep : StepTree := ⟨some letterWord, none, [], .inl rfl⟩

theorem breaks_of_readOp {cs : List Char} (h : readOp key cs = .error r) :
    Breaks (fun x => ∃ (op : Op) (v : Value), x = op.symbol.toList ++ (v.text ++ [']'])) cs r := by
  unfold readOp at h
  split at h
  · cases h
  · cases h
  · cases h
    exact breaks_at_start rfl (by simp) ⟨.equals, bareValue, rfl⟩

theorem breaks_of_readValue {cs : List Char} (h : readValue key cs = .error r) :
    Breaks (fun x => ∃ v : Value, x = v.text ++ [']']) cs r := by
  unfold readValue at h
  split at h
  · rename_i cs
    split at h
    · cases h
    · -- the place is behind the quote, which may be closed at once
      cases h
      exact ⟨['"'], cs, rfl, rfl, ⟨['"', ']'], .quoted [] List.not_mem_nil, rfl⟩, by simp⟩
  · simp only at h
    split at h
    · cases h
      exact breaks_at_start rfl (by simp) ⟨bareValue, rfl⟩
    · cases h

/-- A text that ends inside a filter is refused at the opening bracket, and any other right where
the closing one is missing. -/
theorem breaks_of_readClosing {cs : List Char} {left : Nat}
    (h : readClosing key left cs = .error r) :
    r = ⟨.openFilter, left⟩ ∨ Breaks (fun x => x = [']']) cs r := by
  unfold readClosing at h
  split at h
  · cases h
  · cases h
    exact .inl rfl
  · cases h
    exact .inr (breaks_at_start rfl (by simp) rfl)

theorem exists_of_bind_error {ε α β : Type} {x : Except ε α} {f : α → Except ε β} {e : ε}
    (h : x >>= f = .error e) : x = .error e ∨ ∃ a, x = .ok a ∧ f a = .error e := by
  cases x with
  | error e' =>
    cases h
    exact .inl rfl
  | ok a => exact .inr ⟨a, rfl, h⟩

theorem breaks_of_readFilter {cs : List Char} (h : readFilter cs = .error r) :
    r = ⟨.openFilter, cs.length + 1⟩ ∨ Breaks (fun x => ∃ f : FilterTree, x = f.inside) cs r := by
  unfold readFilter at h
  split at h
  · cases h
    exact .inr (breaks_at_start rfl (by simp) ⟨plainFilter, rfl⟩)
  · rename_i key r1 hw
    obtain ⟨w, rfl, rfl⟩ := exists_of_readWord hw
    -- each part that was read stands before the place
    rcases exists_of_bind_error h with hop | ⟨⟨op, r2⟩, hop, h1⟩
    · right
      refine (breaks_of_readOp hop).behind w.text ?_
      rintro x ⟨op, v, rfl⟩
      exact ⟨⟨w, op, v⟩, rfl⟩
    rcases exists_of_bind_error h1 with hv | ⟨⟨value, r3⟩, hv, h2⟩
    · right
      rw [eq_of_readOp hop, ← List.append_assoc]
      refine (breaks_of_readValue hv).behind (w.text ++ op.symbol.toList) ?_
      rintro x ⟨v, rfl⟩
      exact ⟨⟨w, op, v⟩, List.append_assoc ..⟩
    rcases exists_of_bind_error h2 with hc | ⟨r4, -, h3⟩
    · obtain ⟨v, rfl, hr2⟩ := exists_of_readValue hv
      rcases breaks_of_readClosing hc with hopen | hclosing
      · exact .inl hopen
      · right
        rw [eq_of_readOp hop, hr2, ← List.append_assoc, ← List.append_assoc]
        refine hclosing.behind (w.text ++ op.symbol.toList ++ v.text) ?_
        rintro x rfl
        refine ⟨⟨w, op, v⟩, ?_⟩
        simp only [FilterTree.inside, List.append_assoc]
    · cases h3

theorem breaks_of_readFilters {cs : List Char} (h : readFilters cs = .error r) :
    Breaks (fun x => ∃ fs : List FilterTree, fs ≠ [] ∧ x = filtersText fs) cs r := by
  fun_induction readFilters cs with
  | case1 cs r' h1 =>
    cases h
    rcases breaks_of_readFilter h1 with hopen | hinside
    · -- another filter may be opened where this one was
      rw [hopen]
      exact breaks_at_start rfl (by simp) ⟨[plainFilter], List.cons_ne_nil _ _, rfl⟩
    · refine hinside.behind ['['] ?_
      rintro x ⟨f, rfl⟩
      exact ⟨[f], List.cons_ne_nil _ _, (List.append_nil _).symm⟩
  | case2 cs f r1 h1 _ r' h2 ih =>
    cases h
    obtain ⟨t, rfl, rfl⟩ := exists_of_readFilter h1
    refine (ih h2).behind ('[' :: t.inside) ?_
    rintro x ⟨fs, -, rfl⟩
    exact ⟨t :: fs, List.cons_ne_nil _ _, rfl⟩
  | case3 => cases h
  | case4 => cases h

/-! ## 3. The readers of steps -/

theorem breaks_of_readIdentifier {cs : List Char} (h : readIdentifier cs = .error r) :
    Breaks (fun x => ∃ w : Word startsIdentifier, x = '#' :: w.text) cs r := by
  unfold readIdentifier at h
  split at h
  · rename_i cs
    split at h
    · cases h
    · cases h
      exact ⟨['#'], cs, rfl, rfl, ⟨['a'], identifierWord, rfl⟩, by simp⟩
  · cases h

theorem breaks_of_readStep {cs : List Char} (h : readStep cs = .error r) :
    Breaks (fun x => ∃ s : StepTree, x = s.text) cs r := by
  unfold readStep at h
  rcases hr : readRole cs with ⟨role, r0⟩
  rw [hr] at h
  obtain ⟨role, rfl, rfl⟩ := exists_of_readRole hr
  rcases exists_of_bind_error h with hi | ⟨⟨identifier, r1⟩, hi, h1⟩
  · refine (breaks_of_readIdentifier hi).behind (roleText role) ?_
    rintro x ⟨w, rfl⟩
    refine ⟨⟨role, some w, [], .inr (.inl rfl)⟩, ?_⟩
    rw [StepTree.text, identifierText, filtersText_nil, List.append_nil]
  obtain ⟨i, rfl, rfl⟩ := exists_of_readIdentifier hi
  rcases exists_of_bind_error h1 with hf | ⟨⟨filters, r2⟩, -, h2⟩
  · rw [← List.append_assoc]
    refine (breaks_of_readFilters hf).behind (roleText role ++ identifierText i) ?_
    rintro x ⟨fs, hne, rfl⟩
    exact ⟨⟨role, i, fs, .inr (.inr hne)⟩, List.append_assoc ..⟩
  · -- no part was read, so the place is the start of the step
    simp only at h2
    split at h2
    · cases h2
      exact breaks_at_start rfl (by simp) ⟨plainStep, rfl⟩
    · cases h2

theorem breaks_of_readSteps {cs : List Char} (h : readSteps cs = .error r) :
    Breaks (fun x => ∃ t : Tree, x = t.text) cs r := by
  fun_induction readSteps cs with
  | case1 cs r' h1 =>
    cases h
    refine (breaks_of_readStep h1).behind [] ?_
    rintro x ⟨s, rfl⟩
    exact ⟨.last s, rfl⟩
  | case2 => cases h
  | case3 cs step c rest h1 hc _ _ r' h2 ih =>
    cases h
    obtain ⟨s, rfl, rfl⟩ := exists_of_readStep h1
    let gap : Gap := ⟨c, rest.takeWhile isBlank, hc, List.all_eq_true.mp List.all_takeWhile⟩
    have hsplit : s.text ++ c :: rest = s.text ++ gap.text ++ trimStart rest := by
      rw [List.append_assoc, Gap.text, List.cons_append, trimStart, List.takeWhile_append_dropWhile]
    rw [hsplit]
    refine (ih h2).behind (s.text ++ gap.text) ?_
    rintro x ⟨t, rfl⟩
    exact ⟨.more s gap t, List.append_assoc ..⟩
  | case4 => cases h
  | case5 cs step c rest h1 hc =>
    cases h
    obtain ⟨s, rfl, rfl⟩ := exists_of_readStep h1
    have hspelled : ∃ t : Tree, s.text = t.text := ⟨.last s, rfl⟩
    refine ⟨s.text, c :: rest, rfl, rfl, ⟨[], ?_⟩, fun _ => hspelled⟩
    rwa [List.append_nil]

/-! ## 4. What a derivation spells is accepted as it stands -/

theorem isBlank_of_mem_text {first : Char → Bool} {w : Word first}
    (hfirst : ∀ c, first c = true → isWordChar c = true) : ∀ c ∈ w.text, isBlank c = false := by
  intro c hc
  apply isBlank_of_isWordChar
  rcases List.mem_cons.mp hc with rfl | hc
  · exact hfirst _ w.head_ok
  · exact w.tail_ok c hc

theorem isWordChar_of_startsIdentifier {c : Char} (h : startsIdentifier c = true) :
    isWordChar c = true := by
  rw [startsIdentifier, Bool.or_eq_true, Bool.or_eq_true] at h
  rcases h with (h | h) | h
  · exact isWordChar_of_isLetter h
  · exact isWordChar_of_isDigit h
  · rw [beq_iff_eq.mp h]
    decide

/-- No white space at the end of a text: its last part has none there, or there is no such part. -/
theorem stops_reverse_append {cs ds : List Char} (hcs : Stops isBlank cs.reverse)
    (hds : Stops isBlank ds.reverse) : Stops isBlank (cs ++ ds).reverse := by
  rw [List.reverse_append]
  by_cases hne : ds = []
  · rw [hne]
    exact hcs
  · exact stops_append hds (List.reverse_ne_nil_iff.mpr hne)

theorem stops_reverse_of_forall {cs : List Char} (h : ∀ c ∈ cs, isBlank c = false) :
    Stops isBlank cs.reverse := by
  intro c hc
  exact h c (List.mem_reverse.mp (List.mem_of_head? hc))

theorem stops_reverse_filtersText (fs : List FilterTree) :
    Stops isBlank (filtersText fs).reverse := by
  induction fs with
  | nil => exact stops_nil
  | cons f fs ih =>
    have hf : Stops isBlank f.text.reverse := by
      rw [f.text_eq_concat, List.reverse_concat, stops_cons]
      decide
    exact stops_reverse_append hf ih

theorem stops_reverse_identifierText (i : Option (Word startsIdentifier)) :
    Stops isBlank (identifierText i).reverse := by
  cases i with
  | none => exact stops_nil
  | some w =>
    refine stops_reverse_of_forall fun c hc => ?_
    rcases List.mem_cons.mp hc with rfl | hc
    · decide
    · exact isBlank_of_mem_text (fun _ => isWordChar_of_startsIdentifier) c hc

theorem StepTree.stops_reverse_text (s : StepTree) : Stops isBlank s.text.reverse := by
  have hrole : Stops isBlank (roleText s.role).reverse := by
    cases s.role with
    | none => exact stops_nil
    | some w =>
      exact stops_reverse_of_forall (isBlank_of_mem_text fun _ => isWordChar_of_isLetter)
  exact stops_reverse_append hrole
    (stops_reverse_append (stops_reverse_identifierText s.identifier)
      (stops_reverse_filtersText s.filters))

theorem Tree.stops_reverse_text (t : Tree) : Stops isBlank t.text.reverse := by
  induction t with
  | last s => exact s.stops_reverse_text
  | more s g t ih =>
    rw [Tree.text, ← List.append_assoc, List.reverse_append]
    exact stops_append ih (List.reverse_ne_nil_iff.mpr t.text_ne_nil)

theorem Tree.parse_text (t : Tree) :
    parse (String.ofList t.text) = .ok { steps := t.steps, raw := String.ofList t.text } := by
  apply parse_of_derives
  rw [Tree.Derives, String.toList_ofList]
  exact ⟨⟨[], [], by simp, by simp, by simp⟩, t.stops_text, t.stops_reverse_text⟩

/-! ## 5. The parser -/

/-- **A text is refused behind what can be gone on with.**  A text that is neither blank nor
accepted is refused with a position inside the trimmed text.  What stands before the position can be
gone on with to an accepted text.  If the steps of the text are not kept apart, what stands before
the position is accepted as it is. -/
theorem refused_behind_viable_text (raw : String) :
    (∃ s, parse raw = .ok s) ∨
    (trim raw.toList = [] ∧ parse raw = .error (.invalidSelector emptyMessage)) ∨
    ∃ (cause : Cause) (position : Nat) (shown : String),
      parse raw = .error (.invalidSelector
        s!"{Refusal.causeText cause} at position {position} near {shown}") ∧
      position ≤ (trim raw.toList).length ∧
      (∃ more s, parse (String.ofList ((trim raw.toList).take position ++ more)) = .ok s) ∧
      (cause = .noGap → ∃ s, parse (String.ofList ((trim raw.toList).take position)) = .ok s) := by
  by_cases hblank : trim raw.toList = []
  · right
    left
    refine ⟨hblank, ?_⟩
    rw [parse, hblank]
    rfl
  cases hsteps : readSteps (trim raw.toList) with
  | ok steps =>
    left
    refine ⟨{ steps, raw }, ?_⟩
    rw [parse, hsteps]
    simp [hblank]
  | error r =>
    right
    right
    obtain ⟨before, after, htext, hleft, ⟨more, t, hmore⟩, hgap⟩ := breaks_of_readSteps hsteps
    have hposition : r.position (trim raw.toList) = before.length := by
      rw [Refusal.position, htext, List.length_append, hleft, Nat.add_sub_cancel]
    have htake : (trim raw.toList).take (r.position (trim raw.toList)) = before := by
      rw [hposition, htext, List.take_left]
    have hparse : parse raw = .error (.invalidSelector (r.message (trim raw.toList))) := by
      rw [parse, hsteps]
      simp [hblank]
    refine ⟨r.cause, r.position (trim raw.toList), _, hparse, ?_, ?_, ?_⟩
    · rw [hposition, htext, List.length_append]
      omega
    · rw [htake]
      refine ⟨more, { steps := t.steps, raw := String.ofList t.text }, ?_⟩
      rw [hmore]
      exact t.parse_text
    · intro hcause
      obtain ⟨u, hu⟩ := hgap hcause
      rw [htake, hu]
      exact ⟨_, u.parse_text⟩

end UiTree.Selector.Grammar
