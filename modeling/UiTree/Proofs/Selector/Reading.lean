import UiTree.Proofs.Selector.Grammar

/-!
# Reading — the selector readers against the grammar

`read…_text` says that a reader takes exactly the part that a derivation spells and leaves what
follows it; `exists_of_read…` that whatever a reader takes has a derivation.  The main statement is
that `parse` accepts the texts with a derivation, and gives its steps.
-/

namespace UiTree.Selector.Grammar

open UiTree.Text

variable {first : Char → Bool} {key rest : List Char}

/-! ## 1. What is spelled is read -/

theorem readWord_text (w : Word first) (h : Stops isWordChar rest) :
    readWord first (w.text ++ rest) = some (w.text, rest) := by
  rw [Word.text, List.cons_append, readWord, if_pos w.head_ok,
    takeWhile_append_stops w.tail_ok h, dropWhile_append_stops w.tail_ok h]

theorem readWord_of_stops {cs : List Char} (h : Stops first cs) : readWord first cs = none := by
  cases cs with
  | nil => rfl
  | cons c cs => rw [readWord, if_neg (by simp [stops_cons.mp h])]

theorem readOp_symbol (op : Op) : readOp key (op.symbol.toList ++ rest) = .ok (op, rest) := by
  cases op <;> rfl

theorem bne_of_not_mem {cs : List Char} {d : Char} (h : d ∉ cs) : ∀ c ∈ cs, (c != d) = true := by
  intro c hc
  rw [bne_iff_ne]
  rintro rfl
  exact h hc

theorem not_mem_takeWhile_bne (cs : List Char) (d : Char) : d ∉ cs.takeWhile (· != d) := by
  intro hd
  have hall : (cs.takeWhile (· != d)).all (· != d) = true := List.all_takeWhile
  have hbne : (d != d) = true := List.all_eq_true.mp hall d hd
  rw [bne_iff_ne] at hbne
  exact hbne rfl

theorem readValue_quoted {body : List Char} (h : '"' ∉ body) :
    readValue key ('"' :: (body ++ '"' :: rest)) = .ok (body, rest) := by
  have hstop : Stops (· != '"') ('"' :: rest) := stops_cons.mpr (by decide)
  rw [readValue, dropWhile_append_stops (bne_of_not_mem h) hstop,
    takeWhile_append_stops (bne_of_not_mem h) hstop]

theorem readValue_bare {run : List Char} (hne : run ≠ []) (hq : run.head? ≠ some '"')
    (h : ']' ∉ run) : readValue key (run ++ ']' :: rest) = .ok (run, ']' :: rest) := by
  have hrun : ∀ c ∈ run, (c != ']') = true := bne_of_not_mem h
  have hstop : Stops (· != ']') (']' :: rest) := stops_cons.mpr (by decide)
  rcases List.exists_cons_of_ne_nil hne with ⟨c, run, rfl⟩
  have hc : c ≠ '"' := by simpa using hq
  unfold readValue
  -- the first character rules out a value in quotes
  split
  · rename_i hcs
    exact absurd (List.cons.inj hcs).1 hc
  · simp only [takeWhile_append_stops hrun hstop, dropWhile_append_stops hrun hstop]
    rw [if_neg (by simp)]

theorem readValue_text (v : Value) :
    readValue key (v.text ++ ']' :: rest) = .ok (v.content, ']' :: rest) := by
  cases v with
  | quoted body h =>
    rw [Value.text, Value.content, List.cons_append, List.append_assoc]
    exact readValue_quoted h
  | bare run hne hq h => exact readValue_bare hne hq h

/-- A word before an operator ends there. -/
theorem stops_symbol (op : Op) (rest : List Char) :
    Stops isWordChar (op.symbol.toList ++ rest) := by
  cases op with
  | equals => exact stops_cons.mpr (by decide)
  | contains => exact stops_cons.mpr (by decide)

theorem readFilter_inside (f : FilterTree) (rest : List Char) :
    readFilter (f.inside ++ rest) = .ok (f.filter, rest) := by
  have htext : f.inside ++ rest
      = f.key.text ++ (f.op.symbol.toList ++ (f.value.text ++ ']' :: rest)) := by
    simp [FilterTree.inside]
  rw [readFilter, htext, readWord_text f.key (stops_symbol _ _)]
  simp only [readOp_symbol, readValue_text, readClosing, bind, Except.bind, pure, Except.pure]
  rfl

theorem readFilters_cons {cs : List Char} {f : Filter} (h : readFilter cs = .ok (f, rest)) :
    readFilters ('[' :: cs) = (readFilters rest).map fun p => (f :: p.1, p.2) := by
  rw [readFilters]
  -- the reader looks at what became of the first filter, so only its success is left
  split
  · rename_i r hr
    rw [h] at hr
    exact absurd hr (by simp)
  · rename_i g ds hr
    rw [h, Except.ok.injEq, Prod.mk.injEq] at hr
    rcases hr with ⟨rfl, rfl⟩
    cases readFilters rest <;> rfl

theorem readFilters_text (fs : List FilterTree) (h : rest.head? ≠ some '[') :
    readFilters (filtersText fs ++ rest) = .ok (fs.map FilterTree.filter, rest) := by
  induction fs with
  | nil =>
    rw [filtersText_nil, List.nil_append, readFilters]
    · rfl
    · rintro cs rfl
      exact h rfl
  | cons f fs ih =>
    rw [filtersText_cons, readFilters_cons (readFilter_inside f _), ih]
    rfl

theorem readRole_text (role : Option (Word isLetter)) (h : Stops isWordChar rest) :
    readRole (roleText role ++ rest)
      = (role.map fun w => String.ofList (lowerChars w.text), rest) := by
  cases role with
  | none =>
    have hletter : Stops isLetter rest := by
      intro c hc
      cases hl : isLetter c with
      | false => rfl
      | true => rw [← h c hc, isWordChar_of_isLetter hl]
    rw [roleText, List.nil_append, readRole, readWord_of_stops hletter]
    rfl
  | some w =>
    rw [roleText, readRole, readWord_text w h]
    rfl

theorem readIdentifier_text (identifier : Option (Word startsIdentifier))
    (h : Stops isWordChar rest) (hm : rest.head? ≠ some '#') :
    readIdentifier (identifierText identifier ++ rest)
      = .ok (identifier.map fun w => String.ofList w.text, rest) := by
  cases identifier with
  | none =>
    rw [identifierText, List.nil_append, readIdentifier]
    · rfl
    · rintro cs rfl
      exact hm rfl
  | some w =>
    rw [identifierText, List.cons_append, readIdentifier, readWord_text w h]
    rfl

theorem StepTree.step_isEmpty (s : StepTree) : s.step.isEmpty = false := by
  have h := s.nonempty
  -- the part that is present stays in the step
  cases hr : s.role with
  | some w => simp [StepTree.step, Step.isEmpty, hr]
  | none =>
    cases hi : s.identifier with
    | some w => simp [StepTree.step, Step.isEmpty, hi]
    | none =>
      have hf : s.filters ≠ [] := by simpa [hr, hi] using h
      simp [StepTree.step, Step.isEmpty, hf]

theorem readStep_text (s : StepTree) (h : Ends rest) :
    readStep (s.text ++ rest) = .ok (s.step, rest) := by
  have hf := stops_filtersText s.filters h
  have hi := stops_identifierText s.identifier hf
  have hm := head?_filtersText_ne s.filters h
  have hb : rest.head? ≠ some '[' := h.head?_ne (by decide)
  have he := s.step_isEmpty
  -- each reader stops where the next part, or what comes after the step, begins
  rw [StepTree.step] at he ⊢
  rw [readStep, StepTree.text, List.append_assoc, List.append_assoc, readRole_text s.role hi]
  simp only [readIdentifier_text s.identifier hf hm, readFilters_text s.filters hb, bind,
    Except.bind, he, Bool.false_eq_true, if_false, pure, Except.pure]

theorem readSteps_last {cs : List Char} {step : Step} (h : readStep cs = .ok (step, [])) :
    readSteps cs = .ok [step] := by
  rw [readSteps]
  split
  · rename_i r hr
    rw [h] at hr
    exact absurd hr (by simp)
  · rename_i step' hr
    rw [h, Except.ok.injEq, Prod.mk.injEq] at hr
    rw [hr.1]
  · rename_i step' c cs' hr
    rw [h, Except.ok.injEq, Prod.mk.injEq] at hr
    exact absurd hr.2 (by simp)

/-- Behind a step that does not end the text stands white space and another step. -/
theorem readSteps_cons {cs : List Char} {step : Step} {c : Char}
    (h : readStep cs = .ok (step, c :: rest)) :
    readSteps cs = if isBlank c = true then (readSteps (trimStart rest)).map (step :: ·)
      else .error ⟨.noGap, rest.length + 1⟩ := by
  rw [readSteps]
  split
  · rename_i r hr
    rw [h] at hr
    exact absurd hr (by simp)
  · rename_i step' hr
    rw [h, Except.ok.injEq, Prod.mk.injEq] at hr
    exact absurd hr.2 (by simp)
  · rename_i step' c' cs' hr
    rw [h, Except.ok.injEq, Prod.mk.injEq] at hr
    rcases hr with ⟨rfl, hcs⟩
    rcases List.cons.inj hcs with ⟨rfl, rfl⟩
    split
    · cases readSteps (trimStart rest) <;> rfl
    · rfl

theorem readSteps_more {cs : List Char} {step : Step} {c : Char}
    (h : readStep cs = .ok (step, c :: rest)) (hc : isBlank c = true) :
    readSteps cs = (readSteps (trimStart rest)).map (step :: ·) := by
  rw [readSteps_cons h, if_pos hc]

theorem readSteps_text (t : Tree) : readSteps t.text = .ok t.steps := by
  induction t with
  | last s =>
    have hs := readStep_text s ends_nil
    rw [List.append_nil] at hs
    exact readSteps_last hs
  | more s g t ih =>
    have hs := readStep_text s (g.ends_append t.text)
    rw [Tree.text, readSteps_more hs g.head_ok]
    change (readSteps (trimStart (g.tail ++ t.text))).map (s.step :: ·) = _
    rw [trimStart_append g.tail_ok t.stops_text, ih]
    rfl

/-! ## 2. What is read was spelled -/

theorem exists_of_bind_ok {ε α β : Type} {x : Except ε α} {f : α → Except ε β} {b : β}
    (h : x >>= f = .ok b) : ∃ a, x = .ok a ∧ f a = .ok b := by
  cases x with
  | error e => cases h
  | ok a => exact ⟨a, rfl, h⟩

/-- Failures have no decidable equality, so that a reading of a closed text is compared as an
option. -/
theorem eq_ok_of_toOption {ε α : Type} {x : Except ε α} {a : α} (h : x.toOption = some a) :
    x = .ok a := by
  cases x with
  | error e => cases h
  | ok b => rw [Option.some.inj h]

theorem exists_of_readWord {cs word : List Char} (h : readWord first cs = some (word, rest)) :
    ∃ w : Word first, w.text = word ∧ cs = w.text ++ rest := by
  cases cs with
  | nil => cases h
  | cons c cs =>
    rw [readWord] at h
    split at h
    · rename_i hc
      simp only [Option.some.injEq, Prod.mk.injEq] at h
      rcases h with ⟨rfl, rfl⟩
      refine ⟨⟨c, cs.takeWhile isWordChar, hc, List.all_eq_true.mp List.all_takeWhile⟩, rfl, ?_⟩
      rw [Word.text, List.cons_append, List.takeWhile_append_dropWhile]
    · cases h

theorem eq_of_readOp {cs : List Char} {op : Op} (h : readOp key cs = .ok (op, rest)) :
    cs = op.symbol.toList ++ rest := by
  unfold readOp at h
  split at h
  · simp only [Except.ok.injEq, Prod.mk.injEq] at h
    rcases h with ⟨rfl, rfl⟩
    rfl
  · simp only [Except.ok.injEq, Prod.mk.injEq] at h
    rcases h with ⟨rfl, rfl⟩
    rfl
  · cases h

theorem exists_of_readValue {cs value : List Char} (h : readValue key cs = .ok (value, rest)) :
    ∃ v : Value, v.content = value ∧ cs = v.text ++ rest := by
  unfold readValue at h
  split at h
  · -- a value in quotes, which must have a second one
    rename_i cs
    split at h
    · rename_i c tail hd
      simp only [Except.ok.injEq, Prod.mk.injEq] at h
      rcases h with ⟨rfl, rfl⟩
      have hc : c = '"' := by
        have hstop : Stops (· != '"') (cs.dropWhile (· != '"')) := stops_dropWhile cs
        rw [hd, stops_cons] at hstop
        simpa using hstop
      subst hc
      refine ⟨.quoted (cs.takeWhile (· != '"')) (not_mem_takeWhile_bne cs '"'), rfl, ?_⟩
      have hsplit : cs.takeWhile (· != '"') ++ '"' :: tail = cs := by
        rw [← hd]
        exact List.takeWhile_append_dropWhile
      rw [Value.text, List.cons_append, List.append_assoc, List.singleton_append, hsplit]
    · cases h
  · -- a value without quotes, up to the bracket or the end of the text
    rename_i hnq
    simp only at h
    split at h
    · cases h
    · rename_i hne
      simp only [Except.ok.injEq, Prod.mk.injEq] at h
      rcases h with ⟨rfl, rfl⟩
      rw [List.isEmpty_iff] at hne
      have hq : (cs.takeWhile (· != ']')).head? ≠ some '"' := by
        cases cs with
        | nil => simp
        | cons c cs =>
          have hc : c ≠ '"' := by
            rintro rfl
            exact hnq cs rfl
          rw [List.takeWhile_cons]
          split
          · simpa using hc
          · simp
      refine ⟨.bare _ hne hq (not_mem_takeWhile_bne cs ']'), rfl, ?_⟩
      rw [Value.text, List.takeWhile_append_dropWhile]

theorem eq_of_readClosing {cs : List Char} {left : Nat} (h : readClosing key left cs = .ok rest) :
    cs = ']' :: rest := by
  unfold readClosing at h
  split at h
  · rw [Except.ok.inj h]
  · cases h
  · cases h

theorem exists_of_readFilter {cs : List Char} {f : Filter} (h : readFilter cs = .ok (f, rest)) :
    ∃ t : FilterTree, t.filter = f ∧ cs = t.inside ++ rest := by
  unfold readFilter at h
  split at h
  · cases h
  · rename_i key r1 hw
    rcases exists_of_bind_ok h with ⟨⟨op, r2⟩, hop, h1⟩
    rcases exists_of_bind_ok h1 with ⟨⟨value, r3⟩, hv, h2⟩
    rcases exists_of_bind_ok h2 with ⟨r4, hc, h3⟩
    rcases Prod.mk.inj (Except.ok.inj h3) with ⟨rfl, rfl⟩
    rcases exists_of_readWord hw with ⟨w, rfl, rfl⟩
    rcases exists_of_readValue hv with ⟨v, rfl, rfl⟩
    rw [eq_of_readOp hop, eq_of_readClosing hc]
    refine ⟨⟨w, op, v⟩, rfl, ?_⟩
    simp [FilterTree.inside]

theorem exists_of_readFilters {cs : List Char} {fs : List Filter}
    (h : readFilters cs = .ok (fs, rest)) :
    ∃ ts : List FilterTree, ts.map FilterTree.filter = fs ∧ cs = filtersText ts ++ rest := by
  fun_induction readFilters cs generalizing fs with
  | case1 => cases h
  | case2 => simp_all
  | case3 cs f r1 h1 _ gs r2 h2 ih =>
    rcases Prod.mk.inj (Except.ok.inj h) with ⟨rfl, rfl⟩
    rcases exists_of_readFilter h1 with ⟨t, rfl, rfl⟩
    rcases ih h2 with ⟨ts, rfl, rfl⟩
    exact ⟨t :: ts, rfl, (filtersText_cons t ts _).symm⟩
  | case4 cs =>
    rcases Prod.mk.inj (Except.ok.inj h) with ⟨rfl, rfl⟩
    exact ⟨[], rfl, rfl⟩

theorem exists_of_readRole {cs : List Char} {role : Option String}
    (h : readRole cs = (role, rest)) :
    ∃ r : Option (Word isLetter), (r.map fun w => String.ofList (lowerChars w.text)) = role ∧
      cs = roleText r ++ rest := by
  unfold readRole at h
  split at h
  · rename_i hw
    rcases exists_of_readWord hw with ⟨w, rfl, rfl⟩
    rcases Prod.mk.inj h with ⟨rfl, rfl⟩
    exact ⟨some w, rfl, rfl⟩
  · rcases Prod.mk.inj h with ⟨rfl, rfl⟩
    exact ⟨none, rfl, rfl⟩

theorem exists_of_readIdentifier {cs : List Char} {identifier : Option String}
    (h : readIdentifier cs = .ok (identifier, rest)) :
    ∃ i : Option (Word startsIdentifier), (i.map fun w => String.ofList w.text) = identifier ∧
      cs = identifierText i ++ rest := by
  unfold readIdentifier at h
  split at h
  · split at h
    · rename_i hw
      rcases exists_of_readWord hw with ⟨w, rfl, rfl⟩
      rcases Prod.mk.inj (Except.ok.inj h) with ⟨rfl, rfl⟩
      exact ⟨some w, rfl, rfl⟩
    · cases h
  · rcases Prod.mk.inj (Except.ok.inj h) with ⟨rfl, rfl⟩
    exact ⟨none, rfl, rfl⟩

theorem exists_of_readStep {cs : List Char} {step : Step} (h : readStep cs = .ok (step, rest)) :
    ∃ s : StepTree, s.step = step ∧ cs = s.text ++ rest := by
  unfold readStep at h
  rcases hr : readRole cs with ⟨role, r0⟩
  rw [hr] at h
  rcases exists_of_bind_ok h with ⟨⟨identifier, r1⟩, hi, h1⟩
  rcases exists_of_bind_ok h1 with ⟨⟨filters, r2⟩, hf, h2⟩
  simp only at h2
  split at h2
  · cases h2
  · rename_i he
    -- a step without any part has just been refused
    rcases Prod.mk.inj (Except.ok.inj h2) with ⟨rfl, rfl⟩
    rcases exists_of_readRole hr with ⟨r, rfl, rfl⟩
    rcases exists_of_readIdentifier hi with ⟨i, rfl, rfl⟩
    rcases exists_of_readFilters hf with ⟨fs, rfl, rfl⟩
    have hne : r.isSome ∨ i.isSome ∨ fs ≠ [] := by
      cases r with
      | some w => exact .inl rfl
      | none =>
        cases i with
        | some w => exact .inr (.inl rfl)
        | none =>
          refine .inr (.inr ?_)
          rintro rfl
          exact he rfl
    refine ⟨⟨r, i, fs, hne⟩, rfl, ?_⟩
    rw [StepTree.text, List.append_assoc, List.append_assoc]

theorem exists_of_readSteps {cs : List Char} {steps : List Step} (h : readSteps cs = .ok steps) :
    ∃ t : Tree, t.steps = steps ∧ t.text = cs := by
  fun_induction readSteps cs generalizing steps with
  | case1 => cases h
  | case2 cs step hs =>
    rcases exists_of_readStep hs with ⟨s, rfl, rfl⟩
    rw [← Except.ok.inj h]
    exact ⟨.last s, rfl, (List.append_nil _).symm⟩
  | case3 => cases h
  | case4 cs step c rest hs hc _ _ steps h2 ih =>
    rcases exists_of_readStep hs with ⟨s, rfl, rfl⟩
    rcases ih h2 with ⟨t, rfl, ht⟩
    rw [← Except.ok.inj h]
    -- the separator and the white space skipped behind it make up one gap
    refine ⟨.more s ⟨c, rest.takeWhile isBlank, hc, List.all_eq_true.mp List.all_takeWhile⟩ t,
      rfl, ?_⟩
    rw [Tree.text, ht, Gap.text, List.cons_append, trimStart, List.takeWhile_append_dropWhile]
  | case5 => cases h

/-! ## 3. No text has two derivations

Two derivations of the same text are read alike, so they leave the same rest and spell the same
part; what is left to see is that a part is spelled in one way only. -/

theorem Word.text_injective : Function.Injective (@Word.text first) := by
  intro v w h
  rcases List.cons.inj h with ⟨hh, ht⟩
  exact Word.ext hh ht

theorem Gap.text_injective : Function.Injective Gap.text := by
  intro g k h
  rcases List.cons.inj h with ⟨hh, ht⟩
  exact Gap.ext hh ht

theorem Value.text_injective : Function.Injective Value.text := by
  intro u v h
  cases u with
  | quoted b hb =>
    cases v with
    | quoted c hc =>
      rcases List.cons.inj h with ⟨-, h⟩
      rcases List.append_cancel_right h with rfl
      rfl
    | bare c hne hq hc =>
      -- a value without quotes does not begin with one
      refine absurd ?_ hq
      rw [← show Value.text (.quoted b hb) = c from h]
      rfl
  | bare b hne hq hb =>
    cases v with
    | quoted c hc =>
      refine absurd ?_ hq
      rw [show b = Value.text (.quoted c hc) from h]
      rfl
    | bare c hne' hq' hc =>
      have hbc : b = c := h
      subst hbc
      rfl

variable {rest' : List Char}

theorem Word.append_inj {v w : Word first} (hr : Stops isWordChar rest)
    (hr' : Stops isWordChar rest') (h : v.text ++ rest = w.text ++ rest') :
    v = w ∧ rest = rest' := by
  have hv := readWord_text v hr
  rw [h, readWord_text w hr'] at hv
  rcases Prod.mk.inj (Option.some.inj hv) with ⟨ht, rfl⟩
  exact ⟨Word.text_injective ht.symm, rfl⟩

theorem Gap.append_inj {g k : Gap} (hr : Stops isBlank rest) (hr' : Stops isBlank rest')
    (h : g.text ++ rest = k.text ++ rest') : g = k ∧ rest = rest' := by
  have hcons : g.head :: (g.tail ++ rest) = k.head :: (k.tail ++ rest') := h
  rcases List.cons.inj hcons with ⟨hh, ht⟩
  have hg := trimStart_append g.tail_ok hr
  rw [ht, trimStart_append k.tail_ok hr'] at hg
  subst hg
  exact ⟨Gap.ext hh (List.append_cancel_right ht), rfl⟩

theorem Value.append_inj {u v : Value} (h : u.text ++ ']' :: rest = v.text ++ ']' :: rest') :
    u = v ∧ rest = rest' := by
  have hu : readValue [] (u.text ++ ']' :: rest) = .ok (u.content, ']' :: rest) :=
    readValue_text u
  rw [h, readValue_text v] at hu
  rcases Prod.mk.inj (Except.ok.inj hu) with ⟨-, hr⟩
  rcases List.cons.inj hr with ⟨-, rfl⟩
  exact ⟨Value.text_injective (List.append_cancel_right h), rfl⟩

theorem FilterTree.append_inj {f g : FilterTree} (h : f.inside ++ rest = g.inside ++ rest') :
    f = g ∧ rest = rest' := by
  simp only [FilterTree.inside, List.append_assoc, List.singleton_append] at h
  rcases Word.append_inj (stops_symbol _ _) (stops_symbol _ _) h with ⟨hk, h⟩
  have ho : readOp [] (f.op.symbol.toList ++ (f.value.text ++ ']' :: rest))
      = .ok (f.op, f.value.text ++ ']' :: rest) := readOp_symbol f.op
  rw [h, readOp_symbol] at ho
  rcases Prod.mk.inj (Except.ok.inj ho) with ⟨ho, hv⟩
  rcases Value.append_inj hv.symm with ⟨hv, hr⟩
  exact ⟨FilterTree.ext hk ho.symm hv, hr⟩

theorem filtersText_append_inj {fs gs : List FilterTree} (hr : rest.head? ≠ some '[')
    (hr' : rest'.head? ≠ some '[') (h : filtersText fs ++ rest = filtersText gs ++ rest') :
    fs = gs ∧ rest = rest' := by
  induction fs generalizing gs with
  | nil =>
    cases gs with
    | nil => exact ⟨rfl, h⟩
    | cons g gs =>
      -- the filter that is one too many would begin where the filters have ended
      rw [filtersText_nil, List.nil_append, filtersText_cons] at h
      rw [h] at hr
      exact absurd rfl hr
  | cons f fs ih =>
    cases gs with
    | nil =>
      rw [filtersText_nil, List.nil_append, filtersText_cons] at h
      rw [← h] at hr'
      exact absurd rfl hr'
    | cons g gs =>
      rw [filtersText_cons, filtersText_cons] at h
      rcases FilterTree.append_inj (List.cons.inj h).2 with ⟨rfl, hrest⟩
      rcases ih hrest with ⟨rfl, hr⟩
      exact ⟨rfl, hr⟩

theorem roleText_injective : Function.Injective roleText := by
  intro r s h
  cases r with
  | none =>
    cases s with
    | none => rfl
    | some w => cases h
  | some v =>
    cases s with
    | none => cases h
    | some w => rw [Word.text_injective h]

theorem identifierText_injective : Function.Injective identifierText := by
  intro i j h
  cases i with
  | none =>
    cases j with
    | none => rfl
    | some w => cases h
  | some v =>
    cases j with
    | none => cases h
    | some w => rw [Word.text_injective (List.cons.inj h).2]

theorem StepTree.append_inj {s t : StepTree} (hr : Ends rest) (hr' : Ends rest')
    (h : s.text ++ rest = t.text ++ rest') : s = t ∧ rest = rest' := by
  simp only [StepTree.text, List.append_assoc] at h
  have hs := stops_filtersText s.filters hr
  have ht := stops_filtersText t.filters hr'
  -- the two roles leave the same rest, hence spell the same text
  have hrole := readRole_text s.role (stops_identifierText s.identifier hs)
  rw [h, readRole_text t.role (stops_identifierText t.identifier ht)] at hrole
  rcases Prod.mk.inj hrole with ⟨-, hrole⟩
  rw [hrole] at h
  have hroles : s.role = t.role := roleText_injective (List.append_cancel_right h)
  -- so do the two identifiers
  have hid := readIdentifier_text s.identifier hs (head?_filtersText_ne s.filters hr)
  rw [← hrole, readIdentifier_text t.identifier ht (head?_filtersText_ne t.filters hr')] at hid
  rcases Prod.mk.inj (Except.ok.inj hid) with ⟨-, hid⟩
  rw [hid] at hrole
  have hids : t.identifier = s.identifier :=
    identifierText_injective (List.append_cancel_right hrole)
  have hfilters : t.filters = s.filters ∧ rest' = rest :=
    filtersText_append_inj (hr'.head?_ne (by decide)) (hr.head?_ne (by decide)) hid
  exact ⟨StepTree.ext hroles hids.symm hfilters.1.symm, hfilters.2.symm⟩

theorem Tree.text_injective : Function.Injective Tree.text := by
  intro t u h
  induction t generalizing u with
  | last s =>
    cases u with
    | last s' =>
      have hs : s.text ++ [] = s'.text ++ [] := by simpa [Tree.text] using h
      rw [(StepTree.append_inj ends_nil ends_nil hs).1]
    | more s' g u =>
      -- a gap would have to begin where the text ends
      have hs : s.text ++ [] = s'.text ++ (g.text ++ u.text) := by simpa [Tree.text] using h
      cases (StepTree.append_inj ends_nil (g.ends_append _) hs).2
  | more s g t ih =>
    cases u with
    | last s' =>
      have hs : s.text ++ (g.text ++ t.text) = s'.text ++ [] := by simpa [Tree.text] using h
      cases (StepTree.append_inj (g.ends_append _) ends_nil hs).2
    | more s' g' u =>
      rcases StepTree.append_inj (g.ends_append _) (g'.ends_append _) h with ⟨rfl, hgap⟩
      rcases Gap.append_inj t.stops_text u.stops_text hgap with ⟨rfl, hrest⟩
      rw [ih hrest]

/-! ## 4. The parser -/

theorem readSteps_eq_ok_iff {cs : List Char} {steps : List Step} :
    readSteps cs = .ok steps ↔ ∃ t : Tree, t.text = cs ∧ t.steps = steps := by
  constructor
  · intro h
    rcases exists_of_readSteps h with ⟨t, hs, ht⟩
    exact ⟨t, ht, hs⟩
  · rintro ⟨t, rfl, rfl⟩
    exact readSteps_text t

theorem parse_of_derives {t : Tree} {raw : String} (h : t.Derives raw) :
    parse raw = .ok { steps := t.steps, raw } := by
  have htext := Tree.derives_iff.mp h
  -- no derivation spells the empty text, which is refused first
  have hne : (trim raw.toList).isEmpty = false := by
    rw [← htext, List.isEmpty_eq_false_iff]
    exact t.text_ne_nil
  rw [parse, ← htext, readSteps_text]
  simp [htext, hne]

theorem exists_derives_of_parse {raw : String} {s : Selector} (h : parse raw = .ok s) :
    ∃ t : Tree, t.Derives raw ∧ s = { steps := t.steps, raw } := by
  unfold parse at h
  simp only at h
  split at h
  · cases h
  · split at h
    · rename_i steps hs
      rcases readSteps_eq_ok_iff.mp hs with ⟨t, ht, rfl⟩
      exact ⟨t, Tree.derives_iff.mpr ht, (Except.ok.inj h).symm⟩
    · cases h

theorem Tree.steps_ne_nil (t : Tree) : t.steps ≠ [] := by
  cases t with
  | last s => exact List.cons_ne_nil _ _
  | more s g t => exact List.cons_ne_nil _ _

theorem steps_ne_nil_of_parse {raw : String} {s : Selector} (h : parse raw = .ok s) :
    s.steps ≠ [] := by
  rcases exists_derives_of_parse h with ⟨t, -, rfl⟩
  exact t.steps_ne_nil

/-- The parser fails in one way only. -/
theorem exists_message_of_parse {raw : String} {f : Failure} (h : parse raw = .error f) :
    ∃ message, f = .invalidSelector message := by
  unfold parse at h
  simp only at h
  split at h
  · exact ⟨_, (Except.error.inj h).symm⟩
  · split at h
    · cases h
    · exact ⟨_, (Except.error.inj h).symm⟩

/-- **The parser accepts exactly the grammar.**  A text is accepted if and only if it has a
derivation, the derivation is the only one, and its steps are the result; every other text is
refused as no selector. -/
theorem parse_accepts_exactly_grammar (raw : String) :
    ((∃ s, parse raw = .ok s) ↔ ∃ t : Tree, t.Derives raw) ∧
    (∀ t u : Tree, t.Derives raw → u.Derives raw → t = u) ∧
    (∀ t : Tree, t.Derives raw → parse raw = .ok { steps := t.steps, raw }) ∧
    ((∀ t : Tree, ¬ t.Derives raw) → ∃ message, parse raw = .error (.invalidSelector message)) := by
  refine ⟨⟨?_, ?_⟩, ?_, fun t ht => parse_of_derives ht, ?_⟩
  · rintro ⟨s, hs⟩
    rcases exists_derives_of_parse hs with ⟨t, ht, -⟩
    exact ⟨t, ht⟩
  · rintro ⟨t, ht⟩
    exact ⟨_, parse_of_derives ht⟩
  · intro t u ht hu
    apply Tree.text_injective
    rw [Tree.derives_iff.mp ht, Tree.derives_iff.mp hu]
  · intro hnone
    cases hp : parse raw with
    | ok s =>
      rcases exists_derives_of_parse hp with ⟨t, ht, -⟩
      exact absurd ht (hnone t)
    | error f =>
      rcases exists_message_of_parse hp with ⟨message, rfl⟩
      exact ⟨message, rfl⟩

end UiTree.Selector.Grammar
