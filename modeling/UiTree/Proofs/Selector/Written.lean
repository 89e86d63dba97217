import UiTree.Proofs.Selector.Position
import UiTree.Proofs.Text.Casing

/-!
# Written — steps spelled as a selector again

Steps that were read can be spelled in one way: values in quotes, one blank between two steps.  A
role is in lower case by then, and lower case takes words to words with one exception, the dotted
capital `İ`: it becomes an `i` with a combining dot, and a combining dot is no part of a word.
-/

namespace UiTree.Selector.Grammar

open UiTree.Text

/-! ## 1. Spelling steps -/

/-- A value in quotes, or bare if it holds one. -/
def writeValue (value : List Char) : List Char :=
  if '"' ∈ value then value else '"' :: (value ++ ['"'])

def writeFilter (f : Filter) : List Char :=
  '[' :: (f.key.toList ++ (f.op.symbol.toList ++ (writeValue f.value.toList ++ [']'])))

def writeRole : Option String → List Char
  | none => []
  | some role => role.toList

def writeIdentifier : Option String → List Char
  | none => []
  | some i => '#' :: i.toList

def writeStep (s : Step) : List Char :=
  writeRole s.role ++ (writeIdentifier s.identifier ++ s.filters.flatMap writeFilter)

def writeSteps : List Step → List Char
  | [] => []
  | [s] => writeStep s
  | s :: t :: steps => writeStep s ++ ' ' :: writeSteps (t :: steps)

/-- The words that a derivation takes for roles, as they stand in its text. -/
def Tree.roles : Tree → List (Word isLetter)
  | .last s => s.role.toList
  | .more s _ t => s.role.toList ++ t.roles

theorem writeSteps_cons (s : Step) {steps : List Step} (h : steps ≠ []) :
    writeSteps (s :: steps) = writeStep s ++ ' ' :: writeSteps steps := by
  cases steps with
  | nil => exact absurd rfl h
  | cons t steps => rfl

/-! ## 2. Words in lower case -/

variable {before cs rest : List Char}

theorem Word.isWordChar_of_mem (w : Word isLetter) : ∀ c ∈ w.text, isWordChar c = true :=
  List.forall_mem_cons.mpr ⟨isWordChar_of_isLetter w.head_ok, w.tail_ok⟩

theorem isWordChar_of_mem_lowerFrom (hw : ∀ c ∈ cs, isWordChar c = true) (hdot : 'İ' ∉ cs) :
    ∀ d ∈ lowerFrom before cs, isWordChar d = true := by
  intro d hd
  obtain ⟨c, hc, _, _, hat⟩ := exists_mem_lowerAt_of_mem_lowerFrom hd
  have hne : c ≠ 'İ' := fun he => hdot (he ▸ hc)
  exact (isWordChar_of_mem_lowerAt hne (hw c hc) hat).1

theorem lowerAt_dotted (before after : List Char) : lowerAt before 'İ' after = ['i', '\u0307'] := by
  rw [lowerAt, if_neg (by decide), lowerChar_dotted.1]

/-- A word goes on up to the dot that the first dotted capital leaves. -/
theorem exists_lowerFrom_of_dotted (before : List Char) (hw : ∀ c ∈ cs, isWordChar c = true)
    (hdot : 'İ' ∈ cs) :
    ∃ run more, lowerFrom before cs = run ++ '\u0307' :: more ∧ run ≠ [] ∧
      ∀ d ∈ run, isWordChar d = true := by
  induction cs generalizing before with
  | nil => cases hdot
  | cons c cs ih =>
    rw [lowerFrom_cons]
    -- the run ends inside what the first dotted capital becomes, behind its `i`
    by_cases hc : c = 'İ'
    · subst hc
      rw [lowerAt_dotted]
      exact ⟨['i'], lowerFrom ('İ' :: before) cs, rfl, List.cons_ne_nil _ _,
        List.forall_mem_singleton.mpr (by decide)⟩
    · have htail : 'İ' ∈ cs := (List.mem_cons.mp hdot).resolve_left fun he => hc he.symm
      obtain ⟨hcw, hcsw⟩ := List.forall_mem_cons.mp hw
      obtain ⟨run, more, hrun, -, hword⟩ := ih (c :: before) hcsw htail
      refine ⟨lowerAt before c cs ++ run, more, ?_, ?_, ?_⟩
      · rw [hrun, List.append_assoc]
      · exact List.append_ne_nil_of_left_ne_nil (lowerAt_ne_nil before c cs) run
      · exact List.forall_mem_append.mpr
          ⟨fun d hd => (isWordChar_of_mem_lowerAt hc hcw hd).1, hword⟩

/-- A text that begins with a letter does so in lower case. -/
theorem exists_lowerFrom_eq_cons (before cs : List Char) {c : Char} (hc : isLetter c = true) :
    ∃ d ds, lowerFrom before (c :: cs) = d :: ds ∧ isLetter d = true := by
  rw [lowerFrom_cons]
  by_cases hdot : c = 'İ'
  · subst hdot
    rw [lowerAt_dotted]
    exact ⟨'i', '\u0307' :: lowerFrom ('İ' :: before) cs, rfl, by decide⟩
  · obtain ⟨d, ds, hat⟩ := List.exists_cons_of_ne_nil (lowerAt_ne_nil before c cs)
    have hd : d ∈ lowerAt before c cs := by
      rw [hat]
      exact List.mem_cons_self
    refine ⟨d, ds ++ lowerFrom (c :: before) cs, by rw [hat, List.cons_append], ?_⟩
    exact (isWordChar_of_mem_lowerAt hdot (isWordChar_of_isLetter hc) hd).2 hc

/-- A word without a dotted capital is a word in lower case too. -/
theorem Word.exists_lowered (w : Word isLetter) (h : 'İ' ∉ w.text) :
    ∃ v : Word isLetter, v.text = lowerChars w.text := by
  obtain ⟨d, ds, hcons, hd⟩ := exists_lowerFrom_eq_cons [] w.tail w.head_ok
  have htext : lowerChars w.text = d :: ds := hcons
  have hword : ∀ c ∈ d :: ds, isWordChar c = true := by
    rw [← htext]
    exact isWordChar_of_mem_lowerFrom w.isWordChar_of_mem h
  exact ⟨⟨d, ds, hd, (List.forall_mem_cons.mp hword).2⟩, htext.symm⟩

/-- Of a word with one, lower case leaves a word and a combining dot behind it. -/
theorem Word.exists_dotted (w : Word isLetter) (h : 'İ' ∈ w.text) :
    ∃ (v : Word isLetter) (more : List Char), lowerChars w.text = v.text ++ '\u0307' :: more := by
  obtain ⟨d, ds, hcons, hd⟩ := exists_lowerFrom_eq_cons [] w.tail w.head_ok
  obtain ⟨run, more, hlower, hne, hrun⟩ := exists_lowerFrom_of_dotted [] w.isWordChar_of_mem h
  have hsame : run ++ '\u0307' :: more = d :: ds := hlower.symm.trans hcons
  -- the run is not empty, so that its first character is the letter
  obtain ⟨c, run, rfl⟩ := List.exists_cons_of_ne_nil hne
  obtain ⟨rfl, -⟩ := List.cons.inj hsame
  exact ⟨⟨c, run, hd, (List.forall_mem_cons.mp hrun).2⟩, more, hlower⟩

/-! ## 3. What was read has a derivation again -/

theorem Value.exists_written (v : Value) :
    ∃ u : Value, u.text = writeValue v.content ∧ u.content = v.content := by
  cases v with
  | quoted body closed =>
    refine ⟨.quoted body closed, ?_, rfl⟩
    exact (if_neg closed).symm
  | bare run nonempty unquoted closed =>
    by_cases hq : '"' ∈ run
    · exact ⟨.bare run nonempty unquoted closed, (if_pos hq).symm, rfl⟩
    · exact ⟨.quoted run hq, (if_neg hq).symm, rfl⟩

theorem FilterTree.exists_written (f : FilterTree) :
    ∃ g : FilterTree, g.text = writeFilter f.filter ∧ g.filter = f.filter := by
  obtain ⟨u, htext, hcontent⟩ := f.value.exists_written
  refine ⟨⟨f.key, f.op, u⟩, ?_, ?_⟩
  · simp only [FilterTree.text, FilterTree.inside, writeFilter, FilterTree.filter, htext,
      String.toList_ofList]
  · simp only [FilterTree.filter, hcontent]

theorem exists_written_filters (fs : List FilterTree) :
    ∃ gs : List FilterTree, filtersText gs = (fs.map FilterTree.filter).flatMap writeFilter ∧
      gs.map FilterTree.filter = fs.map FilterTree.filter := by
  induction fs with
  | nil => exact ⟨[], rfl, rfl⟩
  | cons f fs ih =>
    obtain ⟨g, hg, hgf⟩ := f.exists_written
    obtain ⟨gs, hgs, hgsf⟩ := ih
    refine ⟨g :: gs, ?_, ?_⟩
    · rw [filtersText, List.flatMap_cons, hg, List.map_cons, List.flatMap_cons, ← hgs, filtersText]
    · rw [List.map_cons, List.map_cons, hgf, hgsf]

theorem exists_written_role {role : Option (Word isLetter)} (h : ∀ w ∈ role, 'İ' ∉ w.text) :
    ∃ r : Option (Word isLetter), r.isSome = role.isSome ∧
      roleText r = writeRole (role.map fun w => String.ofList (lowerChars w.text)) ∧
      (r.map fun w => String.ofList (lowerChars w.text))
        = role.map fun w => String.ofList (lowerChars w.text) := by
  cases role with
  | none => exact ⟨none, rfl, rfl, rfl⟩
  | some w =>
    obtain ⟨v, hv⟩ := w.exists_lowered (h w rfl)
    refine ⟨some v, rfl, ?_, ?_⟩
    · rw [Option.map_some, writeRole, String.toList_ofList, roleText, hv]
    · rw [Option.map_some, Option.map_some, hv, lowerChars_lowerChars]

theorem writeIdentifier_map (i : Option (Word startsIdentifier)) :
    writeIdentifier (i.map fun w => String.ofList w.text) = identifierText i := by
  cases i with
  | none => rfl
  | some w => rw [Option.map_some, writeIdentifier, String.toList_ofList, identifierText]

theorem StepTree.exists_written (s : StepTree) (h : ∀ w ∈ s.role, 'İ' ∉ w.text) :
    ∃ u : StepTree, u.text = writeStep s.step ∧ u.step = s.step := by
  obtain ⟨r, hsome, hrole, hlower⟩ := exists_written_role h
  obtain ⟨gs, hgs, hfilters⟩ := exists_written_filters s.filters
  have hne : r.isSome ∨ s.identifier.isSome ∨ gs ≠ [] := by
    have hnil : gs = [] ↔ s.filters = [] := by
      rw [← List.map_eq_nil_iff, hfilters, List.map_eq_nil_iff]
    rw [hsome, ne_eq, hnil]
    exact s.nonempty
  refine ⟨⟨r, s.identifier, gs, hne⟩, ?_, ?_⟩
  · simp only [StepTree.text, writeStep, StepTree.step, hrole, hgs, writeIdentifier_map]
  · simp only [StepTree.step, hlower, hfilters]

def blankGap : Gap := ⟨' ', [], by decide, by simp⟩

theorem Tree.exists_written (t : Tree) (h : ∀ w ∈ t.roles, 'İ' ∉ w.text) :
    ∃ u : Tree, u.text = writeSteps t.steps ∧ u.steps = t.steps := by
  induction t with
  | last s =>
    obtain ⟨u, htext, hstep⟩ := s.exists_written fun w hw => h w (Option.mem_toList.mpr hw)
    refine ⟨.last u, htext, ?_⟩
    rw [Tree.steps, Tree.steps, hstep]
  | more s g t ih =>
    obtain ⟨hs, ht⟩ := List.forall_mem_append.mp h
    obtain ⟨u, htext, hstep⟩ := s.exists_written fun w hw => hs w (Option.mem_toList.mpr hw)
    obtain ⟨v, hvtext, hvsteps⟩ := ih ht
    refine ⟨.more u blankGap v, ?_, ?_⟩
    · rw [Tree.steps, writeSteps_cons _ t.steps_ne_nil, Tree.text, htext, hvtext]
      rfl
    · rw [Tree.steps, Tree.steps, hstep, hvsteps]

/-! ## 4. No white space at the ends -/

theorem Word.isBlank_of_mem_lowerChars (w : Word isLetter) :
    ∀ d ∈ lowerChars w.text, isBlank d = false := by
  intro d hd
  obtain ⟨c, hc, before, after, hat⟩ := exists_mem_lowerAt_of_mem_lowerFrom hd
  -- a combining dot is no part of a word, but no white space either
  by_cases hdot : c = 'İ'
  · subst hdot
    rw [lowerAt_dotted] at hat
    have hdots : (['i', '\u0307'].all (!isBlank ·)) = true := by decide
    simpa using List.all_eq_true.mp hdots d hat
  · exact isBlank_of_isWordChar (isWordChar_of_mem_lowerAt hdot (w.isWordChar_of_mem c hc) hat).1

theorem StepTree.exists_writeStep_eq_cons (s : StepTree) :
    ∃ c cs, writeStep s.step = c :: cs ∧ isBlank c = false := by
  rcases s with ⟨role, identifier, filters, hne⟩
  -- only a role is spelled otherwise than it was read, and it still begins with a letter
  cases role with
  | some w =>
    obtain ⟨d, ds, hcons, hd⟩ := exists_lowerFrom_eq_cons [] w.tail w.head_ok
    have htext : lowerChars w.text = d :: ds := hcons
    refine ⟨d, ds ++ (writeIdentifier (identifier.map fun w => String.ofList w.text) ++
      (filters.map FilterTree.filter).flatMap writeFilter), ?_,
      isBlank_of_isWordChar (isWordChar_of_isLetter hd)⟩
    simp only [writeStep, StepTree.step, Option.map_some, writeRole, String.toList_ofList, htext,
      List.cons_append]
  | none =>
    cases identifier with
    | some w => exact ⟨'#', _, rfl, by decide⟩
    | none =>
      rcases List.exists_cons_of_ne_nil (by simpa using hne) with ⟨f, fs, rfl⟩
      exact ⟨'[', _, rfl, by decide⟩

theorem stops_reverse_writeFilters (fs : List Filter) :
    Stops isBlank (fs.flatMap writeFilter).reverse := by
  induction fs with
  | nil => exact stops_nil
  | cons f fs ih =>
    have hf : Stops isBlank (writeFilter f).reverse := by
      rw [writeFilter, ← List.append_assoc, ← List.append_assoc, ← List.cons_append,
        List.reverse_concat, stops_cons]
      decide
    rw [List.flatMap_cons]
    exact stops_reverse_append hf ih

theorem StepTree.stops_reverse_writeStep (s : StepTree) :
    Stops isBlank (writeStep s.step).reverse := by
  have hrole : Stops isBlank (writeRole s.step.role).reverse := by
    rw [StepTree.step]
    cases s.role with
    | none => exact stops_nil
    | some w =>
      rw [Option.map_some, writeRole, String.toList_ofList]
      exact stops_reverse_of_forall w.isBlank_of_mem_lowerChars
  have hidentifier : Stops isBlank (writeIdentifier s.step.identifier).reverse := by
    rw [StepTree.step, writeIdentifier_map]
    exact stops_reverse_identifierText s.identifier
  exact stops_reverse_append hrole
    (stops_reverse_append hidentifier (stops_reverse_writeFilters s.step.filters))

theorem Tree.exists_writeSteps_eq_cons (t : Tree) :
    ∃ c cs, writeSteps t.steps = c :: cs ∧ isBlank c = false := by
  cases t with
  | last s => exact s.exists_writeStep_eq_cons
  | more s g t =>
    obtain ⟨c, cs, hs, hc⟩ := s.exists_writeStep_eq_cons
    refine ⟨c, cs ++ ' ' :: writeSteps t.steps, ?_, hc⟩
    rw [Tree.steps, writeSteps_cons _ t.steps_ne_nil, hs, List.cons_append]

theorem Tree.writeSteps_ne_nil (t : Tree) : writeSteps t.steps ≠ [] := by
  obtain ⟨c, cs, hcons, -⟩ := t.exists_writeSteps_eq_cons
  rw [hcons]
  exact List.cons_ne_nil c cs

theorem Tree.stops_writeSteps (t : Tree) : Stops isBlank (writeSteps t.steps) := by
  obtain ⟨c, cs, hcons, hc⟩ := t.exists_writeSteps_eq_cons
  rw [hcons]
  exact stops_cons.mpr hc

theorem Tree.stops_reverse_writeSteps (t : Tree) :
    Stops isBlank (writeSteps t.steps).reverse := by
  induction t with
  | last s => exact s.stops_reverse_writeStep
  | more s g t ih =>
    rw [Tree.steps, writeSteps_cons _ t.steps_ne_nil, ← List.singleton_append, ← List.append_assoc,
      List.reverse_append]
    exact stops_append ih (List.reverse_ne_nil_iff.mpr t.writeSteps_ne_nil)

theorem Tree.trim_writeSteps (t : Tree) : trim (writeSteps t.steps) = writeSteps t.steps :=
  trim_eq_of_stripped
    ⟨⟨[], [], by simp, by simp, by simp⟩, t.stops_writeSteps, t.stops_reverse_writeSteps⟩

/-! ## 5. A combining dot ends a step -/

theorem readSteps_noGap {cs : List Char} {step : Step} {c : Char}
    (h : readStep cs = .ok (step, c :: rest)) (hc : isBlank c = false) :
    readSteps cs = .error ⟨.noGap, rest.length + 1⟩ := by
  rw [readSteps_cons h, if_neg (Bool.eq_false_iff.mp hc)]

/-- A role is a step of its own where no part of a step goes on. -/
theorem readStep_role (w : Word isLetter) (hword : Stops isWordChar rest)
    (hmark : rest.head? ≠ some '#') (hopen : rest.head? ≠ some '[') :
    readStep (w.text ++ rest)
      = .ok ({ role := some (String.ofList (lowerChars w.text)) }, rest) := by
  have hrole := readRole_text (some w) hword
  have hidentifier := readIdentifier_text none hword hmark
  have hfilters := readFilters_text [] hopen
  rw [identifierText, List.nil_append] at hidentifier
  rw [filtersText_nil, List.nil_append] at hfilters
  rw [readStep, show w.text = roleText (some w) from rfl, hrole]
  simp only [hidentifier, hfilters, bind, Except.bind, pure, Except.pure]
  rfl

theorem readSteps_dotted (v : Word isLetter) (more : List Char) :
    ∃ r, readSteps (v.text ++ '\u0307' :: more) = .error r := by
  have hword : Stops isWordChar ('\u0307' :: more) := stops_cons.mpr (by rfl)
  exact ⟨_, readSteps_noGap (readStep_role v hword (by simp) (by simp)) (by decide)⟩

theorem exists_writeStep_of_dotted {s : StepTree} {w : Word isLetter} (hw : w ∈ s.role)
    (h : 'İ' ∈ w.text) :
    ∃ (v : Word isLetter) (more : List Char), writeStep s.step = v.text ++ '\u0307' :: more := by
  obtain ⟨v, more, hlower⟩ := w.exists_dotted h
  have hrole : s.role = some w := hw
  refine ⟨v, more ++ (identifierText s.identifier ++
    (s.filters.map FilterTree.filter).flatMap writeFilter), ?_⟩
  simp only [writeStep, StepTree.step, hrole, Option.map_some, writeRole, String.toList_ofList,
    hlower, writeIdentifier_map, List.append_assoc, List.cons_append]

theorem exists_error_of_writeSteps (t : Tree) (h : ∃ w ∈ t.roles, 'İ' ∈ w.text) :
    ∃ r, readSteps (writeSteps t.steps) = .error r := by
  induction t with
  | last s =>
    obtain ⟨w, hw, hdot⟩ := h
    obtain ⟨v, more, hwrite⟩ := exists_writeStep_of_dotted (Option.mem_toList.mp hw) hdot
    rw [Tree.steps, writeSteps, hwrite]
    exact readSteps_dotted v more
  | more s g t ih =>
    rw [Tree.steps, writeSteps_cons _ t.steps_ne_nil]
    by_cases hs : ∃ w ∈ s.role, 'İ' ∈ w.text
    · obtain ⟨w, hw, hdot⟩ := hs
      obtain ⟨v, more, hwrite⟩ := exists_writeStep_of_dotted hw hdot
      rw [hwrite, List.append_assoc, List.cons_append]
      exact readSteps_dotted v _
    · -- the first step is read as it was, so that the refusal is one of the steps after it
      have ht : ∃ w ∈ t.roles, 'İ' ∈ w.text := by
        obtain ⟨w, hw, hdot⟩ := h
        rcases List.mem_append.mp hw with hw | hw
        · exact absurd ⟨w, Option.mem_toList.mp hw, hdot⟩ hs
        · exact ⟨w, hw, hdot⟩
      obtain ⟨r, hr⟩ := ih ht
      obtain ⟨u, htext, -⟩ := s.exists_written fun w hw hdot => hs ⟨w, hw, hdot⟩
      have hends : Ends (' ' :: writeSteps t.steps) := by
        intro c hc
        obtain rfl : ' ' = c := Option.some.inj hc
        decide
      have htrim : trimStart (writeSteps t.steps) = writeSteps t.steps := by
        obtain ⟨c, cs, hcons, hc⟩ := t.exists_writeSteps_eq_cons
        rw [hcons, trimStart_cons_of_not_isBlank hc]
      rw [← htext, readSteps_more (readStep_text u hends) (by decide), htrim, hr]
      exact ⟨r, rfl⟩

/-! ## 6. The parser -/

/-- **What was accepted can be written back, dotted capitals apart.**  The steps of an accepted
text, spelled again, are accepted and give the same steps, unless a role of the text holds a dotted
capital.  If one does, the spelling is refused. -/
theorem written_steps_read_back {raw : String} {s : Selector} (h : parse raw = .ok s) :
    ∃ t : Tree, t.Derives raw ∧ t.steps = s.steps ∧
      ((∀ w ∈ t.roles, 'İ' ∉ w.text) →
        parse (String.ofList (writeSteps s.steps))
          = .ok { steps := s.steps, raw := String.ofList (writeSteps s.steps) }) ∧
      ((∃ w ∈ t.roles, 'İ' ∈ w.text) →
        ∃ message, parse (String.ofList (writeSteps s.steps))
          = .error (.invalidSelector message)) := by
  obtain ⟨t, ht, rfl⟩ := exists_derives_of_parse h
  refine ⟨t, ht, rfl, fun hplain => ?_, fun hdotted => ?_⟩
  · obtain ⟨u, htext, hsteps⟩ := t.exists_written hplain
    have hparse := u.parse_text
    rw [htext, hsteps] at hparse
    exact hparse
  · obtain ⟨r, hr⟩ := exists_error_of_writeSteps t hdotted
    refine ⟨r.message (writeSteps t.steps), ?_⟩
    simp only [parse, String.toList_ofList, t.trim_writeSteps, hr,
      List.isEmpty_eq_false_iff.mpr t.writeSteps_ne_nil, Bool.false_eq_true, if_false]

/-! ### Two capitals -/

theorem Tree.mem_text_of_mem_roles {t : Tree} {w : Word isLetter} {c : Char} (hw : w ∈ t.roles)
    (hc : c ∈ w.text) : c ∈ t.text := by
  have hstep : ∀ s : StepTree, w ∈ s.role.toList → c ∈ s.text := by
    intro s hs
    have hrole : s.role = some w := Option.mem_toList.mp hs
    rw [StepTree.text, hrole]
    exact List.mem_append_left _ hc
  induction t with
  | last s => exact hstep s hw
  | more s g t ih =>
    rw [Tree.text, List.mem_append, List.mem_append]
    rcases List.mem_append.mp hw with hs | ht
    · exact .inl (hstep s hs)
    · exact .inr (.inr (ih ht))

/-- A capital sigma at both ends of a role, a bare value with a quote in it, and a bracket in
quotes. -/
def sigmaText : String := " ΣΑΣ#a-1[Title~=x\"y]\t[value=\"b]\"]"

def sigmaSteps : List Step :=
  [{ role := some "σας", identifier := some "a-1",
     filters := [{ key := "Title", value := "x\"y", op := .contains }] },
   { filters := [{ key := "value", value := "b]" }] }]

theorem written_steps_read_back_sigmaText :
    parse sigmaText = .ok { steps := sigmaSteps, raw := sigmaText } ∧
      parse (String.ofList (writeSteps sigmaSteps))
        = .ok { steps := sigmaSteps, raw := String.ofList (writeSteps sigmaSteps) } := by
  have hparse : parse sigmaText = .ok { steps := sigmaSteps, raw := sigmaText } :=
    eq_ok_of_toOption (by decide +kernel)
  obtain ⟨t, ht, -, hback, -⟩ := written_steps_read_back hparse
  refine ⟨hparse, hback fun w hw hdot => ?_⟩
  have hmem : 'İ' ∈ trim sigmaText.toList := by
    rw [← Tree.derives_iff.mp ht]
    exact Tree.mem_text_of_mem_roles hw hdot
  revert hmem
  decide +kernel

/-- The lower case of a single dotted capital is refused. -/
theorem not_written_steps_read_back_of_dotted :
    ¬ ∀ (raw : String) (s : Selector), parse raw = .ok s →
      ∃ s' : Selector, parse (String.ofList (writeSteps s.steps)) = .ok s' ∧
        s'.steps = s.steps := by
  intro hall
  have hparse : parse "İ" = .ok { steps := [{ role := some "i\u0307" }], raw := "İ" } :=
    eq_ok_of_toOption (by decide +kernel)
  obtain ⟨s', hback, -⟩ := hall _ _ hparse
  have hrefused :
      (parse (String.ofList (writeSteps [{ role := some "i\u0307" }]))).toOption = none := by
    decide +kernel
  rw [hback] at hrefused
  cases hrefused

end UiTree.Selector.Grammar
