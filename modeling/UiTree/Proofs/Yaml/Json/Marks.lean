import UiTree.Proofs.Yaml.Json.Text
import UiTree.Yaml.Token

/-!
# Marks — the tokens of values on one line

Outside all collections that are laid out in lines, a token takes its characters and leaves the
rest.  What else the reader keeps is of use to keys only: where a text starts that a colon turns
into one.  Each of the lemmas says where the reader stands after one token.
-/

namespace UiTree.Yaml.Lexer

open UiTree.Text UiTree.Json

/-! ## 1. Position -/

/-- Past `n` characters of a line, with `rest` left. -/
def past (n : Nat) (rest : List Char) (s : Lexer) : Lexer :=
  { s with rest, index := s.index + n, column := s.column + n }

variable {s s' s'' : Lexer} {c : Char} {cs blank rest rest' text : List Char} {t : Token}
  {ts ts' : List Token} {level level' : Nat}

theorem forward_visible (hc : Visible c) (h : s.rest = c :: rest) : s.forward = s.past 1 rest := by
  have hbreak : isBreak c = false := by
    by_cases hblank : c = ' '
    · rw [hblank]
      rfl
    · exact isBreak_of_isGap (isGap_of_visible hc hblank)
  have hmark : (c == '\ufeff') = false := by
    rw [beq_eq_false_iff_ne]
    rintro rfl
    revert hc
    decide
  unfold forward
  rw [h]
  simp only [hbreak, hmark, Bool.false_and, Bool.false_eq_true, if_false]
  rfl

theorem skip_visible (ht : ∀ c ∈ text, Visible c) (h : s.rest = text ++ rest) :
    s.skip text.length = s.past text.length rest := by
  induction text generalizing s with
  | nil =>
    rw [List.nil_append] at h
    rw [← h]
    rfl
  | cons c text ih =>
    rw [List.forall_mem_cons] at ht
    rw [List.length_cons, skip, forward_visible ht.1 h, ih ht.2 rfl]
    simp only [past, Nat.add_assoc, Nat.add_comm 1]

theorem goTo_visible (ht : ∀ c ∈ text, Visible c) (h : s.rest = text ++ rest) :
    s.goTo rest = s.past text.length rest := by
  rw [goTo, h, List.length_append, Nat.add_sub_cancel, skip_visible ht h]

/-! ## 2. Where the reader stands -/

/-- The reader is outside all collections in lines and in `level` flow collections, with `rest` left
and the tokens `ts` read, the latest first.  No text that it has met has to be a key. -/
structure At (level : Nat) (rest : List Char) (ts : List Token) (s : Lexer) : Prop where
  flow : s.flow = level
  rest : s.rest = rest
  tokens : s.tokens = ts
  indent : s.indent = -1
  indents : s.indents = []
  optional : ∀ p ∈ s.places, p.2.required = false
  unfinished : ∀ t ∈ ts, t ≠ .finish

/-- Without the places that are too far back to be keys. -/
def refreshed (s : Lexer) : Lexer :=
  { s with places := s.places.filter fun p => !(p.2.line != s.line || s.index - p.2.index > 1024) }

namespace At

theorem past (h : At level rest ts s) (n : Nat) (rest' : List Char) :
    At level rest' ts (s.past n rest') :=
  { h with rest := rfl }

theorem refreshed (h : At level rest ts s) : At level rest ts s.refreshed :=
  { h with optional := fun p hp => h.optional p (List.mem_filter.mp hp).1 }

/-- No collection in lines has to be closed. -/
theorem unwind (h : At level rest ts s) (column : Int) : unwind column s = s := by
  unfold Lexer.unwind
  rw [h.indents]
  split <;> rfl

theorem any_required (h : At level rest ts s) (test : Nat × KeyPlace → Bool) :
    ¬ (s.places.any fun p => test p && p.2.required) = true := by
  rw [List.any_eq_true]
  rintro ⟨p, hp, hrequired⟩
  rw [h.optional p hp, Bool.and_false] at hrequired
  cases hrequired

theorem dropStale (h : At level rest ts s) : s.dropStale = .ok s.refreshed :=
  if_neg (h.any_required fun p => p.2.line != s.line || s.index - p.2.index > 1024)

theorem dropPlace (h : At level rest ts s) :
    s.dropPlace = .ok { s with places := s.places.filter (·.1 != s.flow) } :=
  if_neg (h.any_required fun p => p.1 == s.flow)

/-- A place where a key may stand is remembered as the first one. -/
theorem savePlace (h : At level rest ts s) (hkey : s.keyAllowed = true) :
    s.savePlace = .ok { s with places :=
      (s.flow, { count := s.count, required := false, index := s.index, line := s.line,
                 column := s.column }) :: s.places.filter (·.1 != s.flow) } := by
  -- outside all collections in lines no text starts at the column of one
  have hrequired : (!s.inFlow && s.indent == (s.column : Int)) = false := by
    rw [h.indent, Bool.and_eq_false_iff]
    exact .inr (by simp)
  unfold Lexer.savePlace
  rw [if_pos hkey, h.dropPlace]
  change Except.ok _ = _
  simp only [Lexer.inFlow] at hrequired
  simp only [Lexer.inFlow, hrequired]

theorem exists_savePlace (h : At level rest ts s) :
    ∃ places, s.savePlace = .ok { s with places } ∧ ∀ p ∈ places, p.2.required = false := by
  by_cases hkey : s.keyAllowed = true
  · refine ⟨_, h.savePlace hkey, List.forall_mem_cons.mpr ⟨rfl, fun p hp => ?_⟩⟩
    exact h.optional p (List.mem_filter.mp hp).1
  · refine ⟨s.places, ?_, h.optional⟩
    unfold Lexer.savePlace
    rw [if_neg hkey]

end At

/-! ## 3. From token to token -/

/-- The reader comes from `s` to `s'`, with a character at least for each token. -/
def Leads (s s' : Lexer) : Prop :=
  ∃ n, s'.rest.length + n ≤ s.rest.length ∧ ∀ room, s.run (room + n) = s'.run room

theorem Leads.refl (s : Lexer) : Leads s s := ⟨0, Nat.le_refl _, fun _ => rfl⟩

theorem Leads.trans (h : Leads s s') (h' : Leads s' s'') : Leads s s'' := by
  rcases h with ⟨m, hm, hrun⟩
  rcases h' with ⟨n, hn, hrun'⟩
  refine ⟨n + m, by omega, fun room => ?_⟩
  rw [← Nat.add_assoc, hrun, hrun']

theorem run_succ (h : ∀ t ∈ s.tokens, t ≠ .finish) (hnext : s.next = .ok s') (room : Nat) :
    s.run (room + 1) = s'.run room := by
  rw [run, if_neg, hnext]
  cases hts : s.tokens with
  | nil => exact Bool.false_ne_true
  | cons t ts =>
    have ht : t ≠ .finish := h t (by simp [hts])
    cases t with
    | finish => exact absurd rfl ht
    | _ => exact Bool.false_ne_true

theorem skipSpace_blanks (room : Nat) (h : s.rest = blank ++ c :: rest)
    (hblank : ∀ b ∈ blank, b = ' ') (hc : Visible c) (hspace : c ≠ ' ') (hcomment : c ≠ '#') :
    s.skipSpace (room + 1) = s.past blank.length (c :: rest) := by
  have hrest : skipBlanks s.rest = c :: rest := by
    rw [h]
    exact dropWhile_append_stops (by simpa using hblank) (stops_cons.mpr (by simpa using hspace))
  have hvisible : ∀ b ∈ blank, Visible b := by
    intro b hb
    rw [hblank b hb]
    decide
  have hgoes : takeBreak? (c :: rest) = none :=
    takeBreak?_eq_none rest (isBreak_of_isGap (isGap_of_visible hc hspace))
  -- what is left starts neither a comment nor a line
  unfold skipSpace
  rw [hrest]
  dsimp only
  split
  · rename_i htext
    split at htext
    · rename_i hcs
      exact absurd (List.cons.inj hcs).1 hcomment
    · rw [hgoes] at htext
      cases htext
  · split
    · rename_i hcs
      exact absurd (List.cons.inj hcs).1 hcomment
    · exact goTo_visible hvisible h

/-- The text that was read last may turn out to be a key. -/
def Pending (s : Lexer) : Prop :=
  ∃ place places, s.places = (s.flow, place) :: places ∧ s.count = place.count + 1 ∧
    place.line = s.line ∧ s.index - place.index ≤ 1024

theorem Pending.refreshed (h : Pending s) : Pending s.refreshed := by
  rcases h with ⟨place, places, hplaces, hcount, hline, hindex⟩
  refine ⟨place, places.filter fun p => !(p.2.line != s.line || s.index - p.2.index > 1024), ?_,
    hcount, hline, hindex⟩
  change s.places.filter _ = _
  rw [hplaces, List.filter_cons_of_pos (by simp [hline]; omega)]
  rfl

/-- The state that the next token is read in, past `n` blanks. -/
def ready (n : Nat) (rest : List Char) (s : Lexer) : Lexer := (s.past n rest).refreshed

theorem At.ready (h : At level rest ts s) (n : Nat) (rest' : List Char) :
    At level rest' ts (s.ready n rest') :=
  (h.past n rest').refreshed

/-- What was read last is still pending where no blank follows it. -/
theorem Pending.ready (h : Pending s) (rest : List Char) : Pending (s.ready 0 rest) := by
  have hhere : Pending (s.past 0 rest) := h
  exact hhere.refreshed

/-- The token that starts past the blanks is the next one. -/
theorem At.leads (h : At level (blank ++ c :: rest) ts s) (hblank : ∀ b ∈ blank, b = ' ')
    (hc : Visible c) (hspace : c ≠ ' ') (hcomment : c ≠ '#')
    (hread : (s.ready blank.length (c :: rest)).read = .ok s') (h' : At level' rest' ts' s')
    (hless : rest'.length ≤ rest.length) : Leads s s'.refreshed := by
  have hpast := h.past blank.length (c :: rest)
  have hnext : s.next = .ok s'.refreshed := by
    unfold Lexer.next
    rw [skipSpace_blanks _ h.rest hblank hc hspace hcomment, hpast.dropStale]
    change ((Lexer.unwind _ (s.ready blank.length (c :: rest))).read >>= Lexer.dropStale) = _
    rw [(h.ready blank.length _).unwind, hread]
    exact h'.dropStale
  have hunfinished : ∀ t ∈ s.tokens, t ≠ .finish := by
    rw [h.tokens]
    exact h.unfinished
  -- the one step is paid for by the character that the token starts with
  refine ⟨1, ?_, run_succ hunfinished hnext⟩
  rw [h'.refreshed.rest, h.rest, List.length_append, List.length_cons]
  omega

/-! ## 4. Tokens -/

theorem At.emit (h : At level rest ts s) (ht : t ≠ .finish) : At level rest (t :: ts) (s.emit t) :=
  { h with
    tokens := by rw [← h.tokens]; rfl
    unfinished := List.forall_mem_cons.mpr ⟨ht, h.unfinished⟩ }

section

variable (h : At level (c :: rest) ts s) (hc : Visible c)
include h hc

theorem At.mark (ht : t ≠ .finish) :
    At level rest (t :: ts) (s.mark 1 t) ∧ (s.mark 1 t).keyAllowed = s.keyAllowed := by
  have hskip : s.skip 1 = s.past 1 rest := forward_visible hc h.rest
  rw [Lexer.mark, hskip]
  exact ⟨(h.past 1 rest).emit ht, rfl⟩

theorem At.openFlow (ht : t ≠ .finish) :
    ∃ s', s.openFlow t = .ok s' ∧ At (level + 1) rest (t :: ts) s' ∧ s'.keyAllowed = true := by
  rcases h.exists_savePlace with ⟨places, hsave, hoptional⟩
  have hopen : At (level + 1) (c :: rest) ts
      { s with places, flow := s.flow + 1, keyAllowed := true } :=
    { h with flow := by rw [← h.flow], optional := hoptional }
  exact ⟨_, by rw [Lexer.openFlow, hsave]; rfl, hopen.mark hc ht⟩

theorem At.closeFlow (hlevel : level = level' + 1) (ht : t ≠ .finish) :
    ∃ s', s.closeFlow t = .ok s' ∧ At level' rest (t :: ts) s' := by
  have hinside : s.inFlow = true := by
    rw [inFlow, h.flow, hlevel]
    rfl
  have hclose : At level' (c :: rest) ts
      { s with
        places := s.places.filter (·.1 != s.flow), flow := s.flow - 1, keyAllowed := false } :=
    { h with
      flow := by simp only [h.flow, hlevel, Nat.add_sub_cancel]
      optional := fun p hp => h.optional p (List.mem_filter.mp hp).1 }
  refine ⟨_, ?_, (hclose.mark hc ht).1⟩
  rw [Lexer.closeFlow, h.dropPlace]
  exact if_pos hinside

theorem At.readFlowEntry :
    ∃ s', s.readFlowEntry = .ok s' ∧ At level rest (.flowEntry :: ts) s' ∧
      s'.keyAllowed = true := by
  have hallowed : At level (c :: rest) ts { s with keyAllowed := true } := { h with }
  have hdropped : At level (c :: rest) ts
      { s with keyAllowed := true, places := s.places.filter (·.1 != s.flow) } :=
    { h with optional := fun p hp => h.optional p (List.mem_filter.mp hp).1 }
  refine ⟨_, ?_, hdropped.mark hc (by simp)⟩
  rw [Lexer.readFlowEntry, hallowed.dropPlace]
  rfl

end

theorem At.readQuoted (h : At level (writeChars true cs ++ rest) ts s) :
    ∃ s', s.readQuoted doubleQuoted = .ok s' ∧ At level rest (.scalar false (textOf cs) :: ts) s' ∧
      (s.keyAllowed = true → (writeChars true cs).length ≤ 1024 → Pending s') := by
  rcases h.exists_savePlace with ⟨places, hsave, hoptional⟩
  have hquoted : doubleQuoted s.rest.length (s.rest.drop 1) = .ok (textOf cs, rest) := by
    have hrest : s.rest = '"' :: (cs.flatMap (writeChar true) ++ '"' :: rest) := by
      rw [h.rest, writeChars, List.cons_append, List.append_assoc]
      rfl
    rw [hrest, List.drop_one, List.tail_cons]
    refine doubleQuoted_writeChars rest cs ?_
    rw [List.length_cons, List.length_append]
    omega
  have hstart : At level (writeChars true cs ++ rest) ts { s with places, keyAllowed := false } :=
    { h with optional := hoptional }
  have hgoTo := goTo_visible (visible_writeChars cs) hstart.rest
  refine ⟨_, ?_, (hstart.past (writeChars true cs).length rest).emit (by simp), ?_⟩
  · rw [Lexer.readQuoted, hsave]
    change (doubleQuoted s.rest.length (s.rest.drop 1) >>= _) = _
    rw [hquoted]
    change Except.ok ((Lexer.goTo _ rest).emit _) = _
    rw [hgoTo]
  · -- the place saved for the text is the first one, and the text ends where the reader is
    intro hkey hlength
    have hplaces := congrArg Lexer.places (Except.ok.inj (hsave.symm.trans (h.savePlace hkey)))
    refine ⟨_, _, hplaces, rfl, rfl, ?_⟩
    change s.index + _ - s.index ≤ 1024
    omega

/-- A colon makes a key of the text before it. -/
theorem At.readValue (hc : Visible c) (h : At (level + 1) (c :: rest) (t :: ts) s)
    (hpending : Pending s) :
    ∃ s', s.readValue = .ok s' ∧ At (level + 1) rest (.value :: t :: .key :: ts) s' := by
  rcases hpending with ⟨place, places, hplaces, hcount, -, -⟩
  have hlookup : s.places.lookup s.flow = some place := by
    rw [hplaces, List.lookup_cons_self]
  have hinside : s.inFlow = true := by
    rw [inFlow, h.flow]
    rfl
  -- one token has been read since the place was saved, so the key goes in before that one
  have hkey : At (level + 1) (c :: rest) (t :: .key :: ts)
      (insertAt place.count .key
        { s with places := s.places.filter (·.1 != s.flow), keyAllowed := false }) :=
    { h with
      tokens := by
        simp only [insertAt, hcount, h.tokens, Nat.add_sub_cancel_left]
        rfl
      optional := fun p hp => h.optional p (List.mem_filter.mp hp).1
      unfinished := by
        have hts := List.forall_mem_cons.mp h.unfinished
        exact List.forall_mem_cons.mpr ⟨hts.1, List.forall_mem_cons.mpr ⟨by simp, hts.2⟩⟩ }
  refine ⟨_, ?_, (hkey.mark hc (t := .value) (by simp)).1⟩
  rw [Lexer.readValue, hlookup]
  simp only [inFlow] at hinside
  simp only [inFlow, insertAt, hinside, if_true]

/-! ## 5. Words -/

/-- What follows a value: the end of the text, or a mark of the collection around it. -/
def Ends (level : Nat) : List Char → Prop
  | [] => True
  | c :: _ => level ≠ 0 ∧ isFlowMark c = true

theorem isGap_of_isFlowMark (hc : isFlowMark c = true) : isGap c = false := by
  simp only [isFlowMark, Bool.or_eq_true, beq_iff_eq] at hc
  rcases hc with (((rfl | rfl) | rfl) | rfl) | rfl <;> rfl

theorem visible_of_isLower (hc : c.isLower = true) : Visible c := by
  have hbounds : (decide (97 ≤ c.toNat) && decide (c.toNat ≤ 122)) = true := hc
  rw [Bool.and_eq_true, decide_eq_true_eq, decide_eq_true_eq] at hbounds
  exact ⟨by omega, by omega⟩

theorem beq_of_isLower (hc : c.isLower = true) (d : Char) (hd : d.isLower = false) :
    (c == d) = false := by
  rw [beq_eq_false_iff_ne]
  rintro rfl
  rw [hc] at hd
  cases hd

theorem isGap_of_isLower (hc : c.isLower = true) : isGap c = false :=
  isGap_of_visible (visible_of_isLower hc) (beq_eq_false_iff_ne.mp (beq_of_isLower hc ' ' rfl))

theorem isIndicator_of_isLower (hc : c.isLower = true) : isIndicator c = false := by
  rw [isIndicator, List.contains_eq_any_beq, List.any_eq_false]
  intro d hd
  have hother := (List.all_eq_true (p := fun d => !d.isLower)).mp (by decide) d hd
  rw [beq_of_isLower hc d (by simpa using hother)]
  exact Bool.false_ne_true

theorem endsPlain_letter (flow : Bool) (hc : c.isLower = true) :
    endsPlain flow (c :: rest) = false := by
  have hother := beq_of_isLower hc
  simp only [endsPlain, isGap_of_isLower hc, isFlowMark, hother ':' rfl, hother '?' rfl,
    hother ',' rfl, hother '[' rfl, hother ']' rfl, hother '\x7b' rfl, hother '\x7d' rfl,
    Bool.false_and, Bool.and_false, Bool.or_false]

theorem endsPlain_ends (hends : Ends level rest) : endsPlain (level != 0) rest = true := by
  cases rest with
  | nil => rfl
  | cons c rest => simp [endsPlain, hends.1, hends.2]

theorem plainRun_letters {flow : Bool} (htext : ∀ c ∈ text, c.isLower = true)
    (hends : endsPlain flow rest = true) : plainRun flow (text ++ rest) = (text, rest) := by
  induction text with
  | nil =>
    cases rest with
    | nil => rfl
    | cons c rest => simp [plainRun, hends]
  | cons c text ih =>
    rw [List.forall_mem_cons] at htext
    rw [List.cons_append, plainRun, endsPlain_letter flow htext.1, ih htext.2]
    rfl

theorem plainGap_ends (hends : Ends level rest) :
    plainGap rest = { space := [], column? := none, rest } := by
  cases rest with
  | nil => rfl
  | cons c rest =>
    have hgap := isGap_of_isFlowMark hends.2
    have hspace : (c == ' ') = false := by
      simp only [isGap, Bool.or_eq_false_iff] at hgap
      exact hgap.1.1
    simp [plainGap, skipBlanks, hspace, takeBreak?_eq_none rest (isBreak_of_isGap hgap)]

theorem plain_letters (indent room : Nat) (htext : ∀ c ∈ text, c.isLower = true)
    (hends : Ends level rest) :
    plain (level != 0) indent (room + 1) (text ++ rest) = (text, false, rest) := by
  rw [plain, plainRun_letters htext (endsPlain_ends hends)]
  simp [plainGap_ends hends]

theorem At.readPlain (h : At level (text ++ rest) ts s) (htext : ∀ c ∈ text, c.isLower = true)
    (hne : text ≠ []) (hends : Ends level rest) :
    ∃ s', s.readPlain = .ok s' ∧ At level rest (.scalar true (.ofChars text) :: ts) s' := by
  rcases h.exists_savePlace with ⟨places, hsave, hoptional⟩
  have hvisible : ∀ c ∈ text, Visible c := fun c hc => visible_of_isLower (htext c hc)
  have hplain : plain s.inFlow (s.indent + 1).toNat s.rest.length s.rest = (text, false, rest) := by
    have hroom : s.rest.length = s.rest.length - 1 + 1 := by
      have := List.length_pos_iff.mpr hne
      rw [h.rest, List.length_append]
      omega
    rw [hroom, h.rest, inFlow, h.flow]
    exact plain_letters _ _ htext hends
  have hstart : At level (text ++ rest) ts { s with places, keyAllowed := false } :=
    { h with optional := hoptional }
  have hgoTo := goTo_visible hvisible hstart.rest
  refine ⟨_, ?_, (hstart.past text.length rest).emit (by simp)⟩
  rw [Lexer.readPlain, hsave]
  simp only [inFlow] at hplain
  change Except.ok _ = _
  simp only [inFlow, hplain, hgoTo]

/-! ## 6. The token at hand -/

/-- The marks that open a collection. -/
inductive Opens : Char → Token → Prop
  | sequence : Opens '[' .flowSequenceStart
  | mapping : Opens '\x7b' .flowMappingStart

/-- The marks that close one. -/
inductive Closes : Char → Token → Prop
  | sequence : Closes ']' .flowSequenceEnd
  | mapping : Closes '\x7d' .flowMappingEnd

theorem read_opens (hmark : Opens c t) (h : s.rest = c :: rest) : s.read = s.openFlow t := by
  cases hmark <;> simp [read, h, atSeparator]

theorem read_closes (hmark : Closes c t) (h : s.rest = c :: rest) : s.read = s.closeFlow t := by
  cases hmark <;> simp [read, h, atSeparator]

theorem read_comma (h : s.rest = ',' :: rest) : s.read = s.readFlowEntry := by
  simp [read, h, atSeparator]

theorem read_colon (h : s.rest = ':' :: rest) (hinside : s.inFlow = true) :
    s.read = s.readValue := by
  simp [read, h, atSeparator, hinside]

theorem read_quote (h : s.rest = '"' :: rest) : s.read = s.readQuoted doubleQuoted := by
  simp [read, h, atSeparator]

theorem read_letter (h : s.rest = c :: rest) (hc : c.isLower = true) : s.read = s.readPlain := by
  have hother := beq_of_isLower hc
  have hseparator : atSeparator (c :: rest) = false := by
    unfold atSeparator
    split
    · rename_i hcs
      rw [(List.cons.inj hcs).1] at hc
      cases hc
    · rename_i hcs
      rw [(List.cons.inj hcs).1] at hc
      cases hc
    · rfl
  have hstarts : startsPlain s.inFlow (c :: rest) = true := by
    rw [startsPlain, isGap_of_isLower hc, isIndicator_of_isLower hc]
    rfl
  unfold read
  simp only [h, hother '%' rfl, hother '[' rfl, hother '\x7b' rfl, hother ']' rfl,
    hother '\x7d' rfl, hother ',' rfl, hother '-' rfl, hother '?' rfl, hother ':' rfl,
    hother '*' rfl, hother '&' rfl, hother '!' rfl, hother '|' rfl, hother '>' rfl, hother '\'' rfl,
    hother '"' rfl, hseparator, hstarts, Bool.false_and, Bool.and_false, Bool.false_eq_true,
    if_false, if_true]

end UiTree.Yaml.Lexer
