import UiTree.Proofs.Page.Expectation

/-!
# Weakening — expectations that ask for less

Two checks that look at the same attributes see the same things at every tick, and only judge them
differently.  So as long as neither of two expectations has passed they go through the same ticks,
and one whose check is weaker passes whenever the other does, at the same tick or before it.
-/

namespace UiTree

open UiTree.Text

/-! ## 1. Waits side by side -/

section

variable {σ α : Type}

/-- An attempt that does all that another does, but may come to a value where that comes to
nothing. -/
structure Attempt.Quicker (a b : Attempt σ α) : Prop where
  cost : b.cost = a.cost
  state : b.state = a.state
  reply : b.reply = a.reply ∨ a.reply = .nothing ∧ ∃ v, b.reply = .value v

namespace Wait

/-- A wait does not end before it begins. -/
theorem le_clock_pollFrom (w : Wait) (attempt : Int → σ → Attempt σ α) (deadline now : Int)
    (last : Option Failure) (state : σ) :
    now ≤ (w.pollFrom attempt deadline now last state).clock := by
  have hpause := w.pause_pos
  fun_induction pollFrom w attempt deadline now last state with
  | case1 now last state _ a clock v _ => change now ≤ now + a.cost; omega
  | case2 now last state _ a clock i _ => change now ≤ now + a.cost; omega
  | case3 now last state _ a clock f _ r ih =>
    change now ≤ r.clock
    change now + a.cost + w.pause ≤ r.clock at ih
    omega
  | case4 now last state _ a clock _ r ih =>
    change now ≤ r.clock
    change now + a.cost + w.pause ≤ r.clock at ih
    omega
  | case5 now last state _ => exact le_refl now

variable {attempt attempt' : Int → σ → Attempt σ α} {deadline now : Int} {last : Option Failure}
  {state : σ} {v : α}

theorem pollFrom_of_value {w : Wait} (h : now < deadline)
    (hv : (attempt now state).reply = .value v) :
    w.pollFrom attempt deadline now last state =
      { outcome := .ok v, clock := now + (attempt now state).cost
        notes := (attempt now state).notes, state := (attempt now state).state } := by
  rw [pollFrom, if_pos h]
  simp only [hv]

/-- **Quicker attempts do not make a wait longer.**  If a wait comes to a value, so does one with
the same pause whose attempts do the same but may come to a value sooner, and it ends no later. -/
theorem exists_pollFrom_of_quicker (w w' : Wait) (last' : Option Failure)
    (hpause : w'.pause = w.pause)
    (hquick : ∀ now s, (attempt now s).Quicker (attempt' now s))
    (h : (w.pollFrom attempt deadline now last state).outcome = .ok v) :
    ∃ v', (w'.pollFrom attempt' deadline now last' state).outcome = .ok v' ∧
      (w'.pollFrom attempt' deadline now last' state).clock ≤
        (w.pollFrom attempt deadline now last state).clock := by
  -- the two waits go on from attempt to attempt together until one of them comes to a value
  fun_induction pollFrom w attempt deadline now last state generalizing last'
  case case1 now last state hnow a clock v₀ hv =>
    have hq := hquick now state
    rcases hq.reply with hsame | ⟨hnothing, -⟩
    · rw [pollFrom_of_value hnow (hsame.trans hv), hq.cost]
      exact ⟨v₀, rfl, le_refl _⟩
    · cases hv.symm.trans hnothing
  case case2 => cases h
  case case3 now last state hnow a clock f hf r ih =>
    have hq := hquick now state
    rcases hq.reply with hsame | ⟨hnothing, -⟩
    · rw [pollFrom, if_pos hnow]
      simp only [hsame.trans hf, hq.cost, hq.state, hpause]
      exact ih _ h
    · cases hf.symm.trans hnothing
  case case4 now last state hnow a clock hnothing r ih =>
    have hq := hquick now state
    rcases hq.reply with hsame | ⟨-, v', hv'⟩
    · rw [pollFrom, if_pos hnow]
      simp only [hsame.trans hnothing, hq.cost, hq.state, hpause]
      exact ih _ h
    · have hlater : clock + w.pause ≤ r.clock := w.le_clock_pollFrom attempt deadline _ last _
      have hpos := w.pause_pos
      rw [pollFrom_of_value hnow hv', hq.cost]
      refine ⟨v', rfl, ?_⟩
      change clock ≤ r.clock
      omega
  case case5 => cases h

end Wait

end

/-! ## 2. Checks of one element -/

namespace Check

variable {u v : String}

theorem weakens_text_of_fold_eq (h : fold u = fold v) : (text v).Weakens (text u) where
  reads := rfl
  holds
    | none => nofun
    | some _ => (Selector.containsFolded_congr h _).trans

theorem weakens_containsValue_of_fold_eq (h : fold u = fold v) :
    (containsValue v).Weakens (containsValue u) where
  reads := rfl
  holds
    | none => nofun
    | some a => fun hv => by
      rw [holds, funext (Selector.containsFolded_congr h)]
      exact hv

end Check

/-! ## 3. Expectations -/

namespace Expectation

open Session

/-- What of an element an attempt gets to see. -/
def seen (e : Expectation) (wanted : List Attribute) : Effect (Option Attributes) := do
  match ← e.current with
  | none => pure none
  | some t => some <$> look t wanted

/-- An attempt only judges what it sees. -/
theorem exec_attempt_eq (e : Expectation) (c : Check) (s : Session) :
    s.exec (e.attempt c) =
      ((s.exec (e.seen c.reads)).1.map fun found => if c.holds found then some () else none,
        (s.exec (e.seen c.reads)).2) := by
  rw [attempt, seen, exec_bind, exec_bind]
  rcases s.exec e.current with ⟨found, t⟩
  cases found with
  | error r => rfl
  | ok found =>
    cases found with
    | none => rfl
    | some target =>
      simp only []
      rw [exec_bind]
      rcases t.exec (some <$> look target c.reads) with ⟨looked, u⟩
      cases looked with
      | error r => rfl
      | ok a => rfl

theorem quicker_attempt {c d : Check} (h : c.Weakens d) (e : Expectation) (now : Int)
    (s : Session) :
    (Session.attempt (e.attempt c) now s).Quicker (Session.attempt (e.attempt d) now s) := by
  rcases hseen : { s with clock := now, notes := [] }.exec (e.seen c.reads) with ⟨found, t⟩
  have hc := exec_attempt_eq e c { s with clock := now, notes := [] }
  have hd := exec_attempt_eq e d { s with clock := now, notes := [] }
  rw [hseen] at hc
  rw [h.reads, hseen] at hd
  rw [attempt_of_exec hc, attempt_of_exec hd]
  refine ⟨rfl, rfl, ?_⟩
  cases found with
  | error r => exact .inl rfl
  | ok found =>
    by_cases hholds : c.holds found = true
    · have hholds' := h.holds found hholds
      simp only [Except.map, if_pos hholds, if_pos hholds', true_or]
    · simp only [Except.map, if_neg hholds]
      by_cases hholds' : d.holds found = true
      · exact .inr ⟨rfl, (), by rw [if_pos hholds']; rfl⟩
      · exact .inl (by rw [if_neg hholds'])

/-- The check passes before a clock or at it. -/
def PassesBy (e : Expectation) (c : Check) (s : Session) (clock : Int) : Prop :=
  ∃ t, s.exec (e.check c) = (.ok (), t) ∧ t.clock ≤ clock

/-- A weaker check passes no later. -/
theorem PassesBy.of_weakens {e : Expectation} {c d : Check} {s : Session} {clock : Int}
    (h : e.PassesBy c s clock) (hweak : c.Weakens d) : e.PassesBy d s clock := by
  rcases h with ⟨t, ht, hclock⟩
  cases hparse : Selector.parse e.locator.selector with
  | error f =>
    rw [exec_check_of_parse_eq_error hparse] at ht
    cases ht
  | ok sel =>
    rw [exec_check hparse, exec_waitFor] at ht
    have hend : ((e.wait c).poll (Session.attempt (e.attempt c)) s.clock s).outcome = .ok () :=
      congrArg Prod.fst ht
    have hclock' : ((e.wait c).poll (Session.attempt (e.attempt c)) s.clock s).clock = t.clock :=
      congrArg (·.2.clock) ht
    rcases Wait.exists_pollFrom_of_quicker (e.wait c) (e.wait d) none rfl
      (quicker_attempt hweak e) hend with ⟨⟨⟩, hpasses, hsooner⟩
    refine ⟨(s.exec (e.check d)).2, ?_, ?_⟩
    · rw [exec_check hparse, exec_waitFor]
      exact congrArg (·, _) hpasses
    · rw [exec_check hparse, exec_waitFor]
      exact hsooner.trans (hclock'.le.trans hclock)

end Expectation

/-! ## 4. What contains asks for -/

/-- Each check that is passed by an equal text or by one that contains a text, with the one that is
passed by texts that contain another. -/
def Check.containments (u v : String) : List (Check × Check) :=
  [(.exactText v, .text u), (.text v, .text u), (.value v, .containsValue u),
    (.containsValue v, .containsValue u)]

theorem Check.weakens_of_mem_containments {u v : String} (h : u.toList <:+: v.toList)
    {c d : Check} (hmem : (c, d) ∈ containments u v) : c.Weakens d := by
  simp only [containments, List.mem_cons, Prod.mk.injEq, List.not_mem_nil, or_false] at hmem
  rcases hmem with ⟨rfl, rfl⟩ | ⟨rfl, rfl⟩ | ⟨rfl, rfl⟩ | ⟨rfl, rfl⟩
  · exact weakens_text_of_exactText h
  · exact weakens_text h
  · exact weakens_containsValue_of_value h
  · exact weakens_containsValue h

/-- **Contains asks for less than equals.**  Whatever meets a filter for a text, by being equal to
it or by containing it, contains each piece of that text, and texts that fold alike, as a text and
its lowercase do, are contained in the same ones.  The case of the key does not matter; a key that
is unknown and an attribute that is absent meet no filter, not even one for the empty text.  Checks
of texts and values weaken each other likewise: the weaker one of an element holds when the other
does, and one that is waited for passes by every clock that the other passes by. -/
theorem contains_weakens_equals :
    (∀ (key u v : String) (op : Selector.Op) (a : Attributes), u.toList <:+: v.toList →
      ({ key, value := v, op } : Selector.Filter).holds a = true →
      ({ key, value := u, op := .contains } : Selector.Filter).holds a = true) ∧
    (∀ (key u v : String) (a : Attributes), fold u = fold v →
      ({ key, value := u, op := .contains } : Selector.Filter).holds a =
        ({ key, value := v, op := .contains } : Selector.Filter).holds a) ∧
    (∀ v, fold (lower v) = fold v) ∧
    (∀ (key key' value : String) (op : Selector.Op) (a : Attributes), lower key = lower key' →
      ({ key, value, op } : Selector.Filter).holds a =
        ({ key := key', value, op } : Selector.Filter).holds a) ∧
    (∀ (f : Selector.Filter) (a : Attributes),
      (lower f.key ∉ Selector.filterKeys ∨
        ∃ x, Selector.attributeOf? f.key = some x ∧ a.text? x = none) → f.holds a = false) ∧
    (∀ (u v : String) (c d : Check), u.toList <:+: v.toList → (c, d) ∈ Check.containments u v →
      c.Weakens d ∧ ∀ (e : Expectation) (s : Session) (clock : Int),
        e.PassesBy c s clock → e.PassesBy d s clock) ∧
    ∀ (u v : String) (kind : String → Check), fold u = fold v → kind ∈ [.text, .containsValue] →
      (∀ a, (kind u).holds a = (kind v).holds a) ∧
      ∀ (e : Expectation) (s : Session) (clock : Int),
        e.PassesBy (kind u) s clock ↔ e.PassesBy (kind v) s clock := by
  refine ⟨fun key u v op a => Selector.Filter.holds_contains_of_piece, ?_, fold_lower,
    fun key key' value op a h => Selector.Filter.holds_congr_key h value op a,
    fun f a => Selector.Filter.holds_eq_false, ?_, ?_⟩
  · intro key u v a h
    exact Selector.Filter.holds_contains_congr h key a
  · intro u v c d h hmem
    have hweak := Check.weakens_of_mem_containments h hmem
    exact ⟨hweak, fun e s clock hpasses => hpasses.of_weakens hweak⟩
  · intro u v kind h hkind
    -- texts that fold alike weaken each other
    have hweak : ∀ {u v}, fold u = fold v → (kind v).Weakens (kind u) := by
      rcases List.mem_pair.mp hkind with rfl | rfl
      · exact Check.weakens_text_of_fold_eq
      · exact Check.weakens_containsValue_of_fold_eq
    refine ⟨fun a => ?_, fun e s clock => ⟨fun hu => ?_, fun hv => ?_⟩⟩
    · exact Bool.eq_iff_iff.mpr ⟨(hweak h.symm).holds a, (hweak h).holds a⟩
    · exact hu.of_weakens (hweak h.symm)
    · exact hv.of_weakens (hweak h)

/-- A piece with a sharp s folds to a text that is longer; there is no label. -/
theorem contains_weakens_equals_sharpTitle :
    let titled : Attributes := { title := some "Große" }
    "ße".toList <:+: "Große".toList ∧ fold "SSE" = fold "ße" ∧
    ({ key := "Title", value := "Große", op := .equals } : Selector.Filter).holds titled = true ∧
    ({ key := "Title", value := "ße", op := .contains } : Selector.Filter).holds titled = true ∧
    ({ key := "Title", value := "SSE", op := .contains } : Selector.Filter).holds titled = true ∧
    ({ key := "label", value := "", op := .contains } : Selector.Filter).holds titled = false ∧
    (Check.exactText "Große").Weakens (.text "ße") := by
  intro titled
  have hpiece : "ße".toList <:+: "Große".toList := ⟨"Gro".toList, [], rfl⟩
  have hfold : fold "SSE" = fold "ße" := by decide +kernel
  have hequal :
      ({ key := "Title", value := "Große", op := .equals } : Selector.Filter).holds titled = true :=
    rfl
  rcases contains_weakens_equals with ⟨hpieces, hfolds, -, -, habsent, hchecks, -⟩
  have hpart := hpieces _ _ _ _ titled hpiece hequal
  refine ⟨hpiece, hfold, hequal, hpart, (hfolds _ _ _ titled hfold).trans hpart,
    habsent _ titled (.inr ⟨.label, rfl, rfl⟩), (hchecks _ _ _ _ hpiece ?_).1⟩
  exact List.mem_cons_self

end UiTree
