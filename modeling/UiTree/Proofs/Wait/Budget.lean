import Mathlib.Algebra.Order.Floor.Ring
import Mathlib.Data.Rat.Floor
import UiTree.Proofs.Wait.Polling

/-!
# Budgets — how many attempts fit into a wait

Attempts that take no time begin at the multiples of the pause, so that their number is settled by
the timeout and the interval alone.  Attempts that take time only come later, and there are fewer of
them.
-/

namespace UiTree

/-- The first multiple of the pause that is too late is the quotient rounded up. -/
theorem Wait.eq_ceil_of_isLeast {budget pause : Int} (hpause : 1 ≤ pause) (hbudget : 0 ≤ budget)
    {n : ℕ} (hn : IsLeast {i : ℕ | budget ≤ i * pause} n) :
    (n : Int) = ⌈(budget : ℚ) / pause⌉ := by
  have hpos : (0 : ℚ) < pause := by exact_mod_cast hpause
  apply le_antisymm
  · have hquotient : 0 ≤ ⌈(budget : ℚ) / pause⌉ := by
      apply Int.ceil_nonneg
      apply div_nonneg
      · exact_mod_cast hbudget
      · exact hpos.le
    have hlate : budget ≤ ⌈(budget : ℚ) / pause⌉.toNat * pause := by
      rw [Int.toNat_of_nonneg hquotient]
      have hle := (div_le_iff₀ hpos).mp (Int.le_ceil ((budget : ℚ) / pause))
      exact_mod_cast hle
    have hfirst : n ≤ ⌈(budget : ℚ) / pause⌉.toNat := hn.2 hlate
    omega
  · rw [Int.ceil_le, div_le_iff₀ hpos]
    have hlate : budget ≤ n * pause := hn.1
    exact_mod_cast hlate

namespace Outcome

variable {α β : Type}

/-! ## 1. Attempts that ask a predicate -/

/-- The predicate was asked and is true. -/
def Holds (isTrue : α → Bool) (o : Outcome α) : Prop :=
  ∃ a, o.reply = .value a ∧ isTrue a = true

def Interrupted (o : Outcome α) : Prop :=
  ∃ i, o.reply = .raised (.interrupt i)

theorem ending_truth_of_holds {isTrue : α → Bool} {o : Outcome α} (h : o.Holds isTrue) (done : β) :
    (o.truth isTrue done).reply.ending = some (.ok done) := by
  rcases h with ⟨a, hreply, htrue⟩
  rw [truth, hreply, Reply.truth, if_pos htrue]
  rfl

/-- Neither a predicate that is false nor one that fails ends the wait. -/
theorem holds_or_interrupted_of_ending {isTrue : α → Bool} {o : Outcome α} {done : β}
    (h : (o.truth isTrue done).reply.ending ≠ none) : o.Holds isTrue ∨ o.Interrupted := by
  rw [truth] at h
  cases hreply : o.reply with
  | nothing =>
    rw [hreply] at h
    exact absurd rfl h
  | value a =>
    by_cases htrue : isTrue a = true
    · exact .inl ⟨a, hreply, htrue⟩
    · rw [hreply, Reply.truth, if_neg htrue] at h
      exact absurd rfl h
  | raised r =>
    cases r with
    | failure f =>
      rw [hreply] at h
      exact absurd rfl h
    | interrupt i => exact .inr ⟨i, hreply⟩

variable {outcome : ℕ → Outcome α} {w : Wait} {start : Int}

/-- If nothing interrupts the predicate before it is true, the wait ends with the first time it
is. -/
theorem isLeast_ending_truth_iff {isTrue : α → Bool}
    (hquiet : ∀ i, (outcome i).Interrupted → ∃ j < i, (outcome j).Holds isTrue) {done : β}
    {k : ℕ} :
    IsLeast {i | ((outcome i).truth isTrue done).reply.ending ≠ none} k ↔
      IsLeast {i | (outcome i).Holds isTrue} k := by
  have hends : ∀ i, (outcome i).Holds isTrue →
      ((outcome i).truth isTrue done).reply.ending ≠ none := by
    intro i hi
    rw [ending_truth_of_holds hi]
    exact Option.some_ne_none _
  constructor
  · intro hk
    refine ⟨?_, fun i hi => hk.2 (hends i hi)⟩
    rcases holds_or_interrupted_of_ending hk.1 with hholds | hinterrupted
    · exact hholds
    · -- an interrupt comes after the predicate was true, which has ended the wait
      rcases hquiet k hinterrupted with ⟨j, hj, hholds⟩
      exact absurd (hk.2 (hends j hholds)) (not_le.mpr hj)
  · intro hk
    refine ⟨hends k hk.1, ?_⟩
    intro i hi
    rcases holds_or_interrupted_of_ending hi with hholds | hinterrupted
    · exact hk.2 hholds
    · rcases hquiet i hinterrupted with ⟨j, hj, hholds⟩
      exact (hk.2 hholds).trans hj.le

/-! ## 2. The clocks of attempts -/

theorem le_clockAt_mul (outcome : ℕ → Outcome α) (w : Wait) (start : Int) (i : ℕ) :
    start + i * w.pause ≤ clockAt outcome w start i := by
  induction i with
  | zero => simp [clockAt]
  | succ i ih =>
    have hpause : w.pause = max 1 w.interval := rfl
    rw [clockAt, ← hpause]
    push_cast
    rw [add_mul, one_mul]
    omega

/-- Attempts that take no time begin at the multiples of the pause. -/
theorem clockAt_of_cost_eq_zero (hcost : ∀ i, (outcome i).cost = 0) (i : ℕ) :
    clockAt outcome w start i = start + i * w.pause := by
  induction i with
  | zero => simp [clockAt]
  | succ i ih =>
    have hpause : w.pause = max 1 w.interval := rfl
    rw [clockAt, ← hpause, ih, hcost]
    push_cast
    rw [add_mul, one_mul]
    omega

/-- The first multiple of the pause that is too late. -/
theorem exists_isLeast_ceil (w : Wait) :
    ∃ m : ℕ, IsLeast {i : ℕ | w.budget ≤ i * w.pause} m ∧
      (m : Int) = ⌈(w.budget : ℚ) / w.pause⌉ := by
  rcases Wait.exists_isLeast_multiple w.budget w.pause_pos with ⟨m, hm⟩
  exact ⟨m, hm, Wait.eq_ceil_of_isLeast w.pause_pos (le_max_left 0 w.timeout) hm⟩

/-- Attempts that take time are not more than those that take none. -/
theorem le_ceil_of_isLeast {n : ℕ}
    (hn : IsLeast {i | w.deadlineFrom start ≤ clockAt outcome w start i} n) :
    (n : Int) ≤ ⌈(w.budget : ℚ) / w.pause⌉ := by
  rcases exists_isLeast_ceil w with ⟨m, hm, hceil⟩
  rw [← hceil]
  have hlate : w.budget ≤ m * w.pause := hm.1
  have hclock := le_clockAt_mul outcome w start m
  have hle : n ≤ m := by
    apply hn.2
    show start + w.budget ≤ _
    omega
  omega

/-- If they take none, their number is the quotient rounded up. -/
theorem eq_ceil_of_cost_eq_zero (hcost : ∀ i, (outcome i).cost = 0) {n : ℕ}
    (hn : IsLeast {i | w.deadlineFrom start ≤ clockAt outcome w start i} n) :
    (n : Int) = ⌈(w.budget : ℚ) / w.pause⌉ := by
  rcases exists_isLeast_ceil w with ⟨m, hm, hceil⟩
  have hset : {i | w.deadlineFrom start ≤ clockAt outcome w start i} =
      {i : ℕ | w.budget ≤ i * w.pause} := by
    ext i
    show start + w.budget ≤ clockAt outcome w start i ↔ w.budget ≤ i * w.pause
    rw [clockAt_of_cost_eq_zero hcost]
    omega
  rw [hset] at hn
  rw [← hceil, hn.unique hm]

/-! ## 3. Waits for a predicate -/

section

variable {isTrue : α → Bool} (hcost : ∀ i, (outcome i).cost = 0)
  (hquiet : ∀ i, (outcome i).Interrupted → ∃ j < i, (outcome j).Holds isTrue)
include hcost hquiet

/-- The call that finds the predicate true ends the wait if it comes before the deadline. -/
theorem poll_truth_of_lt {k : ℕ} (hk : IsLeast {i | (outcome i).Holds isTrue} k)
    (hfits : k * w.pause < w.budget) :
    let ended := w.poll (attempt fun i => (outcome i).truth isTrue ()) start 0
    ended.outcome = .ok () ∧ ended.state = k + 1 ∧ ended.clock = start + k * w.pause := by
  intro ended
  let asked : ℕ → Outcome Unit := fun i => (outcome i).truth isTrue ()
  have hfree : ∀ i, (asked i).cost = 0 := hcost
  have hclock : clockAt asked w start k = start + k * w.pause := clockAt_of_cost_eq_zero hfree k
  have hfirst : IsLeast {i | (asked i).reply.ending ≠ none} k :=
    (isLeast_ending_truth_iff hquiet).mpr hk
  have hearly : clockAt asked w start k < w.deadlineFrom start := by
    rw [hclock, Wait.deadlineFrom]
    omega
  have hpoll := follows_attempt.poll_of_ending rfl hfirst hearly
  have hok : some ended.outcome = some (.ok ()) := hpoll.1.trans (ending_truth_of_holds hk.1 ())
  have hend : ended.clock = clockAt asked w start k + (asked k).cost := hpoll.2.1
  refine ⟨Option.some.inj hok, (attempts_of_ending hfirst hearly).1, ?_⟩
  rw [hend, hclock, hfree]
  omega

/-- If no call before the deadline finds it true, every pause begun in the budget has a call. -/
theorem poll_truth_of_le
    (hlate : ∀ k, IsLeast {i | (outcome i).Holds isTrue} k → w.budget ≤ k * w.pause) :
    let ended := w.poll (attempt fun i => (outcome i).truth isTrue ()) start 0
    let most := ⌈(w.budget : ℚ) / w.pause⌉
    (∃ f, ended.outcome = .error (.failure f)) ∧
      ended.state = most ∧ ended.clock = start + most * w.pause := by
  intro ended most
  let asked : ℕ → Outcome Unit := fun i => (outcome i).truth isTrue ()
  have hfree : ∀ i, (asked i).cost = 0 := hcost
  have hclock : ∀ i, clockAt asked w start i = start + i * w.pause :=
    clockAt_of_cost_eq_zero hfree
  rcases exists_isLeast_deadline_le asked w start (w.deadlineFrom start) with ⟨n, hn⟩
  have hnone : ∀ i < n, (asked i).reply.ending = none := by
    apply ending_eq_none_of_le
    intro k hk
    apply hn.2
    have hlatek := hlate k ((isLeast_ending_truth_iff hquiet).mp hk)
    show start + w.budget ≤ clockAt asked w start k
    rw [hclock]
    omega
  have hpoll := follows_attempt.poll_of_deadline rfl hn hnone
  have hmost : (n : Int) = most := eq_ceil_of_cost_eq_zero hfree hn
  rw [← hmost, ← hclock]
  exact ⟨⟨_, hpoll.1⟩, congrArg Nat.cast (attempts_of_deadline hn hnone).1, hpoll.2.1⟩

end

/-! ## 4. Waits that fail -/

/-- A wait that fails does so at its deadline, after as many attempts as began before it. -/
theorem deadline_of_failure {n : ℕ} {f : Failure}
    (hn : IsLeast {i | w.deadlineFrom start ≤ clockAt outcome w start i} n)
    (hf : (w.poll (attempt outcome) start 0).outcome = .error (.failure f)) :
    (w.poll (attempt outcome) start 0).state = n ∧
      (w.poll (attempt outcome) start 0).clock = clockAt outcome w start n := by
  have hlate : ∀ k, IsLeast {i | (outcome i).reply.ending ≠ none} k → n ≤ k := by
    intro k hk
    by_contra hkn
    -- an attempt that ends the wait in time does not fail it
    have hclock := clockAt_lt_of_isLeast hn (not_le.mp hkn)
    have hending := (follows_attempt.poll_of_ending rfl hk hclock).1
    rw [hf] at hending
    exact absurd hending.symm Reply.ending_ne_failure
  have hnone := ending_eq_none_of_le hlate
  exact ⟨(attempts_of_deadline hn hnone).1, (follows_attempt.poll_of_deadline rfl hn hnone).2.1⟩

/-- The first clock that has reached the deadline has passed it by less than a pause and the attempt
before it. -/
theorem exists_clockAt_lt_of_isLeast (htimeout : 0 < w.timeout) {n : ℕ}
    (hn : IsLeast {i | w.deadlineFrom start ≤ clockAt outcome w start i} n) :
    ∃ m, n = m + 1 ∧
      clockAt outcome w start n < start + w.budget + w.pause + (outcome m).cost := by
  cases n with
  | zero =>
    -- with a budget the first attempt is in time
    have hlate : start + max 0 w.timeout ≤ start := hn.1
    omega
  | succ m =>
    have hearly : clockAt outcome w start m < start + w.budget :=
      clockAt_lt_of_isLeast hn (Nat.lt_succ_self m)
    refine ⟨m, rfl, ?_⟩
    show clockAt outcome w start m + (outcome m).cost + w.pause < _
    omega

/-- **The budget of a wait in closed form.**  Let attempts take no time, and let the predicate be
true for the first time at the call with number `k`; nothing interrupts it before that.  The wait
succeeds exactly when `k` pauses are over before the budget is, with that call and at its clock.
Otherwise, and if the predicate is never true, it fails after one call for every pause begun in the
budget, at the end of the last of these pauses.  However long attempts take, a wait that fails makes
no more calls than that, and ends at the deadline or later, by less than a pause and its last
attempt if there is a budget at all. -/
theorem budget_closed_form (w : Wait) (start : Int) :
    let budget := max 0 w.timeout
    let pause := max 1 w.interval
    let most := ⌈(budget : ℚ) / pause⌉
    (∀ (isTrue : α → Bool) (outcome : ℕ → Outcome α), (∀ i, (outcome i).cost = 0) →
      (∀ i, (outcome i).Interrupted → ∃ j < i, (outcome j).Holds isTrue) →
      let ended := w.poll (attempt fun i => (outcome i).truth isTrue ()) start 0
      (∀ k, IsLeast {i | (outcome i).Holds isTrue} k →
        (ended.outcome = .ok () ↔ k * pause < budget) ∧
        (k * pause < budget → ended.state = k + 1 ∧ ended.clock = start + k * pause)) ∧
      ((∀ k, IsLeast {i | (outcome i).Holds isTrue} k → budget ≤ k * pause) →
        (∃ f, ended.outcome = .error (.failure f)) ∧
        ended.state = most ∧ ended.clock = start + most * pause)) ∧
    ∀ (outcome : ℕ → Outcome α) (f : Failure),
      let ended := w.poll (attempt outcome) start 0
      ended.outcome = .error (.failure f) →
        ended.state ≤ most ∧ start + budget ≤ ended.clock ∧
        (0 < w.timeout → ∃ n, ended.state = n + 1 ∧
          ended.clock < start + budget + pause + (outcome n).cost) := by
  intro budget pause most
  constructor
  · intro isTrue outcome hcost hquiet ended
    refine ⟨fun k hk => ⟨?_, fun hfits => (poll_truth_of_lt hcost hquiet hk hfits).2⟩,
      poll_truth_of_le hcost hquiet⟩
    by_cases hfits : k * pause < budget
    · exact iff_of_true (poll_truth_of_lt hcost hquiet hk hfits).1 hfits
    · -- there is no other first call at which the predicate is true
      have hlate : ∀ j, IsLeast {i | (outcome i).Holds isTrue} j → budget ≤ j * pause :=
        fun j hj => hj.unique hk ▸ not_lt.mp hfits
      have hfailed : ∃ f, ended.outcome = .error (.failure f) :=
        (poll_truth_of_le hcost hquiet hlate).1
      refine iff_of_false ?_ hfits
      intro hok
      rcases hfailed with ⟨f, hf⟩
      cases hok.symm.trans hf
  · intro outcome f ended hf
    rcases exists_isLeast_deadline_le outcome w start (w.deadlineFrom start) with ⟨n, hn⟩
    rcases deadline_of_failure hn hf with ⟨hstate, hclock⟩
    have hstate' : ended.state = n := hstate
    have hclock' : ended.clock = clockAt outcome w start n := hclock
    rw [hstate', hclock']
    exact ⟨le_ceil_of_isLeast hn, hn.1, fun htimeout => exists_clockAt_lt_of_isLeast htimeout hn⟩

/-! ### A predicate that fails before it is true -/

def lateTruth : ℕ → Outcome Bool
  | 0 => { reply := .value false }
  | 1 => { reply := .raised (.failure (.foreign "OSError" [])) }
  | _ => { reply := .value true }

/-- Attempts that take time and find nothing. -/
def slowSearch : ℕ → Outcome Unit := fun _ => { cost := 70, reply := .nothing }

theorem isLeast_lateTruth : IsLeast {i | (lateTruth i).Holds id} 2 := by
  constructor
  · exact ⟨true, rfl, rfl⟩
  · rintro i ⟨a, hreply, htrue⟩
    match i with
    | 0 =>
      cases hreply
      cases htrue
    | 1 => cases hreply
    | i + 2 => omega

/-- Two pauses of a hundred ticks are over before a budget of 250 is, but not before one of 200. -/
theorem budget_closed_form_lateTruth :
    let ended (timeout : Int) :=
      Wait.poll { timeout, interval := 100 } (attempt fun i => (lateTruth i).truth id ()) 1000 0
    let slow := Wait.poll { timeout := 250, interval := 100 } (attempt slowSearch) 1000 0
    (∀ i, (lateTruth i).cost = 0) ∧
    (∀ i, (lateTruth i).Interrupted → ∃ j < i, (lateTruth j).Holds id) ∧
    IsLeast {i | (lateTruth i).Holds id} 2 ∧
    (ended 250).outcome = .ok () ∧ (ended 250).state = 3 ∧ (ended 250).clock = 1200 ∧
    (∃ f, (ended 200).outcome = .error (.failure f)) ∧ (ended 200).state = 2 ∧
    (ended 200).clock = 1200 ∧
    (∃ f, slow.outcome = .error (.failure f)) ∧ slow.state ≤ 3 ∧ 1250 ≤ slow.clock ∧
    slow.clock < 1250 + 100 + 70 := by
  intro ended slow
  have hcost : ∀ i, (lateTruth i).cost = 0
    | 0 => rfl
    | 1 => rfl
    | _ + 2 => rfl
  have hquiet : ∀ i, (lateTruth i).Interrupted → ∃ j < i, (lateTruth j).Holds id := by
    rintro i ⟨x, hreply⟩
    match i with
    | 0 => cases hreply
    | 1 => cases hreply
    | i + 2 => cases hreply
  have hslow : ∃ f, slow.outcome = .error (.failure f) := by
    let w : Wait := { timeout := 250, interval := 100 }
    rcases exists_isLeast_deadline_le slowSearch w 1000 (w.deadlineFrom 1000) with ⟨n, hn⟩
    exact ⟨_, (follows_attempt.poll_of_deadline rfl hn fun _ _ => rfl).1⟩
  have hceil : ⌈((max 0 200 : Int) : ℚ) / (max 1 100 : Int)⌉ = 2 := by norm_num
  have hceil' : ⌈((max 0 250 : Int) : ℚ) / (max 1 100 : Int)⌉ = 3 := by
    rw [Int.ceil_eq_iff]
    norm_num
  have hearly := ((budget_closed_form { timeout := 250, interval := 100 } 1000).1 id lateTruth
    hcost hquiet).1 2 isLeast_lateTruth
  have hlate := ((budget_closed_form { timeout := 200, interval := 100 } 1000).1 id lateTruth
    hcost hquiet).2 fun k hk => hk.unique isLeast_lateTruth ▸ (by decide)
  rw [hceil] at hlate
  rcases hslow with ⟨f, hf⟩
  rcases (budget_closed_form { timeout := 250, interval := 100 } 1000).2 slowSearch f hf with
    ⟨hmost, hend, hbound⟩
  rw [hceil'] at hmost
  rcases hbound (by decide) with ⟨n, -, hclock⟩
  exact ⟨hcost, hquiet, isLeast_lateTruth, hearly.1.mpr (by decide), (hearly.2 (by decide)).1,
    (hearly.2 (by decide)).2, hlate.1, by exact_mod_cast hlate.2.1, hlate.2.2, ⟨f, hf⟩,
    by exact_mod_cast hmost, hend, hclock⟩

end Outcome

end UiTree
