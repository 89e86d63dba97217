import UiTree.Proofs.Wait.Polling
import UiTree.Wait.Concurrent

/-!
# Courses — one of several waits, turn by turn

Whoever gives a wait its turns decides no more than how late they come.  A `Course` is what a wait
does in its turns from its entry on, where `R` relates the clock at which each turn was due to the
clock at which it came: `≤` if turns may be late, `=` if they come just then.  Its attempts come to
their outcomes one after the other, and their clocks stand in the same relation to those of a wait
on its own whose attempts spend their sleep awake.
-/

namespace UiTree

variable {α : Type}

/-- The attempt with a number, if it spends its sleep awake. -/
def Waiter.awake (w : Waiter α) (i : ℕ) : Outcome α :=
  { w.outcome i with cost := (w.doze i).toNat + (w.outcome i).cost }

namespace Outcome

/-- The notes about the failures among the first `n` attempts: one for each failure that is not of
the same kind as the one before it. -/
def crumbs (outcome : ℕ → Outcome α) (w : Wait) (mark : String) (n : ℕ) : List Record :=
  (List.range n).flatMap fun i =>
    (outcome i).reply.failure?.elim [] (w.retryNotes mark (failures outcome i).getLast?)

variable {outcome : ℕ → Outcome α} {w : Wait} {mark : String}

theorem crumbs_succ (n : ℕ) :
    crumbs outcome w mark (n + 1) = crumbs outcome w mark n ++
      (outcome n).reply.failure?.elim [] (w.retryNotes mark (failures outcome n).getLast?) := by
  rw [crumbs, List.range_succ, List.flatMap_append, ← crumbs, List.flatMap_singleton]

end Outcome

/-! ## 1. One turn -/

namespace Sleeper

/-- In the pause after an attempt that did not end the wait. -/
def rest (s : Sleeper α) (now : Int) : Sleeper α :=
  let o := s.waiter.outcome (s.calls - 1)
  { s with
    last := o.reply.failure?.or s.last, inside := false
    due := now + o.cost + s.waiter.wait.pause }

variable {s : Sleeper α} {now : Int}

theorem settle_of_ending_eq_none (h : (s.waiter.outcome (s.calls - 1)).reply.ending = none) :
    s.settle now =
      { index := s.index, next := .inl (s.rest now)
        clock := now + (s.waiter.outcome (s.calls - 1)).cost
        notes := (s.waiter.outcome (s.calls - 1)).reply.failure?.elim []
          (s.waiter.wait.retryNotes mark s.last)
        worked := some now } := by
  -- only a failure and nothing yet are left
  rw [settle, rest]
  cases hreply : (s.waiter.outcome (s.calls - 1)).reply with
  | nothing => rfl
  | value a => rw [hreply] at h; cases h
  | raised raised =>
    cases raised with
    | failure f => rfl
    | interrupt i => rw [hreply] at h; cases h

theorem settle_of_ending {r : Except Raised α}
    (h : (s.waiter.outcome (s.calls - 1)).reply.ending = some r) :
    s.settle now =
      { index := s.index
        next := .inr
          { index := s.index, since := s.since, outcome := r, calls := s.calls
            clock := now + (s.waiter.outcome (s.calls - 1)).cost }
        clock := now + (s.waiter.outcome (s.calls - 1)).cost
        worked := some now } := by
  rw [settle]
  cases hreply : (s.waiter.outcome (s.calls - 1)).reply with
  | nothing => rw [hreply] at h; cases h
  | value a => rw [hreply] at h; cases h; rfl
  | raised raised =>
    cases raised with
    | failure f => rw [hreply] at h; cases h
    | interrupt i => rw [hreply] at h; cases h; rfl

theorem settle_begun (s : Sleeper α) (now : Int) : (s.settle now).begun = none := by
  unfold settle
  simp only
  split <;> rfl

theorem begin_of_deadline_le (h : s.deadline ≤ now) :
    s.begin now =
      { index := s.index
        next := .inr
          { index := s.index, since := s.since, outcome := .error (s.waiter.wait.expiry s.last)
            calls := s.calls, clock := now }
        clock := now, notes := [s.waiter.wait.expiryNote s.last] } := by
  rw [begin, if_neg (not_lt.mpr h)]

theorem begin_of_doze_pos (h : now < s.deadline) (hdoze : 0 < s.waiter.doze s.calls) :
    s.begin now =
      { index := s.index, next := .inl (s.call now), clock := now, begun := some now } := by
  rw [begin, if_pos h, if_pos hdoze]

theorem begin_of_doze_nonpos (h : now < s.deadline) (hdoze : s.waiter.doze s.calls ≤ 0) :
    s.begin now = { (s.call now).settle now with begun := some now } := by
  rw [begin, if_pos h, if_neg (not_lt.mpr hdoze)]

theorem resume_of_inside (h : s.inside = true) : s.resume now = s.settle now := by
  rw [resume, if_pos h]

theorem resume_of_not_inside (h : s.inside = false) : s.resume now = s.begin now := by
  rw [resume, h]
  rfl

/-- How a turn that began at the clock `now` goes with the clock. -/
structure Takes (s : Sleeper α) (now : Int) (t : Turn α) : Prop where
  index : t.index = s.index
  /-- It is over before the wait is due again. -/
  asleep : ∀ s', t.next = .inl s' → t.clock ≤ s'.due
  /-- It ends when the wait does. -/
  ended : ∀ e, t.next = .inr e → t.clock = e.clock
  /-- It takes no time if no attempt does. -/
  free : (∀ i, (s.waiter.outcome i).cost = 0) → t.clock = now

theorem takes_settle (s : Sleeper α) (now : Int) : s.Takes now (s.settle now) := by
  have hpause := s.waiter.wait.pause_pos
  have hfree : (∀ i, (s.waiter.outcome i).cost = 0) →
      now + (s.waiter.outcome (s.calls - 1)).cost = now := by
    intro hcost
    rw [hcost]
    omega
  cases hending : (s.waiter.outcome (s.calls - 1)).reply.ending with
  | none =>
    rw [settle_of_ending_eq_none hending]
    refine ⟨rfl, ?_, fun e h => (by cases h), hfree⟩
    rintro t ⟨⟩
    simp only [rest]
    omega
  | some r =>
    rw [settle_of_ending hending]
    refine ⟨rfl, fun t h => (by cases h), ?_, hfree⟩
    rintro e ⟨⟩
    rfl

theorem takes_resume (s : Sleeper α) (now : Int) : s.Takes now (s.resume now) := by
  cases hs : s.inside with
  | true =>
    rw [resume_of_inside hs]
    exact s.takes_settle now
  | false =>
    rw [resume_of_not_inside hs]
    by_cases hnow : now < s.deadline
    · by_cases hdoze : 0 < s.waiter.doze s.calls
      · rw [begin_of_doze_pos hnow hdoze]
        refine ⟨rfl, ?_, fun e h => (by cases h), fun _ => rfl⟩
        rintro t ⟨⟩
        exact le_sleepFrom now _
      · rw [begin_of_doze_nonpos hnow (not_lt.mp hdoze)]
        rcases (s.call now).takes_settle now with ⟨hindex, hasleep, hended, hfree⟩
        exact ⟨hindex, hasleep, hended, hfree⟩
    · rw [begin_of_deadline_le (not_lt.mp hnow)]
      refine ⟨rfl, fun t h => (by cases h), ?_, fun _ => rfl⟩
      rintro e ⟨⟩
      rfl

end Sleeper

/-! ## 2. How late turns come -/

/-- How late turns come, as a relation between the clocks at which they are due and those at which
they come. -/
structure Pace (R : Int → Int → Prop) : Prop where
  refl : ∀ a, R a a
  trans : ∀ {a b c}, R a b → R b c → R a c
  add : ∀ {a b} c, R a b → R (a + c) (b + c)
  le : ∀ {a b}, R a b → a ≤ b

theorem pace_le : Pace (· ≤ ·) :=
  ⟨le_refl, le_trans, fun c h => by omega, id⟩

theorem pace_eq : Pace (· = ·) :=
  ⟨fun _ => rfl, Eq.trans, fun c h => by omega, le_of_eq⟩

/-- When the next attempt may be made, by the clocks of those made before. -/
def Waiter.ready (w : Waiter α) (since : Int) (begun : List Int) : Int :=
  match begun.getLast? with
  | none => since
  | some c => c + (w.awake (begun.length - 1)).cost + w.wait.pause

/-- The clocks of attempts each of which is made when it may, or as much later as `R` allows. -/
inductive Paced (R : Int → Int → Prop) (w : Waiter α) (since : Int) : List Int → Prop
  | nil : Paced R w since []
  | concat {begun : List Int} {c : Int} (h : Paced R w since begun)
      (hc : R (w.ready since begun) c) : Paced R w since (begun ++ [c])

theorem getElem?_concat_eq_some {β : Type} {xs : List β} {x y : β} {i : ℕ}
    (h : (xs ++ [x])[i]? = some y) : xs[i]? = some y ∨ (i = xs.length ∧ x = y) := by
  rw [List.getElem?_append] at h
  split at h
  · exact .inl h
  · rename_i hi
    rw [List.getElem?_singleton] at h
    split at h
    · exact .inr ⟨by omega, Option.some.inj h⟩
    · cases h

namespace Paced

open Outcome

variable {R : Int → Int → Prop} {w : Waiter α} {since : Int} {begun : List Int}

theorem ready_concat (begun : List Int) (c : Int) :
    w.ready since (begun ++ [c]) = c + (w.awake begun.length).cost + w.wait.pause := by
  rw [Waiter.ready, List.getLast?_concat, List.length_append]
  rfl

/-- The next attempt may be made when the wait on its own would make it, or later. -/
theorem clockAt_ready (hR : Pace R) (h : Paced R w since begun) :
    R (clockAt w.awake w.wait since begun.length) (w.ready since begun) := by
  induction h with
  | nil => exact hR.refl since
  | concat h hc ih =>
    rw [ready_concat, List.length_append]
    exact hR.add _ (hR.add _ (hR.trans ih hc))

theorem clockAt_getElem? (hR : Pace R) (h : Paced R w since begun) {i : ℕ} {c : Int}
    (hc : begun[i]? = some c) : R (clockAt w.awake w.wait since i) c := by
  induction h with
  | nil => cases hc
  | concat h hlast ih =>
    -- the last attempt is made when it may, or later, and that is not before its clock
    rcases getElem?_concat_eq_some hc with hc | ⟨rfl, rfl⟩
    · exact ih hc
    · exact hR.trans (h.clockAt_ready hR) hlast

/-- Attempts that come on time are made at the clocks of the wait on its own. -/
theorem eq_map_clockAt (h : Paced (· = ·) w since begun) :
    begun = (List.range begun.length).map (clockAt w.awake w.wait since) := by
  apply List.ext_getElem
  · rw [List.length_map, List.length_range]
  · intro i hi _
    rw [List.getElem_map, List.getElem_range]
    exact (h.clockAt_getElem? pace_eq (List.getElem?_eq_getElem hi)).symm

end Paced

/-! ## 3. What a wait has done -/

open Outcome

variable {R : Int → Int → Prop} {w : Waiter α} {index : ℕ} {since : Int}
variable {begun worked : List Int} {notes : List Record}

/-- A wait that is asleep after attempts begun and done at these clocks, with these notes. -/
structure Underway (R : Int → Int → Prop) (w : Waiter α) (index : ℕ) (since : Int)
    (begun worked : List Int) (notes : List Record) (s : Sleeper α) : Prop where
  waiter_eq : s.waiter = w
  index_eq : s.index = index
  since_eq : s.since = since
  calls_eq : s.calls = begun.length
  going : ∀ i < worked.length, (w.outcome i).reply.ending = none
  last_eq : s.last = (failures w.outcome worked.length).getLast?
  notes_eq : notes = crumbs w.outcome w.wait Sleeper.mark worked.length
  early : ∀ c ∈ begun, c < w.wait.deadlineFrom since
  paced : Paced R w since begun
  work : ∀ i c, worked[i]? = some c → R (sleepFrom (clockAt w.awake w.wait since i) (w.doze i)) c
  between : s.inside = false → begun.length = worked.length ∧ R (w.ready since begun) s.due
  within : s.inside = true → ∃ c,
    begun.getLast? = some c ∧ begun.length = worked.length + 1 ∧
      s.due = sleepFrom c (w.doze worked.length)

/-- The wait ended with its last attempt. -/
structure Returned (R : Int → Int → Prop) (w : Waiter α) (since : Int) (made : ℕ)
    (notes : List Record) (e : Ended α) : Prop where
  going : ∀ i < made - 1, (w.outcome i).reply.ending = none
  outcome : (w.outcome (made - 1)).reply.ending = some e.outcome
  clock : R (clockAt w.awake w.wait since (made - 1) + (w.awake (made - 1)).cost) e.clock
  notes_eq : notes = crumbs w.outcome w.wait Sleeper.mark (made - 1)

/-- The wait ended at its deadline. -/
structure Expired (R : Int → Int → Prop) (w : Waiter α) (since : Int) (made : ℕ)
    (notes : List Record) (e : Ended α) : Prop where
  going : ∀ i < made, (w.outcome i).reply.ending = none
  outcome_eq : e.outcome = .error (.failure (w.wait.expiry (failures w.outcome made).getLast?))
  late : w.wait.deadlineFrom since ≤ e.clock
  clock : R (clockAt w.awake w.wait since made) e.clock
  notes_eq : notes = crumbs w.outcome w.wait Sleeper.mark made ++
    [w.wait.expiryNote (failures w.outcome made).getLast?]

/-- A wait that has ended. -/
structure Concluded (R : Int → Int → Prop) (w : Waiter α) (index : ℕ) (since : Int)
    (begun worked : List Int) (notes : List Record) (e : Ended α) : Prop where
  index_eq : e.index = index
  since_eq : e.since = since
  calls_eq : e.calls = begun.length
  worked_length : worked.length = begun.length
  early : ∀ c ∈ begun, c < w.wait.deadlineFrom since
  paced : Paced R w since begun
  work : ∀ i c, worked[i]? = some c → R (sleepFrom (clockAt w.awake w.wait since i) (w.doze i)) c
  way : (begun ≠ [] ∧ Returned R w since begun.length notes e) ∨
    Expired R w since begun.length notes e

namespace Underway

variable {s : Sleeper α} {now : Int}

theorem deadline (h : Underway R w index since begun worked notes s) :
    s.deadline = w.wait.deadlineFrom since := by
  rw [Sleeper.deadline, h.waiter_eq, h.since_eq]

theorem enter (hR : Pace R) : Underway R w index since [] [] [] (w.enter index since) where
  waiter_eq := rfl
  index_eq := rfl
  since_eq := rfl
  calls_eq := rfl
  going := fun i hi => absurd hi (Nat.not_lt_zero i)
  last_eq := rfl
  notes_eq := rfl
  early := fun c hc => absurd hc List.not_mem_nil
  paced := .nil
  work := fun i c hc => by cases hc
  between := fun _ => ⟨rfl, hR.refl since⟩
  within := fun h => by cases h

/-- The next attempt is made. -/
theorem call (hR : Pace R) (h : Underway R w index since begun worked notes s)
    (hs : s.inside = false) (hdue : R s.due now) (hnow : now < s.deadline) :
    Underway R w index since (begun ++ [now]) worked notes (s.call now) := by
  rcases h.between hs with ⟨hlength, hready⟩
  refine { h with calls_eq := ?_, early := ?_, paced := ?_, between := ?_, within := ?_ }
  · rw [List.length_append, ← h.calls_eq]
    rfl
  · intro c hc
    rcases List.mem_append.mp hc with hc | hc
    · exact h.early c hc
    · rw [List.mem_singleton.mp hc, ← h.deadline]
      exact hnow
  · exact .concat h.paced (hR.trans hready hdue)
  · intro hinside
    cases hinside
  · intro _
    refine ⟨now, List.getLast?_concat, ?_, ?_⟩
    · rw [List.length_append, hlength]
      rfl
    · rw [← hlength, ← h.calls_eq, ← h.waiter_eq]
      rfl

/-- When an attempt does its work, as measured by the wait on its own. -/
theorem work_now (hR : Pace R) (h : Underway R w index since begun worked notes s)
    (hs : s.inside = true) (hdue : R s.due now) :
    R (sleepFrom (clockAt w.awake w.wait since worked.length) (w.doze worked.length)) now := by
  rcases h.within hs with ⟨c, hlast, hlength, hd⟩
  have hc : begun[worked.length]? = some c := by
    rw [List.getLast?_eq_getElem?, hlength] at hlast
    exact hlast
  rw [hd] at hdue
  exact hR.trans (hR.add _ (h.paced.clockAt_getElem? hR hc)) hdue

theorem work_concat (hR : Pace R) (h : Underway R w index since begun worked notes s)
    (hs : s.inside = true) (hdue : R s.due now) (i : ℕ) (c : Int)
    (hc : (worked ++ [now])[i]? = some c) :
    R (sleepFrom (clockAt w.awake w.wait since i) (w.doze i)) c := by
  rcases getElem?_concat_eq_some hc with hc | ⟨rfl, rfl⟩
  · exact h.work i c hc
  · exact h.work_now hR hs hdue

/-- The outcome of the attempt that the wait is asleep in. -/
theorem outcome (h : Underway R w index since begun worked notes s) (hs : s.inside = true) :
    s.waiter.outcome (s.calls - 1) = w.outcome worked.length := by
  rcases h.within hs with ⟨c, -, hlength, -⟩
  rw [h.waiter_eq, h.calls_eq, hlength, Nat.add_sub_cancel]

/-- An attempt has come to its end, but the wait has not. -/
theorem rest (hR : Pace R) (h : Underway R w index since begun worked notes s)
    (hs : s.inside = true) (hdue : R s.due now)
    (ho : (w.outcome worked.length).reply.ending = none) :
    Underway R w index since begun (worked ++ [now])
      (notes ++ (w.outcome worked.length).reply.failure?.elim []
        (w.wait.retryNotes Sleeper.mark s.last)) (s.rest now) := by
  rcases h.within hs with ⟨c, hlast, hlength, hd⟩
  have hworked : (worked ++ [now]).length = worked.length + 1 := List.length_append
  refine { h with
    going := ?_, last_eq := ?_, notes_eq := ?_, work := ?_, between := ?_, within := ?_ }
  · intro i hi
    rw [hworked] at hi
    rcases Nat.lt_succ_iff_lt_or_eq.mp hi with hi | rfl
    · exact h.going i hi
    · exact ho
  · rw [hworked, failures_succ_getLast?, ← h.last_eq, ← h.outcome hs]
    rfl
  · rw [hworked, crumbs_succ, ← h.notes_eq, ← h.last_eq]
  · exact h.work_concat hR hs hdue
  · intro _
    refine ⟨by rw [hworked, hlength], ?_⟩
    -- the turn came as late as the work was begun, and both are followed by the same times
    have hready : w.ready since begun =
        sleepFrom c (w.doze worked.length) + ((w.outcome worked.length).cost + w.wait.pause) := by
      rw [Waiter.ready, hlast, hlength, Nat.add_sub_cancel, sleepFrom, Waiter.awake]
      push_cast
      omega
    have hpause : (s.rest now).due = now + ((w.outcome worked.length).cost + w.wait.pause) := by
      rw [Sleeper.rest, h.outcome hs, h.waiter_eq, Int.add_assoc]
    rw [hready, hpause, ← hd]
    exact hR.add _ hdue
  · intro hinside
    cases hinside

theorem returned (hR : Pace R) (h : Underway R w index since begun worked notes s)
    (hs : s.inside = true) (hdue : R s.due now) {r : Except Raised α}
    (ho : (w.outcome worked.length).reply.ending = some r) :
    Concluded R w index since begun (worked ++ [now]) notes
      { index := s.index, since := s.since, outcome := r, calls := s.calls
        clock := now + (w.outcome worked.length).cost } := by
  rcases h.within hs with ⟨c, hlast, hlength, hd⟩
  have hmade : begun.length - 1 = worked.length := by rw [hlength, Nat.add_sub_cancel]
  refine ⟨h.index_eq, h.since_eq, h.calls_eq, ?_, h.early, h.paced, h.work_concat hR hs hdue,
    .inl ⟨?_, ?_⟩⟩
  · rw [List.length_append, hlength]
    rfl
  · rintro rfl
    cases hlast
  · rw [← hmade] at ho
    refine ⟨?_, ho, ?_, ?_⟩
    · rw [hmade]
      exact h.going
    · -- the attempt is over when its sleep and its work are
      have hclock : clockAt w.awake w.wait since worked.length + (w.awake worked.length).cost =
          sleepFrom (clockAt w.awake w.wait since worked.length) (w.doze worked.length)
            + (w.outcome worked.length).cost := by
        rw [sleepFrom, Waiter.awake]
        push_cast
        omega
      rw [hmade, hclock]
      exact hR.add _ (h.work_now hR hs hdue)
    · rw [hmade]
      exact h.notes_eq

theorem expired (hR : Pace R) (h : Underway R w index since begun worked notes s)
    (hs : s.inside = false) (hdue : R s.due now) (hnow : s.deadline ≤ now) :
    Concluded R w index since begun worked (notes ++ [s.waiter.wait.expiryNote s.last])
      { index := s.index, since := s.since, outcome := .error (s.waiter.wait.expiry s.last)
        calls := s.calls, clock := now } := by
  rcases h.between hs with ⟨hlength, hready⟩
  refine ⟨h.index_eq, h.since_eq, h.calls_eq, hlength.symm, h.early, h.paced, h.work, .inr ?_⟩
  rw [hlength]
  refine ⟨h.going, ?_, ?_, ?_, ?_⟩
  · rw [h.waiter_eq, h.last_eq]
  · rw [← h.deadline]
    exact hnow
  · rw [← hlength]
    exact hR.trans (h.paced.clockAt_ready hR) (hR.trans hready hdue)
  · rw [h.waiter_eq, ← h.notes_eq, ← h.last_eq]

end Underway

/-! ## 4. Turn after turn -/

/-- A wait that is asleep, or one that has ended. -/
def Stands (R : Int → Int → Prop) (w : Waiter α) (index : ℕ) (since : Int)
    (begun worked : List Int) (notes : List Record) : Sleeper α ⊕ Ended α → Prop
  | .inl s => Underway R w index since begun worked notes s
  | .inr e => Concluded R w index since begun worked notes e

/-- The work of the attempt that the wait is asleep in. -/
theorem Underway.settle {s : Sleeper α} {now : Int} (hR : Pace R)
    (h : Underway R w index since begun worked notes s) (hs : s.inside = true)
    (hdue : R s.due now) :
    Stands R w index since begun (worked ++ (s.settle now).worked.toList)
      (notes ++ (s.settle now).notes) (s.settle now).next := by
  have ho := h.outcome hs
  cases hending : (w.outcome worked.length).reply.ending with
  | none =>
    rw [Sleeper.settle_of_ending_eq_none (by rw [ho]; exact hending), ho, h.waiter_eq]
    exact h.rest hR hs hdue hending
  | some r =>
    rw [Sleeper.settle_of_ending (by rw [ho]; exact hending), ho, List.append_nil]
    exact h.returned hR hs hdue hending

/-- What one turn does. -/
theorem Underway.resume {s : Sleeper α} {now : Int} (hR : Pace R)
    (h : Underway R w index since begun worked notes s) (hdue : R s.due now) :
    Stands R w index since (begun ++ (s.resume now).begun.toList)
      (worked ++ (s.resume now).worked.toList) (notes ++ (s.resume now).notes)
      (s.resume now).next := by
  cases hs : s.inside with
  | true =>
    rw [Sleeper.resume_of_inside hs, Sleeper.settle_begun, Option.toList_none, List.append_nil]
    exact h.settle hR hs hdue
  | false =>
    rw [Sleeper.resume_of_not_inside hs]
    by_cases hnow : now < s.deadline
    · have hcall := h.call hR hs hdue hnow
      by_cases hdoze : 0 < s.waiter.doze s.calls
      · rw [Sleeper.begin_of_doze_pos hnow hdoze]
        simpa [Stands] using hcall
      · -- the attempt does its work in the same turn, at the clock at which it is due
        rw [Sleeper.begin_of_doze_nonpos hnow (not_lt.mp hdoze)]
        have hat : R (s.call now).due now := by
          rw [Sleeper.call, sleepFrom, max_eq_left (not_lt.mp hdoze), Int.add_zero]
          exact hR.refl now
        exact hcall.settle hR rfl hat
    · rw [Sleeper.begin_of_deadline_le (not_lt.mp hnow)]
      simpa [Stands] using h.expired hR hs hdue (not_lt.mp hnow)

/-- What a wait does in its turns from its entry on, and what it is after them. -/
inductive Course (R : Int → Int → Prop) (w : Waiter α) (index : ℕ) (since : Int) :
    Concurrent.Log α → Sleeper α ⊕ Ended α → Prop
  | enter : Course R w index since {} (.inl (w.enter index since))
  | turn {log : Concurrent.Log α} {s : Sleeper α} {now : Int}
      (h : Course R w index since log (.inl s)) (hdue : R s.due now) :
      Course R w index since (log.add (s.resume now)) (s.resume now).next

namespace Concurrent.Log

theorem begun_add (log : Log α) (t : Turn α) : (log.add t).begun = log.begun ++ t.begun.toList := by
  rw [begun, add, List.filterMap_append, ← begun]
  cases h : t.begun <;> simp [h]

theorem worked_add (log : Log α) (t : Turn α) :
    (log.add t).worked = log.worked ++ t.worked.toList := by
  rw [worked, add, List.filterMap_append, ← worked]
  cases h : t.worked <;> simp [h]

theorem notes_add (log : Log α) (t : Turn α) : (log.add t).notes = log.notes ++ t.notes := by
  rw [notes, add, List.flatMap_append, ← notes, List.flatMap_singleton]

theorem ended_add (log : Log α) (t : Turn α) :
    (log.add t).ended = log.ended ++ t.next.getRight?.toList := by
  rw [ended, add, List.filterMap_append, ← ended]
  cases h : t.next <;> simp [h]

end Concurrent.Log

namespace Course

variable {log : Concurrent.Log α} {x : Sleeper α ⊕ Ended α}

theorem stands (hR : Pace R) (h : Course R w index since log x) :
    Stands R w index since log.begun log.worked log.notes x := by
  induction h with
  | enter => exact .enter hR
  | turn h hdue ih =>
    rw [Concurrent.Log.begun_add, Concurrent.Log.worked_add, Concurrent.Log.notes_add]
    exact Underway.resume hR ih hdue

/-- A wait ends once, in its last turn. -/
theorem ended (h : Course R w index since log x) : log.ended = x.getRight?.toList := by
  induction h with
  | enter => rfl
  | turn h hdue ih =>
    rw [Concurrent.Log.ended_add, ih]
    rfl

theorem last_clock {e : Ended α} (h : Course R w index since log (.inr e)) :
    log.turns.getLast?.map (·.clock) = some e.clock := by
  generalize hx : Sum.inr e = x at h
  cases h with
  | enter => cases hx
  | turn h hdue =>
    rw [Concurrent.Log.add, List.getLast?_concat, Option.map_some,
      (Sleeper.takes_resume _ _).ended e hx.symm]

end Course

end UiTree
