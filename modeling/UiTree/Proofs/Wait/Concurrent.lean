import UiTree.Proofs.Wait.Turns

/-!
# Concurrent waits — what others can do to a wait

A wait that has its turns when it is due comes to what polling comes to, attempt by attempt.  So a
lone wait is polling, and waits whose attempts take no time do not notice each other.  If attempts
take time the turns come late, and lateness can only cost attempts: it neither brings one forward
nor changes what one comes to.
-/

namespace UiTree

variable {α β : Type}

/-! ## 1. A wait on its own -/

namespace Outcome

variable {outcome : ℕ → Outcome α} {w : Wait} {start : Int}

/-- Where polling stands before the attempt with number `i`. -/
theorem pending_attempt (i : ℕ) :
    w.pending (attempt outcome) start 0 i =
      { clock := clockAt outcome w start i, last := (failures outcome i).getLast?, state := i
        notes := crumbs outcome w "" i } := by
  induction i with
  | zero => rfl
  | succ i ih =>
    rw [Wait.pending, Wait.next, ih, crumbs_succ, failures_succ_getLast?, clockAt]
    simp only [attempt, List.append_nil, Wait.pause]

/-- Polling ends with the first attempt that ends it, if that begins before the deadline. -/
theorem poll_attempt_of_ending (outcome : ℕ → Outcome α) {k : ℕ} {r : Except Raised α}
    (hgoing : ∀ i < k, (outcome i).reply.ending = none)
    (hr : (outcome k).reply.ending = some r)
    (hclock : clockAt outcome w start k < w.deadlineFrom start) :
    w.poll (attempt outcome) start 0 =
      { outcome := r, clock := clockAt outcome w start k + (outcome k).cost
        notes := crumbs outcome w "" k, state := k + 1 } := by
  have hreply : w.replyAt (attempt outcome) start 0 = fun i => (outcome i).reply :=
    funext fun i => follows_attempt.replyAt rfl i
  have hk : IsLeast {i | (w.replyAt (attempt outcome) start 0 i).ending ≠ none} k := by
    rw [hreply]
    refine ⟨fun hnone => (by rw [hr] at hnone; cases hnone), fun i hi => ?_⟩
    by_contra hik
    exact hi (hgoing i (not_le.mp hik))
  rw [Wait.poll_of_isLeast_ending hk (by rwa [pending_attempt]) (by rwa [hreply]),
    pending_attempt]
  simp only [attempt, List.append_nil]

/-- Polling ends at the deadline if no attempt before it ends it. -/
theorem poll_attempt_of_deadline (outcome : ℕ → Outcome α) {n : ℕ}
    (hgoing : ∀ i < n, (outcome i).reply.ending = none)
    (hearly : ∀ i < n, clockAt outcome w start i < w.deadlineFrom start)
    (hlate : w.deadlineFrom start ≤ clockAt outcome w start n) :
    w.poll (attempt outcome) start 0 =
      { outcome := .error (.failure (w.expiry (failures outcome n).getLast?))
        clock := clockAt outcome w start n
        notes := crumbs outcome w "" n ++ [w.expiryNote (failures outcome n).getLast?]
        state := n } := by
  have hn : IsLeast {i | w.deadlineFrom start ≤
      (w.pending (attempt outcome) start 0 i).clock} n := by
    simp only [pending_attempt]
    refine ⟨hlate, fun i hi => ?_⟩
    by_contra hin
    exact absurd hi (not_le.mpr (hearly i (not_le.mp hin)))
  have hreply : ∀ i < n, (w.replyAt (attempt outcome) start 0 i).ending = none := by
    intro i hi
    rw [follows_attempt.replyAt rfl]
    exact hgoing i hi
  rw [Wait.poll_of_isLeast_deadline hn hreply, pending_attempt]

end Outcome

/-! ## 2. Notes -/

namespace Record

/-- The note is about an attempt that failed. -/
def aboutAttempt (r : Record) : Bool := "Attempt for ".toList.isPrefixOf r.message.toList

/-- The note with a mark at its beginning, if it is about an attempt. -/
def marked (mark : String) (r : Record) : Record :=
  if r.aboutAttempt then { r with message := mark ++ r.message } else r

end Record

namespace Wait

variable (w : Wait) (mark : String) (last : Option Failure)

theorem retryNotes_marked (f : Failure) :
    (w.retryNotes "" last f).map (Record.marked mark) = w.retryNotes mark last f := by
  rw [retryNotes, retryNotes]
  split
  · rfl
  · simp [Record.marked, Record.aboutAttempt, note, toString, String.append_assoc]

theorem expiryNote_marked : (w.expiryNote last).marked mark = w.expiryNote last := by
  have habout : (w.expiryNote last).aboutAttempt = false := by
    cases last with
    | none => simp [Record.aboutAttempt, expiryNote, note, toString, List.isPrefixOf]
    | some f => simp [Record.aboutAttempt, expiryNote, note, toString, List.isPrefixOf]
  rw [Record.marked, habout]
  rfl

end Wait

theorem Outcome.crumbs_marked (outcome : ℕ → Outcome α) (w : Wait) (mark : String) (n : ℕ) :
    (crumbs outcome w "" n).map (Record.marked mark) = crumbs outcome w mark n := by
  rw [crumbs, crumbs, List.map_flatMap]
  congr 1
  funext i
  cases (outcome i).reply.failure? with
  | none => rfl
  | some f => exact w.retryNotes_marked mark _ f

/-! ## 3. Courses compared -/

namespace Concluded

open Outcome

variable {R : Int → Int → Prop} {w : Waiter α} {index : ℕ} {since : Int}
variable {begun worked : List Int} {notes : List Record} {e : Ended α}

/-- A wait on its own would have made each of the attempts before the deadline. -/
theorem clockAt_lt (hR : Pace R) (h : Concluded R w index since begun worked notes e) {i : ℕ}
    (hi : i < begun.length) : clockAt w.awake w.wait since i < w.wait.deadlineFrom since := by
  have hle := hR.le (h.paced.clockAt_getElem? hR (List.getElem?_eq_getElem hi))
  exact lt_of_le_of_lt hle (h.early _ (List.getElem_mem hi))

/-- With its turns on time a wait comes to what polling comes to. -/
theorem poll_eq (h : Concluded (· = ·) w index since begun worked notes e) :
    ∃ unmarked, notes = unmarked.map (Record.marked Sleeper.mark) ∧
      w.wait.poll (attempt w.awake) since 0 =
        { outcome := e.outcome, clock := e.clock, notes := unmarked, state := e.calls } := by
  rw [h.calls_eq]
  rcases h.way with ⟨hne, hgoing, hr, hclock, hnotes⟩ | ⟨hgoing, houtcome, hlate, hclock, hnotes⟩
  · -- the last attempt is the first one that ends the wait
    have hlength : begun.length - 1 + 1 = begun.length :=
      Nat.sub_add_cancel (List.length_pos_iff.mpr hne)
    have hlt := h.clockAt_lt pace_eq (i := begun.length - 1) (by omega)
    refine ⟨crumbs w.outcome w.wait "" (begun.length - 1), ?_, ?_⟩
    · rw [crumbs_marked, hnotes]
    · rw [poll_attempt_of_ending w.awake hgoing hr hlt, hclock, hlength]
      rfl
  · refine ⟨crumbs w.outcome w.wait "" begun.length ++
      [w.wait.expiryNote (failures w.outcome begun.length).getLast?], ?_, ?_⟩
    · rw [List.map_append, crumbs_marked, List.map_singleton, Wait.expiryNote_marked, hnotes]
    · rw [← hclock] at hlate
      rw [poll_attempt_of_deadline w.awake hgoing
        (fun i hi => h.clockAt_lt pace_eq hi) hlate, hclock, houtcome]
      rfl

theorem begun_eq (h : Concluded (· = ·) w index since begun worked notes e) :
    begun = (List.range e.calls).map (clockAt w.awake w.wait since) := by
  rw [h.calls_eq]
  exact h.paced.eq_map_clockAt

theorem worked_eq (h : Concluded (· = ·) w index since begun worked notes e) :
    worked = (List.range e.calls).map fun i =>
      sleepFrom (clockAt w.awake w.wait since i) (w.doze i) := by
  rw [h.calls_eq, ← h.worked_length]
  apply List.ext_getElem
  · rw [List.length_map, List.length_range]
  · intro i hi _
    rw [List.getElem_map, List.getElem_range]
    exact (h.work i _ (List.getElem?_eq_getElem hi)).symm

variable {index' : ℕ} {begun' worked' : List Int} {notes' : List Record} {a : Ended α}

/-- Attempts that come late are no more than those that come on time. -/
theorem calls_le (hR : Pace R) (h : Concluded R w index since begun worked notes e)
    (ha : Concluded (· = ·) w index' since begun' worked' notes' a) : e.calls ≤ a.calls := by
  rw [h.calls_eq, ha.calls_eq]
  by_contra hmore
  have hlt : begun'.length < begun.length := not_le.mp hmore
  have hgoing : ∀ i < begun.length - 1, (w.outcome i).reply.ending = none := by
    intro i hi
    rcases h.way with ⟨-, hreturned⟩ | hexpired
    · exact hreturned.going i hi
    · exact hexpired.going i (by omega)
  rcases ha.way with ⟨hne, hreturned⟩ | hexpired
  · -- the attempt that ends the wait on its own would have ended this one too
    have hpos := List.length_pos_iff.mpr hne
    have hr := hreturned.outcome
    rw [hgoing (begun'.length - 1) (by omega)] at hr
    cases hr
  · -- the wait on its own had reached the deadline
    have hclock := h.clockAt_lt hR hlt
    have hlate := hexpired.late
    rw [← hexpired.clock] at hlate
    omega

/-- A wait that ends with an attempt in spite of late turns ends with the same one on its own. -/
theorem outcome_eq (hR : Pace R) (h : Concluded R w index since begun worked notes e)
    (ha : Concluded (· = ·) w index' since begun' worked' notes' a)
    (hreturned : ∀ f, e.outcome ≠ .error (.failure f)) :
    a.outcome = e.outcome ∧ a.calls = e.calls := by
  have hle := h.calls_le hR ha
  rw [h.calls_eq, ha.calls_eq] at hle ⊢
  rcases h.way with ⟨hne, hmine⟩ | hexpired
  · have hpos := List.length_pos_iff.mpr hne
    have hr := hmine.outcome
    rcases ha.way with ⟨-, halone⟩ | hexpired
    · have hlength : begun'.length = begun.length := by
        by_contra hdiff
        rw [halone.going (begun.length - 1) (by omega)] at hr
        cases hr
      have hr' := halone.outcome
      rw [hlength, hr, Option.some.injEq] at hr'
      exact ⟨hr'.symm, hlength⟩
    · rw [hexpired.going (begun.length - 1) (by omega)] at hr
      cases hr
  · exact absurd hexpired.outcome_eq (hreturned _)

end Concluded

/-! ## 4. Runs compared -/

namespace Concurrent

open Outcome

/-- One of the waits of a run, and how it ended. -/
def Comes (R : Int → Int → Prop) (w : Waiter α) (index : ℕ) (since : Int) (log : Log α)
    (e : Ended α) : Prop :=
  log.ended = [e] ∧ Concluded R w index since log.begun log.worked log.notes e

theorem comes_of_course {R : Int → Int → Prop} (hR : Pace R) {w : Waiter α} {index : ℕ}
    {since : Int} {log : Log α} {e : Ended α} (h : Course R w index since log (.inr e)) :
    Comes R w index since log e :=
  ⟨h.ended, h.stands hR⟩

theorem exists_comes (clock : Int) (ws : List (Waiter α)) (j : Fin ws.length) :
    ∃ e, e.since = entry clock ws j ∧
      Comes (· ≤ ·) ws[j] j e.since ((runAll clock ws).2.only j) e := by
  rcases exists_course clock (List.getElem?_eq_getElem j.isLt) with ⟨e, hentry, hcourse⟩
  exact ⟨e, hentry, comes_of_course pace_le hcourse⟩

theorem exists_comes_of_calm (clock : Int) {ws : List (Waiter α)} (hcalm : Calm ws)
    (j : Fin ws.length) :
    ∃ e, Comes (· = ·) ws[j] j clock ((runAll clock ws).2.only j) e := by
  have hw : ws[(j : ℕ)]? = some ws[j] := List.getElem?_eq_getElem j.isLt
  rcases (standing_of_calm clock hcalm).ended hw with ⟨e, hsince, hcourse⟩
  rw [hsince] at hcourse
  exact ⟨e, comes_of_course pace_eq hcourse⟩

theorem exists_comes_alone (clock : Int) (w : Waiter α) :
    ∃ e, Comes (· = ·) w 0 clock (runAll clock [w]).2 e ∧ (runAll clock [w]).1 = e.clock := by
  have hone : Calm [w] := .inl le_rfl
  rcases (standing_of_calm clock hone).ended (j := 0) rfl with ⟨e, hsince, hcourse⟩
  rw [only_eq_self, hsince] at hcourse
  refine ⟨e, comes_of_course pace_eq hcourse, ?_⟩
  rw [← runAll_clock, hcourse.last_clock, Option.getD_some]

/-- **Waits whose attempts take no time do not notice each other.**  Each of them ends with the
same result or failure, after as many attempts, at the same clocks, as it does on its own from the
same clock on; a wait for a predicate is one with the replies of a predicate. -/
theorem free_waits_run_as_alone (clock : Int) (ws : List (Waiter α))
    (hfree : ∀ w ∈ ws, ∀ i, (w.outcome i).cost = 0) (j : Fin ws.length) :
    let mine := (runAll clock ws).2.only j
    let alone := (runAll clock [ws[j]]).2
    ∃ e a, mine.ended = [e] ∧ alone.ended = [a] ∧
      e.outcome = a.outcome ∧ e.calls = a.calls ∧ e.clock = a.clock ∧
      mine.begun = alone.begun ∧ mine.worked = alone.worked := by
  intro mine alone
  rcases exists_comes_of_calm clock (.inr hfree) j with ⟨e, hended, he⟩
  rcases exists_comes_alone clock ws[j] with ⟨a, ⟨haended, ha⟩, -⟩
  -- both come to what polling comes to
  rcases he.poll_eq with ⟨notes, -, hpoll⟩
  rcases ha.poll_eq with ⟨notes', -, hpoll'⟩
  rw [hpoll, Polled.mk.injEq] at hpoll'
  rcases hpoll' with ⟨houtcome, hclock, -, hcalls⟩
  refine ⟨e, a, hended, haended, houtcome, hcalls, hclock, ?_, ?_⟩
  · rw [he.begun_eq, ha.begun_eq, hcalls]
  · rw [he.worked_eq, ha.worked_eq, hcalls]

/-- A wait whose attempts sleep longer and longer until the third one has a value, and one whose
attempts fail up to its deadline. -/
def freeWaits : List (Waiter ℕ) :=
  [{ wait := { timeout := 100, interval := 10 }
     outcome := fun i => { reply := if i = 2 then .value 7 else .nothing }
     doze := fun i => 5 * i },
   { wait := { timeout := 25, interval := 0 }
     outcome := fun _ => { reply := .raised (.failure (.elementNotFound "#save")) } }]

theorem free_waits_run_as_alone_freeWaits :
    (∀ w ∈ freeWaits, ∀ i, (w.outcome i).cost = 0) ∧
    ∃ e a, ((runAll 3 freeWaits).2.only 0).ended = [e] ∧
      (runAll 3 [freeWaits[0]]).2.ended = [a] ∧
      e.outcome = a.outcome ∧ e.calls = a.calls ∧ e.clock = a.clock ∧
      ((runAll 3 freeWaits).2.only 0).begun = (runAll 3 [freeWaits[0]]).2.begun ∧
      ((runAll 3 freeWaits).2.only 0).worked = (runAll 3 [freeWaits[0]]).2.worked := by
  have hfree : ∀ w ∈ freeWaits, ∀ i, (w.outcome i).cost = 0 := by
    intro w hw i
    rcases List.mem_cons.mp hw with rfl | hw
    · rfl
    · rw [List.mem_singleton.mp hw]
  exact ⟨hfree, free_waits_run_as_alone 3 freeWaits hfree ⟨0, by decide⟩⟩

end Concurrent

end UiTree
