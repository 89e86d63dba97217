import UiTree.Proofs.Wait.Concurrent

/-!
# Breadcrumbs — what a wait leaves in the log

A wait tells of an attempt that failed if the latest failure before it was of another kind, or if
there was none before; attempts that came to nothing in between do not matter.  It tells of its
deadline if it ends there, and of nothing else.  So a provider that fails in one way all the time
costs one line.
-/

namespace UiTree

open UiTree.Text

variable {α : Type}

/-! ## 1. The latest failure before an attempt -/

theorem Reply.failure?_eq_some_iff {r : Reply α} {f : Failure} :
    r.failure? = some f ↔ r = .raised (.failure f) := by
  cases r with
  | nothing => simp [failure?]
  | value a => simp [failure?]
  | raised raised => cases raised <;> simp [failure?]

theorem Reply.failure?_eq_none_iff {r : Reply α} :
    r.failure? = none ↔ ∀ f, r ≠ .raised (.failure f) := by
  rw [Option.eq_none_iff_forall_ne_some]
  exact forall_congr' fun f => not_congr failure?_eq_some_iff

/-- An attempt that ends a wait is no failure. -/
theorem Reply.failure?_of_ending {r : Reply α} {result : Except Raised α}
    (h : r.ending = some result) : r.failure? = none := by
  rw [failure?_eq_none_iff]
  rintro f rfl
  cases h

namespace Outcome

/-- The attempt with number `j` failed before the one with number `i`, and none between them did. -/
def FailedLast (outcome : ℕ → Outcome α) (i j : ℕ) (f : Failure) : Prop :=
  j < i ∧ (outcome j).reply = .raised (.failure f) ∧
    ∀ k, j < k → k < i → ∀ g, (outcome k).reply ≠ .raised (.failure g)

/-- The attempt with number `i` failed, and the latest one before it that did was of another kind,
if there was one. -/
def FailsAnew (outcome : ℕ → Outcome α) (i : ℕ) (f : Failure) : Prop :=
  (outcome i).reply = .raised (.failure f) ∧
    ((∀ j < i, ∀ g, (outcome j).reply ≠ .raised (.failure g)) ∨
      ∃ j g, FailedLast outcome i j g ∧ g.kind ≠ f.kind)

variable {outcome : ℕ → Outcome α} {w : Wait} {mark : String} {i j n : ℕ} {f g : Failure}

theorem failedLast_succ_iff_of_failed (h : (outcome i).reply = .raised (.failure f)) :
    (∃ j, FailedLast outcome (i + 1) j g) ↔ f = g := by
  constructor
  · rintro ⟨j, hj, hfailed, hlast⟩
    -- an attempt before this one would not be the latest
    rcases Nat.lt_succ_iff_lt_or_eq.mp hj with hj | rfl
    · exact absurd h (hlast i hj (Nat.lt_succ_self i) f)
    · rw [h] at hfailed
      cases hfailed
      rfl
  · rintro rfl
    exact ⟨i, Nat.lt_succ_self i, h, fun k hik hk => absurd hk (by omega)⟩

theorem failedLast_succ_iff_of_not_failed (h : ∀ f, (outcome i).reply ≠ .raised (.failure f)) :
    FailedLast outcome (i + 1) j g ↔ FailedLast outcome i j g := by
  constructor
  · rintro ⟨hj, hfailed, hlast⟩
    rcases Nat.lt_succ_iff_lt_or_eq.mp hj with hj | rfl
    · exact ⟨hj, hfailed, fun k hjk hk => hlast k hjk (Nat.lt_succ_of_lt hk)⟩
    · exact absurd hfailed (h g)
  · rintro ⟨hj, hfailed, hlast⟩
    refine ⟨Nat.lt_succ_of_lt hj, hfailed, fun k hjk hk => ?_⟩
    rcases Nat.lt_succ_iff_lt_or_eq.mp hk with hk | rfl
    · exact hlast k hjk hk
    · exact h

theorem getLast?_failures_eq_some_iff :
    (failures outcome i).getLast? = some g ↔ ∃ j, FailedLast outcome i j g := by
  induction i with
  | zero => simp [failures, FailedLast]
  | succ i ih =>
    rw [failures_succ_getLast?]
    cases h : (outcome i).reply.failure? with
    | none =>
      rw [Option.none_or, ih]
      exact exists_congr fun j =>
        (failedLast_succ_iff_of_not_failed (Reply.failure?_eq_none_iff.mp h)).symm
    | some f =>
      rw [Option.some_or, Option.some.injEq]
      exact (failedLast_succ_iff_of_failed (Reply.failure?_eq_some_iff.mp h)).symm

theorem getLast?_failures_eq_none_iff :
    (failures outcome i).getLast? = none ↔
      ∀ j < i, ∀ g, (outcome j).reply ≠ .raised (.failure g) := by
  rw [List.getLast?_eq_none_iff, failures, List.filterMap_eq_nil_iff]
  simp only [List.mem_range, Reply.failure?_eq_none_iff]

/-! ## 2. Attempts that are told of -/

/-- The failure that is told of an attempt, if there is one. -/
def told? (outcome : ℕ → Outcome α) (i : ℕ) : Option Failure :=
  (outcome i).reply.failure?.filter fun f => !(failures outcome i).getLast?.any (·.kind == f.kind)

/-- The attempts among the first `n` that are told of, with their failures. -/
def told (outcome : ℕ → Outcome α) (n : ℕ) : List (ℕ × Failure) :=
  (List.range n).filterMap fun i => (told? outcome i).map (i, ·)

theorem told?_eq_some_iff : told? outcome i = some f ↔ FailsAnew outcome i f := by
  rw [told?, Option.filter_eq_some_iff, Reply.failure?_eq_some_iff, FailsAnew,
    Bool.not_eq_eq_eq_not, Bool.not_true]
  refine and_congr_right fun _ => ?_
  cases h : (failures outcome i).getLast? with
  | none => exact iff_of_true rfl (.inl (getLast?_failures_eq_none_iff.mp h))
  | some g =>
    rcases getLast?_failures_eq_some_iff.mp h with ⟨j, hj⟩
    rw [Option.any_some, beq_eq_false_iff_ne]
    constructor
    · exact fun hkind => .inr ⟨j, g, hj, hkind⟩
    · rintro (hnone | ⟨j', g', hj', hkind⟩)
      · exact absurd hj.2.1 (hnone j hj.1 g)
      · -- there is but one latest failure
        rw [getLast?_failures_eq_some_iff.mpr ⟨j', hj'⟩] at h
        cases h
        exact hkind

theorem told_succ (n : ℕ) :
    told outcome (n + 1) = told outcome n ++ ((told? outcome n).map (n, ·)).toList := by
  rw [told, List.range_succ, List.filterMap_append, ← told]
  cases h : told? outcome n with
  | none => simp [h]
  | some f => simp [h]

theorem mem_told_iff : (i, f) ∈ told outcome n ↔ i < n ∧ FailsAnew outcome i f := by
  rw [told, List.mem_filterMap, ← told?_eq_some_iff]
  constructor
  · rintro ⟨k, hk, hmap⟩
    rcases Option.map_eq_some_iff.mp hmap with ⟨g, hg, hpair⟩
    cases hpair
    exact ⟨List.mem_range.mp hk, hg⟩
  · rintro ⟨hi, hf⟩
    exact ⟨i, List.mem_range.mpr hi, by rw [hf, Option.map_some]⟩

theorem pairwise_told (outcome : ℕ → Outcome α) (n : ℕ) :
    (told outcome n).Pairwise (·.1 < ·.1) := by
  refine List.pairwise_lt_range.filterMap _ fun i k hik p hp q hq => ?_
  rcases Option.map_eq_some_iff.mp hp with ⟨f, -, rfl⟩
  rcases Option.map_eq_some_iff.mp hq with ⟨g, -, rfl⟩
  exact hik

/-- If all failures are of one kind, no more than one of them is told of. -/
theorem length_le_one_of_kind {entries : List (ℕ × Failure)}
    (hrising : entries.Pairwise (·.1 < ·.1))
    (hmem : ∀ i f, (i, f) ∈ entries → i < n ∧ FailsAnew outcome i f)
    (hkind : ∀ i < n, ∀ j < n, ∀ f g, (outcome i).reply = .raised (.failure f) →
      (outcome j).reply = .raised (.failure g) → f.kind = g.kind) : entries.length ≤ 1 := by
  match entries with
  | [] => exact Nat.zero_le 1
  | [_] => exact Nat.le_refl 1
  | (i, f) :: (k, g) :: rest =>
    rcases hmem i f List.mem_cons_self with ⟨-, hf, -⟩
    rcases hmem k g (List.mem_cons_of_mem _ List.mem_cons_self) with ⟨hk, hg, hanew⟩
    have hik : i < k := List.rel_of_pairwise_cons hrising List.mem_cons_self
    rcases hanew with hnone | ⟨j, h, ⟨hj, hh, -⟩, hne⟩
    · exact absurd hf (hnone i hik f)
    · exact absurd (hkind j (hj.trans hk) k hk h g hh hg) hne

end Outcome

/-! ## 3. Lines -/

namespace Wait

/-- The line about an attempt that failed. -/
def attemptLine (w : Wait) (mark : String) (f : Failure) : Record :=
  { level := .debug, logger := "treewright.core.waiter"
    message := mark ++ "Attempt for " ++ quoted w.label ++ " raised " ++ f.shown
      ++ "; still polling" }

/-- The line about the deadline, with the last failure if there was one. -/
def deadlineLine (w : Wait) : Option Failure → Record
  | some f =>
    { level := .debug, logger := "treewright.core.waiter"
      message := "Wait for " ++ quoted w.label ++ " expired after " ++ toString w.timeout
        ++ " ms; raising last error: " ++ f.shown }
  | none =>
    { level := .debug, logger := "treewright.core.waiter"
      message := "Wait for " ++ quoted w.label ++ " timed out after " ++ toString w.timeout
        ++ " ms" }

theorem retryNotes_eq (w : Wait) (mark : String) (last : Option Failure) (f : Failure) :
    w.retryNotes mark last f =
      if last.any (·.kind == f.kind) then [] else [w.attemptLine mark f] := by
  rw [retryNotes, attemptLine]
  simp [note, Record.loggerName, toString]

theorem expiryNote_eq (w : Wait) (last : Option Failure) :
    w.expiryNote last = w.deadlineLine last := by
  cases last with
  | none => simp [expiryNote, deadlineLine, note, Record.loggerName, toString]
  | some f => simp [expiryNote, deadlineLine, note, Record.loggerName, toString]

end Wait

namespace Outcome

variable {outcome : ℕ → Outcome α} {w : Wait} {mark : String} {n : ℕ} {e : Ended α}

theorem crumbs_eq_map_told :
    crumbs outcome w mark n = (told outcome n).map fun p => w.attemptLine mark p.2 := by
  induction n with
  | zero => rfl
  | succ n ih =>
    rw [crumbs_succ, told_succ, List.map_append, ih, told?]
    congr 1
    cases (outcome n).reply.failure? with
    | none => rfl
    | some f =>
      rw [Option.elim_some, Wait.retryNotes_eq, Option.filter_some]
      cases (failures outcome n).getLast?.any (·.kind == f.kind) <;> rfl

/-- How a wait ended and what it left in the log: a line about each attempt that failed unlike the
latest failure before it, and one about the deadline just if it ended there. -/
def LeavesTrail (outcome : ℕ → Outcome α) (w : Wait) (mark : String) (e : Ended α)
    (notes : List Record) : Prop :=
  ∃ entries : List (ℕ × Failure),
    entries.Pairwise (·.1 < ·.1) ∧
    (∀ i f, (i, f) ∈ entries ↔ i < e.calls ∧ FailsAnew outcome i f) ∧
    ((∀ i < e.calls, ∀ j < e.calls, ∀ f g, (outcome i).reply = .raised (.failure f) →
      (outcome j).reply = .raised (.failure g) → f.kind = g.kind) → entries.length ≤ 1) ∧
    let lines := entries.map fun p => w.attemptLine mark p.2
    ((∃ k, e.calls = k + 1 ∧ (outcome k).reply.ending = some e.outcome ∧ notes = lines) ∨
      ((∀ i < e.calls, (outcome i).reply.ending = none) ∧ w.deadlineFrom e.since ≤ e.clock ∧
        ∃ last, (∀ f, last = some f ↔ ∃ j, FailedLast outcome e.calls j f) ∧
          e.outcome = .error (.failure (last.getD (.waitTimeout w.label w.timeout w.condition))) ∧
          notes = lines ++ [w.deadlineLine last]))

theorem leavesTrail_of_ending {k : ℕ} (hcalls : e.calls = k + 1)
    (hr : (outcome k).reply.ending = some e.outcome) :
    LeavesTrail outcome w mark e (crumbs outcome w mark k) := by
  have hnone : (outcome k).reply.failure? = none := Reply.failure?_of_ending hr
  have hcrumbs : crumbs outcome w mark k = crumbs outcome w mark e.calls := by
    rw [hcalls, crumbs_succ, hnone, Option.elim_none, List.append_nil]
  refine ⟨told outcome e.calls, pairwise_told outcome e.calls, fun i f => mem_told_iff,
    length_le_one_of_kind (pairwise_told outcome e.calls) fun i f => mem_told_iff.mp,
    .inl ⟨k, hcalls, hr, ?_⟩⟩
  rw [hcrumbs, crumbs_eq_map_told]

theorem leavesTrail_of_deadline (hgoing : ∀ i < e.calls, (outcome i).reply.ending = none)
    (hlate : w.deadlineFrom e.since ≤ e.clock)
    (houtcome : e.outcome = .error (.failure (w.expiry (failures outcome e.calls).getLast?))) :
    LeavesTrail outcome w mark e (crumbs outcome w mark e.calls ++
      [w.expiryNote (failures outcome e.calls).getLast?]) := by
  refine ⟨told outcome e.calls, pairwise_told outcome e.calls, fun i f => mem_told_iff,
    length_le_one_of_kind (pairwise_told outcome e.calls) fun i f => mem_told_iff.mp,
    .inr ⟨hgoing, hlate, (failures outcome e.calls).getLast?,
      fun f => getLast?_failures_eq_some_iff, houtcome, ?_⟩⟩
  rw [crumbs_eq_map_told, Wait.expiryNote_eq]

/-! ## 4. Waits -/

/-- Polling leaves its trail, however it ends. -/
theorem leavesTrail_poll (outcome : ℕ → Outcome α) (w : Wait) (start : Int) :
    let p := w.poll (attempt outcome) start 0
    LeavesTrail outcome w ""
      { index := 0, since := start, outcome := p.outcome, calls := p.state, clock := p.clock }
      p.notes := by
  rcases exists_isLeast_deadline_le outcome w start (w.deadlineFrom start) with ⟨n, hn⟩
  by_cases hk : ∃ k < n, IsLeast {i | (outcome i).reply.ending ≠ none} k
  · rcases hk with ⟨k, hkn, hk⟩
    rcases Option.ne_none_iff_exists'.mp hk.1 with ⟨r, hr⟩
    have hgoing : ∀ i < k, (outcome i).reply.ending = none :=
      ending_eq_none_of_le fun i hi => hk.2 hi.1
    rw [poll_attempt_of_ending outcome hgoing hr (clockAt_lt_of_isLeast hn hkn)]
    exact leavesTrail_of_ending rfl hr
  · have hgoing : ∀ i < n, (outcome i).reply.ending = none := by
      refine ending_eq_none_of_le fun k hfirst => ?_
      by_contra hkn
      exact hk ⟨k, not_le.mp hkn, hfirst⟩
    rw [poll_attempt_of_deadline outcome hgoing (fun i hi => clockAt_lt_of_isLeast hn hi) hn.1]
    exact leavesTrail_of_deadline hgoing hn.1 rfl

end Outcome

/-- A wait among others leaves its trail, with a mark on the lines about attempts. -/
theorem Concluded.leavesTrail {R : Int → Int → Prop} {w : Waiter α} {index : ℕ} {since : Int}
    {begun worked : List Int} {notes : List Record} {e : Ended α}
    (h : Concluded R w index since begun worked notes e) :
    Outcome.LeavesTrail w.outcome w.wait Sleeper.mark e notes := by
  have hcalls := h.calls_eq
  rcases h.way with ⟨hne, hreturned⟩ | hexpired
  · have hlength : e.calls = begun.length - 1 + 1 := by
      rw [hcalls, Nat.sub_add_cancel (List.length_pos_iff.mpr hne)]
    rw [hreturned.notes_eq]
    exact Outcome.leavesTrail_of_ending hlength hreturned.outcome
  · rw [hexpired.notes_eq, ← hcalls]
    refine Outcome.leavesTrail_of_deadline ?_ ?_ ?_
    · rw [hcalls]
      exact hexpired.going
    · rw [h.since_eq]
      exact hexpired.late
    · rw [hcalls]
      exact hexpired.outcome_eq

namespace Concurrent

/-- **A wait tells of failures when their kind changes, and of its deadline.**  It leaves a line
about each attempt that failed, if no attempt before it did or the latest one that did failed in
another way, and one more line just if it ends at its deadline, with the last failure if there was
one.  Polling leaves nothing else; nor does a wait among others, whose lines about attempts are
marked, and whatever is in their log was left by one of them. -/
theorem waits_leave_trails :
    (∀ (outcome : ℕ → Outcome α) (w : Wait) (start : Int),
      let p := w.poll (Outcome.attempt outcome) start 0
      Outcome.LeavesTrail outcome w ""
        { index := 0, since := start, outcome := p.outcome, calls := p.state, clock := p.clock }
        p.notes) ∧
    ∀ (clock : Int) (ws : List (Waiter α)),
      let log := (runAll clock ws).2
      (∀ t ∈ log.turns, t.index < ws.length) ∧
      ∀ j : Fin ws.length, ∃ e, (log.only j).ended = [e] ∧
        Outcome.LeavesTrail (ws.get j).outcome (ws.get j).wait "[async] " e (log.only j).notes := by
  refine ⟨Outcome.leavesTrail_poll, fun clock ws => ⟨fun t => turn_index_lt, fun j => ?_⟩⟩
  rcases exists_comes clock ws j with ⟨e, -, hended, he⟩
  exact ⟨e, hended, he.leavesTrail⟩

end Concurrent

end UiTree
