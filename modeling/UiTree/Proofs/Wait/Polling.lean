import Mathlib.Data.Int.Order.Basic
import Mathlib.Order.Nat
import UiTree.Wait.Polling

/-!
# Polling — when a wait ends and what it comes to

Between two attempts a wait is a clock, the last failure, the state and the notes so far.  `pending`
goes from one such point to the next as if no attempt ended the wait and the deadline never came.
A wait follows these points up to the first whose clock has reached the deadline, or up to the
first whose attempt ends it, whichever comes first; the pause, never empty, makes sure there is one.
-/

namespace UiTree

variable {σ α : Type}

/-! ## 1. Replies -/

namespace Reply

/-- What a wait comes to at once with this reply; nothing if the wait goes on. -/
def ending : Reply α → Option (Except Raised α)
  | .nothing => none
  | .value a => some (.ok a)
  | .raised (.interrupt i) => some (.error (.interrupt i))
  | .raised (.failure _) => none

/-- The failure that a reply leaves behind. -/
def failure? : Reply α → Option Failure
  | .raised (.failure f) => some f
  | _ => none

theorem ending_ne_failure {r : Reply α} {f : Failure} :
    r.ending ≠ some (.error (.failure f)) := by
  cases r with
  | nothing => intro h; cases h
  | value a => intro h; cases h
  | raised raised =>
    cases raised with
    | failure f => intro h; cases h
    | interrupt i => intro h; cases h

end Reply

/-! ## 2. Between two attempts -/

/-- A wait that is about to see whether its deadline has come. -/
structure Pending (σ : Type) where
  clock : Int
  last : Option Failure := none
  state : σ
  notes : List Record := []

namespace Wait

/-- After an attempt that did not end the wait, and the pause. -/
def next (w : Wait) (attempt : Int → σ → Attempt σ α) (p : Pending σ) : Pending σ :=
  let a := attempt p.clock p.state
  { clock := p.clock + a.cost + w.pause
    last := a.reply.failure?.or p.last
    state := a.state
    notes := p.notes ++ a.notes ++ a.reply.failure?.elim [] (w.retryNotes "" p.last) }

/-- Before the attempt with number `i`. -/
def pending (w : Wait) (attempt : Int → σ → Attempt σ α) (start : Int) (state : σ) :
    ℕ → Pending σ
  | 0 => { clock := start, state }
  | i + 1 => w.next attempt (pending w attempt start state i)

/-- What comes of a wait from a point on, with the notes made before. -/
def resume (w : Wait) (attempt : Int → σ → Attempt σ α) (deadline : Int) (p : Pending σ) :
    Polled σ α :=
  let r := w.pollFrom attempt deadline p.clock p.last p.state
  { r with notes := p.notes ++ r.notes }

variable (w : Wait) (attempt : Int → σ → Attempt σ α)

theorem poll_eq_resume (start : Int) (state : σ) :
    w.poll attempt start state =
      w.resume attempt (w.deadlineFrom start) (w.pending attempt start state 0) := by
  rw [poll, resume, pending, List.nil_append]

/-- At the deadline the last failure is raised, or a timeout. -/
theorem resume_of_deadline_le {deadline : Int} {p : Pending σ} (h : deadline ≤ p.clock) :
    w.resume attempt deadline p =
      { outcome := .error (.failure (w.expiry p.last)), clock := p.clock
        notes := p.notes ++ [w.expiryNote p.last], state := p.state } := by
  rw [resume, pollFrom, if_neg (not_lt.mpr h)]

/-- An attempt that ends the wait does so without a pause. -/
theorem resume_of_ending {deadline : Int} {p : Pending σ} {r : Except Raised α}
    (h : p.clock < deadline) (hr : (attempt p.clock p.state).reply.ending = some r) :
    w.resume attempt deadline p =
      { outcome := r, clock := p.clock + (attempt p.clock p.state).cost
        notes := p.notes ++ (attempt p.clock p.state).notes
        state := (attempt p.clock p.state).state } := by
  rw [resume, pollFrom, if_pos h]
  -- only a value and an interrupt are left
  cases hreply : (attempt p.clock p.state).reply with
  | nothing => rw [hreply] at hr; cases hr
  | value a => rw [hreply] at hr; cases hr; simp only [hreply]
  | raised raised =>
    cases raised with
    | failure f => rw [hreply] at hr; cases hr
    | interrupt i => rw [hreply] at hr; cases hr; simp only [hreply]

/-- An attempt that does not end the wait leads to the next point. -/
theorem resume_of_ending_eq_none {deadline : Int} {p : Pending σ} (h : p.clock < deadline)
    (hr : (attempt p.clock p.state).reply.ending = none) :
    w.resume attempt deadline p = w.resume attempt deadline (w.next attempt p) := by
  rw [resume, pollFrom, if_pos h]
  -- a failure is remembered and noted; with nothing yet, neither happens
  cases hreply : (attempt p.clock p.state).reply with
  | nothing => simp [resume, next, hreply, Reply.failure?]
  | value a => rw [hreply] at hr; cases hr
  | raised raised =>
    cases raised with
    | failure f => simp [resume, next, hreply, Reply.failure?]
    | interrupt i => rw [hreply] at hr; cases hr

/-- Pauses come to the end of any budget. -/
theorem exists_isLeast_multiple (budget : Int) {pause : Int} (h : 1 ≤ pause) :
    ∃ n, IsLeast {i : ℕ | budget ≤ i * pause} n := by
  have hexists : ∃ i : ℕ, budget ≤ i * pause := by
    refine ⟨budget.toNat, ?_⟩
    have hgrow : (budget.toNat : Int) * 1 ≤ budget.toNat * pause :=
      Int.mul_le_mul_of_nonneg_left h (Int.natCast_nonneg _)
    omega
  classical
  exact ⟨_, Nat.isLeast_find hexists⟩

/-! ## 3. From the start up to the attempt with number `n` -/

variable {w attempt} {start : Int} {state : σ}

/-- The reply that the attempt with number `i` would come to. -/
def replyAt (w : Wait) (attempt : Int → σ → Attempt σ α) (start : Int) (state : σ) (i : ℕ) :
    Reply α :=
  (attempt (w.pending attempt start state i).clock (w.pending attempt start state i).state).reply

/-- The points a wait goes through, by induction on how many attempts it makes. -/
theorem poll_eq_resume_pending {n : ℕ}
    (hclock : ∀ i < n, (w.pending attempt start state i).clock < w.deadlineFrom start)
    (hreply : ∀ i < n, (w.replyAt attempt start state i).ending = none) :
    w.poll attempt start state =
      w.resume attempt (w.deadlineFrom start) (w.pending attempt start state n) := by
  induction n with
  | zero => exact w.poll_eq_resume attempt start state
  | succ n ih =>
    -- the first `n` attempts lead to the last point but one
    have hn : n < n + 1 := Nat.lt_succ_self n
    rw [ih (fun i hi => hclock i (hi.trans hn)) (fun i hi => hreply i (hi.trans hn))]
    exact w.resume_of_ending_eq_none attempt (hclock n hn) (hreply n hn)

theorem pending_clock_lt_succ (i : ℕ) :
    (w.pending attempt start state i).clock < (w.pending attempt start state (i + 1)).clock := by
  have hpause := w.pause_pos
  change _ < _ + _ + w.pause
  omega

theorem pending_clock_le_of_le {i k : ℕ} (h : i ≤ k) :
    (w.pending attempt start state i).clock ≤ (w.pending attempt start state k).clock := by
  induction h with
  | refl => exact le_rfl
  | step _ ih => exact ih.trans (pending_clock_lt_succ _).le

/-- Every pause takes the clock on, so that it comes to the deadline. -/
theorem exists_isLeast_deadline_le (w : Wait) (attempt : Int → σ → Attempt σ α) (start : Int)
    (state : σ) (deadline : Int) :
    ∃ n, IsLeast {i | deadline ≤ (w.pending attempt start state i).clock} n := by
  -- each point is one tick later than the one before, or more
  have hgrow : ∀ i : ℕ, start + i ≤ (w.pending attempt start state i).clock := by
    intro i
    induction i with
    | zero => simp [pending]
    | succ i ih =>
      have hlt : (w.pending attempt start state i).clock <
        (w.pending attempt start state (i + 1)).clock := pending_clock_lt_succ i
      push_cast
      omega
  -- so as many attempts as there are ticks up to the deadline are enough
  have hexists : ∃ i, deadline ≤ (w.pending attempt start state i).clock := by
    refine ⟨(deadline - start).toNat, ?_⟩
    have hreach := hgrow (deadline - start).toNat
    omega
  classical
  exact ⟨_, Nat.isLeast_find hexists⟩

/-- No attempt up to the one with number `k` begins late if that one does not. -/
theorem pending_clock_lt_of_le {deadline : Int} {i k : ℕ} (hik : i ≤ k)
    (hk : (w.pending attempt start state k).clock < deadline) :
    (w.pending attempt start state i).clock < deadline :=
  lt_of_le_of_lt (pending_clock_le_of_le hik) hk

/-- The first attempt that ends the wait does so if it begins before the deadline. -/
theorem poll_of_isLeast_ending {k : ℕ} {r : Except Raised α}
    (hk : IsLeast {i | (w.replyAt attempt start state i).ending ≠ none} k)
    (hclock : (w.pending attempt start state k).clock < w.deadlineFrom start)
    (hr : (w.replyAt attempt start state k).ending = some r) :
    w.poll attempt start state =
      let p := w.pending attempt start state k
      let a := attempt p.clock p.state
      { outcome := r, clock := p.clock + a.cost, notes := p.notes ++ a.notes, state := a.state } := by
  have hbefore : ∀ i < k, (w.replyAt attempt start state i).ending = none := by
    intro i hi
    by_contra hending
    exact absurd (hk.2 hending) (not_le.mpr hi)
  rw [poll_eq_resume_pending (fun i hi => pending_clock_lt_of_le hi.le hclock) hbefore]
  exact w.resume_of_ending attempt hclock hr

/-- Without such an attempt the wait ends where the clock has reached the deadline. -/
theorem poll_of_isLeast_deadline {n : ℕ}
    (hn : IsLeast {i | w.deadlineFrom start ≤ (w.pending attempt start state i).clock} n)
    (hreply : ∀ i < n, (w.replyAt attempt start state i).ending = none) :
    w.poll attempt start state =
      let p := w.pending attempt start state n
      { outcome := .error (.failure (w.expiry p.last)), clock := p.clock
        notes := p.notes ++ [w.expiryNote p.last], state := p.state } := by
  have hbefore : ∀ i < n, (w.pending attempt start state i).clock < w.deadlineFrom start := by
    intro i hi
    by_contra hclock
    exact absurd (hn.2 (not_lt.mp hclock)) (not_le.mpr hi)
  rw [poll_eq_resume_pending hbefore hreply]
  exact w.resume_of_deadline_le attempt hn.1

end Wait

/-! ## 4. Attempts known beforehand -/

namespace Outcome

/-- The same attempts; the state is the list of the clocks at which they began. -/
def clocked (outcome : ℕ → Outcome α) (now : Int) (begun : List Int) : Attempt (List Int) α :=
  { reply := (outcome begun.length).reply, cost := (outcome begun.length).cost
    state := begun ++ [now] }

/-- The clock at the attempt with number `i`. -/
def clockAt (outcome : ℕ → Outcome α) (w : Wait) (start : Int) : ℕ → Int
  | 0 => start
  | i + 1 => clockAt outcome w start i + (outcome i).cost + max 1 w.interval

/-- The failures among the first `n` attempts, in order. -/
def failures (outcome : ℕ → Outcome α) (n : ℕ) : List Failure :=
  (List.range n).filterMap fun i => (outcome i).reply.failure?

variable {outcome : ℕ → Outcome α} {w : Wait} {start : Int}

theorem failures_succ_getLast? (n : ℕ) :
    (failures outcome (n + 1)).getLast? =
      (outcome n).reply.failure?.or (failures outcome n).getLast? := by
  rw [failures, List.range_succ, List.filterMap_append, ← failures]
  cases h : (outcome n).reply.failure? with
  | none => simp [h]
  | some f => simp [h]

/-- Attempts that come to given outcomes one after the other, as many as the state counts. -/
structure Follows (outcome : ℕ → Outcome α) (attempt : Int → σ → Attempt σ α) (made : σ → ℕ) :
    Prop where
  reply : ∀ now s, (attempt now s).reply = (outcome (made s)).reply
  cost : ∀ now s, (attempt now s).cost = (outcome (made s)).cost
  state : ∀ now s, made (attempt now s).state = made s + 1

theorem follows_attempt : Follows outcome (attempt outcome) id :=
  ⟨fun _ _ => rfl, fun _ _ => rfl, fun _ _ => rfl⟩

theorem follows_clocked : Follows outcome (clocked outcome) List.length :=
  ⟨fun _ _ => rfl, fun _ _ => rfl, fun _ _ => List.length_append⟩

namespace Follows

variable {attempt : Int → σ → Attempt σ α} {made : σ → ℕ} {state : σ}

/-- The points a wait goes through depend on the outcomes alone. -/
theorem pending (h : Follows outcome attempt made) (hstate : made state = 0) (i : ℕ) :
    (w.pending attempt start state i).clock = clockAt outcome w start i ∧
      (w.pending attempt start state i).last = (failures outcome i).getLast? ∧
      made (w.pending attempt start state i).state = i := by
  induction i with
  | zero => exact ⟨rfl, rfl, hstate⟩
  | succ i ih =>
    rcases ih with ⟨hclock, hlast, hmade⟩
    rw [Wait.pending, Wait.next, failures_succ_getLast?, clockAt]
    refine ⟨?_, ?_, ?_⟩
    · rw [hclock, h.cost, hmade, Wait.pause]
    · rw [hlast, h.reply, hmade]
    · rw [h.state, hmade]

theorem replyAt (h : Follows outcome attempt made) (hstate : made state = 0) (i : ℕ) :
    w.replyAt attempt start state i = (outcome i).reply := by
  rw [Wait.replyAt, h.reply, (h.pending hstate i).2.2]

theorem poll_of_ending (h : Follows outcome attempt made) (hstate : made state = 0) {k : ℕ}
    (hk : IsLeast {i | (outcome i).reply.ending ≠ none} k)
    (hclock : clockAt outcome w start k < w.deadlineFrom start) :
    some (w.poll attempt start state).outcome = (outcome k).reply.ending ∧
      (w.poll attempt start state).clock = clockAt outcome w start k + (outcome k).cost ∧
      (w.poll attempt start state).state = (w.pending attempt start state (k + 1)).state := by
  have hreply : w.replyAt attempt start state = fun i => (outcome i).reply :=
    funext fun i => h.replyAt hstate i
  have hclockAt : (w.pending attempt start state k).clock = clockAt outcome w start k :=
    (h.pending hstate k).1
  have hmade : made (w.pending attempt start state k).state = k := (h.pending hstate k).2.2
  rcases Option.ne_none_iff_exists'.mp hk.1 with ⟨r, hr⟩
  rw [Wait.poll_of_isLeast_ending (by rwa [hreply]) (by rwa [hclockAt]) (by rwa [hreply])]
  refine ⟨hr.symm, ?_, rfl⟩
  change _ + _ = _
  rw [h.cost, hmade, hclockAt]

theorem poll_of_deadline (h : Follows outcome attempt made) (hstate : made state = 0) {n : ℕ}
    (hn : IsLeast {i | w.deadlineFrom start ≤ clockAt outcome w start i} n)
    (hending : ∀ i < n, (outcome i).reply.ending = none) :
    (w.poll attempt start state).outcome =
        .error (.failure (w.expiry (failures outcome n).getLast?)) ∧
      (w.poll attempt start state).clock = clockAt outcome w start n ∧
      (w.poll attempt start state).state = (w.pending attempt start state n).state := by
  have hclock : (fun i => (w.pending attempt start state i).clock) = clockAt outcome w start :=
    funext fun i => (h.pending hstate i).1
  rw [Wait.poll_of_isLeast_deadline (n := n) (by simpa only [← hclock] using hn)
    (fun i hi => by rw [h.replyAt hstate]; exact hending i hi)]
  refine ⟨?_, (h.pending hstate n).1, rfl⟩
  rw [← (h.pending hstate n).2.1]

end Follows

/-- Every attempt is made at the clock of its number. -/
theorem pending_clocked_state (i : ℕ) :
    (w.pending (clocked outcome) start [] i).state =
      (List.range i).map (clockAt outcome w start) := by
  induction i with
  | zero => rfl
  | succ i ih =>
    have hclock : (w.pending (clocked outcome) start [] i).clock = clockAt outcome w start i :=
      (follows_clocked.pending rfl i).1
    rw [List.range_succ, List.map_append, ← ih]
    change _ ++ [(w.pending (clocked outcome) start [] i).clock] = _
    rw [hclock, List.map_singleton]

theorem exists_isLeast_deadline_le (outcome : ℕ → Outcome α) (w : Wait) (start deadline : Int) :
    ∃ n, IsLeast {i | deadline ≤ clockAt outcome w start i} n := by
  have hclock : (fun i => (w.pending (attempt outcome) start 0 i).clock) =
      clockAt outcome w start :=
    funext fun i => (follows_attempt.pending rfl i).1
  rw [← hclock]
  exact Wait.exists_isLeast_deadline_le w (attempt outcome) start 0 deadline

theorem attempts_of_ending {k : ℕ} (hk : IsLeast {i | (outcome i).reply.ending ≠ none} k)
    (hclock : clockAt outcome w start k < w.deadlineFrom start) :
    (w.poll (attempt outcome) start 0).state = k + 1 ∧
      (w.poll (clocked outcome) start []).state =
        (List.range (k + 1)).map (clockAt outcome w start) := by
  rw [(follows_attempt.poll_of_ending rfl hk hclock).2.2,
    (follows_clocked.poll_of_ending List.length_nil hk hclock).2.2]
  exact ⟨(follows_attempt.pending rfl (k + 1)).2.2, pending_clocked_state (k + 1)⟩

theorem attempts_of_deadline {n : ℕ}
    (hn : IsLeast {i | w.deadlineFrom start ≤ clockAt outcome w start i} n)
    (hending : ∀ i < n, (outcome i).reply.ending = none) :
    (w.poll (attempt outcome) start 0).state = n ∧
      (w.poll (clocked outcome) start []).state =
        (List.range n).map (clockAt outcome w start) := by
  rw [(follows_attempt.poll_of_deadline rfl hn hending).2.2,
    (follows_clocked.poll_of_deadline List.length_nil hn hending).2.2]
  exact ⟨(follows_attempt.pending rfl n).2.2, pending_clocked_state n⟩

/-- If no attempt before the one with number `n` is the first to end the wait, none of them is. -/
theorem ending_eq_none_of_le {n : ℕ}
    (hn : ∀ k, IsLeast {i | (outcome i).reply.ending ≠ none} k → n ≤ k) :
    ∀ i < n, (outcome i).reply.ending = none := by
  intro i hi
  by_contra hending
  classical
  have hfirst := Nat.isLeast_find (p := fun j => (outcome j).reply.ending ≠ none) ⟨i, hending⟩
  have hle := hfirst.2 hending
  have hge := hn _ hfirst
  omega

theorem clockAt_lt_of_isLeast {n : ℕ} {deadline : Int}
    (hn : IsLeast {i | deadline ≤ clockAt outcome w start i} n) {i : ℕ} (hi : i < n) :
    clockAt outcome w start i < deadline := by
  by_contra hlate
  exact absurd (hn.2 (not_lt.mp hlate)) (not_le.mpr hi)

/-- However the wait ends, the attempts made are the first ones, and none of them is late. -/
theorem exists_attempts_le {n : ℕ}
    (hn : IsLeast {i | w.deadlineFrom start ≤ clockAt outcome w start i} n) :
    ∃ m ≤ n, (w.poll (attempt outcome) start 0).state = m ∧
      (w.poll (clocked outcome) start []).state =
        (List.range m).map (clockAt outcome w start) := by
  by_cases hk : ∃ k < n, IsLeast {i | (outcome i).reply.ending ≠ none} k
  · rcases hk with ⟨k, hkn, hk⟩
    exact ⟨k + 1, hkn, attempts_of_ending hk (clockAt_lt_of_isLeast hn hkn)⟩
  · have hlate : ∀ k, IsLeast {i | (outcome i).reply.ending ≠ none} k → n ≤ k := by
      intro k hfirst
      by_contra hkn
      exact hk ⟨k, not_le.mp hkn, hfirst⟩
    exact ⟨n, le_rfl, attempts_of_deadline hn (ending_eq_none_of_le hlate)⟩

/-- **A wait ends with the first attempt that ends it, or at its deadline.**  Let `n` be the first
number whose clock has reached the deadline and `k` the first whose attempt comes to a value or is
interrupted.  If `k` comes before `n` the wait makes `k + 1` attempts and ends with the last one,
without a pause.  Otherwise it makes `n` attempts, and ends with the last failure among them or with
a timeout.  No attempt begins at the deadline or later, and none at all without a positive
timeout. -/
theorem poll_ends_first (outcome : ℕ → Outcome α) (w : Wait) (start : Int) :
    let deadline := start + max 0 w.timeout
    let clock := clockAt outcome w start
    let ended := w.poll (attempt outcome) start 0
    let begun := (w.poll (clocked outcome) start []).state
    ∃ n, IsLeast {i | deadline ≤ clock i} n ∧
      (∀ k < n, IsLeast {i | (outcome i).reply.ending ≠ none} k →
        ended.state = k + 1 ∧ begun = (List.range (k + 1)).map clock ∧
          (outcome k).reply.ending = some ended.outcome ∧
          ended.clock = clock k + (outcome k).cost) ∧
      ((∀ k, IsLeast {i | (outcome i).reply.ending ≠ none} k → n ≤ k) →
        ended.state = n ∧ begun = (List.range n).map clock ∧
          ended.outcome = .error (.failure ((failures outcome n).getLast?.getD
            (.waitTimeout w.label w.timeout w.condition))) ∧
          ended.clock = clock n) ∧
      (∀ c ∈ begun, c < deadline) ∧
      (w.timeout ≤ 0 → ended.state = 0 ∧ begun = []) := by
  intro deadline clock ended begun
  rcases exists_isLeast_deadline_le outcome w start deadline with ⟨n, hn⟩
  rcases exists_attempts_le hn with ⟨m, hmn, hstate, hbegun⟩
  refine ⟨n, hn, ?_, ?_, ?_, ?_⟩
  · intro k hkn hk
    have hclock : clock k < deadline := clockAt_lt_of_isLeast hn hkn
    have hpoll := follows_attempt.poll_of_ending rfl hk hclock
    have hattempts := attempts_of_ending hk hclock
    exact ⟨hattempts.1, hattempts.2, hpoll.1.symm, hpoll.2.1⟩
  · intro hlate
    have hending := ending_eq_none_of_le hlate
    have hpoll := follows_attempt.poll_of_deadline rfl hn hending
    have hattempts := attempts_of_deadline hn hending
    exact ⟨hattempts.1, hattempts.2, hpoll.1, hpoll.2.1⟩
  · intro c hc
    have hc' : c ∈ (List.range m).map clock := by rwa [← hbegun]
    rcases List.mem_map.mp hc' with ⟨i, hi, rfl⟩
    exact clockAt_lt_of_isLeast hn (lt_of_lt_of_le (List.mem_range.mp hi) hmn)
  · intro htimeout
    -- the deadline has come before the first attempt
    have hzero : n ≤ 0 := hn.2 (show start + max 0 w.timeout ≤ start by omega)
    have hm : m = 0 := by omega
    subst hm
    exact ⟨hstate, hbegun⟩

end Outcome

end UiTree
