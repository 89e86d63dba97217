import Mathlib.Algebra.Order.Ring.Int
import UiTree.Proofs.Page.Effect
import UiTree.Proofs.Wait.Polling

/-!
# Glances — a wait that reads the tree once at every tick

A glance reads the tree once.  What it comes to is settled by the frame that answers, and it leaves
nothing behind but the reading and notes.  A wait glances at every tick of its interval, and ends
at the first glance that ends it or at its deadline.
-/

namespace UiTree.Session

variable {α : Type}

/-! ## 1. Ticks -/

/-- The clocks of the first `n` looks, one at every interval from now on. -/
def ticks (s : Session) (interval : Int) (n : ℕ) : List Int :=
  (List.range n).map fun i : ℕ => s.clock + i * interval

/-- The number of the frame that answers the look with number `i`. -/
def answering (s : Session) (interval : Int) (i : ℕ) : ℕ :=
  s.frameAt (s.reads + i + 1) (s.clock + i * interval)

theorem ticks_succ (s : Session) (interval : Int) (n : ℕ) :
    s.ticks interval (n + 1) = s.ticks interval n ++ [s.clock + n * interval] := by
  rw [ticks, List.range_succ, List.map_append, ← ticks, List.map_singleton]

theorem length_ticks (s : Session) (interval : Int) (n : ℕ) : (s.ticks interval n).length = n := by
  rw [ticks, List.length_map, List.length_range]

/-! ## 2. Readings of a source that may be fixed -/

/-- The number of the frame that answers when the tree is read next; a fixed source has one. -/
def answerer (s : Session) : ℕ :=
  if s.live then s.upcoming else 0

/-- The session after the tree was read once more. -/
def answered (s : Session) : Session :=
  if s.live then s.asked else s

/-- What reading the tree raises when a frame answers. -/
def sourceFailure? (s : Session) (i : ℕ) : Option Raised :=
  if s.live then (s.frame i).failing else none

theorem exec_readSource_eq_barring (s : Session) :
    s.exec readSource =
      s.answered.barring (s.sourceFailure? s.answerer) (.ok s.answerer, s.answered) := by
  unfold answerer answered sourceFailure?
  cases hlive : s.live with
  | true =>
    simp only [if_true]
    rw [exec_readSource hlive]
    cases (s.frame s.upcoming).failing with
    | some r => rfl
    | none => rfl
  | false =>
    rw [readSource, exec_get_bind, hlive]
    rfl

/-- The number of the frame that answers the reading with number `i`, one at every interval. -/
def answererAt (s : Session) (interval : Int) (i : ℕ) : ℕ :=
  if s.live then s.answering interval i else 0

/-- After the first `n` readings, at a clock. -/
def visited (s : Session) (interval : Int) (n : ℕ) (clock : Int) : Session :=
  { s with clock, readings := s.readings ++ if s.live then s.ticks interval n else [] }

theorem visited_zero (s : Session) (interval : Int) : s = s.visited interval 0 s.clock := by
  rw [visited, ticks, List.range_zero, List.map_nil, ite_self, List.append_nil]

theorem answerer_visited (s : Session) (interval : Int) (n : ℕ) :
    (s.visited interval n (s.clock + n * interval)).answerer = s.answererAt interval n := by
  unfold answerer answererAt visited
  cases hlive : s.live with
  | true =>
    simp only [if_true, upcoming, reads, List.length_append, length_ticks]
    rfl
  | false => rfl

theorem answered_visited (s : Session) (interval : Int) (n : ℕ) :
    (s.visited interval n (s.clock + n * interval)).answered =
      s.visited interval (n + 1) (s.clock + n * interval) := by
  unfold answered visited
  cases hlive : s.live with
  | true => simp only [if_true, asked, ticks_succ, List.append_assoc]
  | false => rfl

/-! ## 3. A wait that glances -/

/-- What the body comes to is settled by the frame that answers, and it leaves nothing but the
reading and notes, in every session with these frames. -/
def Glances (s : Session) (body : Effect (Option α)) (result : ℕ → Except Raised (Option α)) :
    Prop :=
  ∀ u : Session, u.frames = s.frames → u.live = s.live →
    ∃ notes, u.exec body = (result u.answerer, { u.answered with notes := u.notes ++ notes })

/-- What the glances from now on come to. -/
def glances (s : Session) (interval : Int) (result : ℕ → Except Raised (Option α)) (i : ℕ) :
    Outcome α :=
  { reply := .ofResult (result (s.answererAt interval i)) }

variable {s : Session} {body : Effect (Option α)} {result : ℕ → Except Raised (Option α)}
variable (hbody : s.Glances body result) (w : Wait)
include hbody

theorem exists_attempt_visited (interval : Int) (i : ℕ) (clock : Int) :
    ∃ notes, attempt body (s.clock + i * interval) (s.visited interval i clock) =
      { reply := (s.glances interval result i).reply, notes
        state := s.visited interval (i + 1) (s.clock + i * interval) } := by
  -- the attempt is made at the clock of its tick, wherever the one before it ended
  let t : Session := { s.visited interval i (s.clock + i * interval) with notes := [] }
  have hanswerer : t.answerer = s.answererAt interval i := s.answerer_visited interval i
  have hanswered : { t.answered with notes := s.notes } =
      s.visited interval (i + 1) (s.clock + i * interval) := by
    rw [← answered_visited]
    cases hlive : s.live <;> simp [answered, visited, asked, t, hlive]
  rcases hbody t rfl rfl with ⟨notes, hexec⟩
  rw [hanswerer] at hexec
  refine ⟨[] ++ notes, ?_⟩
  rw [← hanswered]
  exact attempt_of_exec hexec

/-- Where a wait stands after the first glances, if none of them ended it. -/
theorem pending_visited (i : ℕ) :
    let p := w.pending (attempt body) s.clock s i
    p.clock = s.clock + i * w.pause ∧
      p.last = (Outcome.failures (s.glances w.pause result) i).getLast? ∧
      ∃ clock, p.state = s.visited w.pause i clock := by
  induction i with
  | zero =>
    refine ⟨?_, rfl, s.clock, ?_⟩
    · simp [Wait.pending]
    · exact s.visited_zero w.pause
  | succ i ih =>
    rcases ih with ⟨hclock, hlast, clock, hstate⟩
    rcases exists_attempt_visited hbody w.pause i clock with ⟨notes, hattempt⟩
    rw [Wait.pending, Wait.next, hclock, hstate, hattempt, hlast, Outcome.failures_succ_getLast?]
    -- a glance takes no time, so the clock goes on by the pause alone
    refine ⟨?_, rfl, _, rfl⟩
    push_cast
    rw [add_mul, one_mul, add_zero, add_assoc]

theorem replyAt_visited (i : ℕ) :
    w.replyAt (attempt body) s.clock s i = (s.glances w.pause result i).reply := by
  rcases pending_visited hbody w i with ⟨hclock, -, clock, hstate⟩
  rcases exists_attempt_visited hbody w.pause i clock with ⟨notes, hattempt⟩
  rw [Wait.replyAt, hclock, hstate, hattempt]

omit hbody in
/-- The ticks come to the deadline. -/
theorem exists_isLeast_late (s : Session) (budget : Int) {interval : Int} (h : 1 ≤ interval) :
    ∃ n, IsLeast {i : ℕ | s.clock + budget ≤ s.clock + i * interval} n := by
  simp only [add_le_add_iff_left]
  exact Wait.exists_isLeast_multiple budget h

/-- The first glance that ends the wait does so if it comes before the deadline. -/
theorem exec_waitFor_of_ending {k : ℕ} {r : Except Raised α}
    (hk : IsLeast {i | (s.glances w.pause result i).reply.ending ≠ none} k)
    (hr : (s.glances w.pause result k).reply.ending = some r)
    (hearly : s.clock + k * w.pause < s.clock + w.budget) :
    ∃ notes, s.exec (waitFor w body) =
      (r, { s.visited w.pause (k + 1) (s.clock + k * w.pause) with
        notes := s.notes ++ notes }) := by
  rcases pending_visited hbody w k with ⟨hclock, -, clock, hstate⟩
  rcases exists_attempt_visited hbody w.pause k clock with ⟨notes, hattempt⟩
  have hreply : w.replyAt (attempt body) s.clock s =
      fun i => (s.glances w.pause result i).reply :=
    funext fun i => replyAt_visited hbody w i
  have hpoll := Wait.poll_of_isLeast_ending (by rwa [hreply]) (by rwa [hclock])
    (by rw [hreply]; exact hr)
  simp only [hclock, hstate, hattempt, Nat.cast_zero, add_zero] at hpoll
  rw [exec_waitFor, hpoll]
  exact ⟨_, rfl⟩

/-- If no glance before the deadline ends it, the wait ends with the last failure. -/
theorem exec_waitFor_of_deadline {n : ℕ}
    (hn : IsLeast {i : ℕ | s.clock + w.budget ≤ s.clock + i * w.pause} n)
    (hnone : ∀ i < n, (s.glances w.pause result i).reply.ending = none) :
    ∃ notes, s.exec (waitFor w body) =
      (.error (.failure (w.expiry (Outcome.failures (s.glances w.pause result) n).getLast?)),
        { s.visited w.pause n (s.clock + n * w.pause) with notes := s.notes ++ notes }) := by
  rcases pending_visited hbody w n with ⟨hclock, hlast, clock, hstate⟩
  have hlate : IsLeast
      {i | w.deadlineFrom s.clock ≤ (w.pending (attempt body) s.clock s i).clock} n := by
    simp only [(pending_visited hbody w _).1]
    exact hn
  have hreply : ∀ i < n, (w.replyAt (attempt body) s.clock s i).ending = none := by
    intro i hi
    rw [replyAt_visited hbody w]
    exact hnone i hi
  have hpoll := Wait.poll_of_isLeast_deadline hlate hreply
  simp only [hclock, hlast, hstate] at hpoll
  rw [exec_waitFor, hpoll]
  exact ⟨_, rfl⟩

end UiTree.Session
