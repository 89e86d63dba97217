import UiTree.Timing
import UiTree.Wait.Polling

/-!
# Concurrent waits — several waits that take turns

A wait gives up its turn only to sleep: in a pause, or inside an attempt that sleeps first.  The
turn goes to the wait that is due first; of several to the one that fell asleep first.  An attempt
that takes time holds up everything else.
-/

namespace UiTree

variable {α β : Type}

/-- A wait among others. -/
structure Waiter (α : Type) where
  wait : Wait
  outcome : Nat → Outcome α
  /-- How long an attempt sleeps before it does anything; not at all unless positive. -/
  doze : Nat → Int := fun _ => 0

/-- The wait for a predicate to hold. -/
def Waiter.truth (isTrue : α → Bool) (done : β) (w : Waiter α) : Waiter β :=
  { wait := w.wait, outcome := fun i => (w.outcome i).truth isTrue done, doze := w.doze }

/-- A wait that is asleep. -/
structure Sleeper (α : Type) where
  index : Nat
  waiter : Waiter α
  /-- When it first ran. -/
  since : Int
  /-- Attempts made. -/
  calls : Nat := 0
  last : Option Failure := none
  /-- Asleep inside an attempt, and not between two. -/
  inside : Bool := false
  due : Int

/-- How a wait among others ended. -/
structure Ended (α : Type) where
  index : Nat
  since : Int
  outcome : Except Raised α
  calls : Nat
  clock : Int

/-- What a wait did in its turn. -/
structure Turn (α : Type) where
  index : Nat
  next : Sleeper α ⊕ Ended α
  clock : Int
  notes : List Record := []
  /-- When an attempt was made. -/
  begun : Option Int := none
  /-- When an attempt did its work. -/
  worked : Option Int := none

/-- A wait about to take its first turn. -/
def Waiter.enter (w : Waiter α) (index : Nat) (clock : Int) : Sleeper α :=
  { index, waiter := w, since := clock, due := clock }

namespace Sleeper

/-- The deadline is fixed when the wait first runs. -/
def deadline (s : Sleeper α) : Int := s.waiter.wait.deadlineFrom s.since

/-- Bounds the turns a wait can still take. -/
def weight (s : Sleeper α) : Nat :=
  2 * (s.deadline - s.due).toNat + if s.inside then 2 else 1

theorem weight_pos (s : Sleeper α) : 0 < s.weight := by
  unfold weight; split <;> omega

def mark : String := "[async] "

/-- Asleep inside the next attempt. -/
def call (s : Sleeper α) (now : Int) : Sleeper α :=
  { s with calls := s.calls + 1, inside := true, due := sleepFrom now (s.waiter.doze s.calls) }

/-- The work of an attempt that was begun before, up to its end. -/
def settle (s : Sleeper α) (now : Int) : Turn α :=
  let o := s.waiter.outcome (s.calls - 1)
  let clock := now + o.cost
  let pausing : Sleeper α := { s with inside := false, due := clock + s.waiter.wait.pause }
  let ended (outcome : Except Raised α) : Ended α :=
    { index := s.index, since := s.since, outcome, calls := s.calls, clock }
  let turn (next : Sleeper α ⊕ Ended α) : Turn α :=
    { index := s.index, next, clock, worked := some now }
  match o.reply with
  | .value v => turn (.inr (ended (.ok v)))
  | .raised (.interrupt i) => turn (.inr (ended (.error (.interrupt i))))
  | .raised (.failure f) =>
    { turn (.inl { pausing with last := some f }) with
      notes := s.waiter.wait.retryNotes mark s.last f }
  | .nothing => turn (.inl pausing)

/-- The next attempt, if the deadline has not passed. -/
def begin (s : Sleeper α) (now : Int) : Turn α :=
  if now < s.deadline then
    let turn :=
      if 0 < s.waiter.doze s.calls then
        { index := s.index, next := .inl (s.call now), clock := now }
      else (s.call now).settle now
    { turn with begun := some now }
  else
    { index := s.index
      next := .inr
        { index := s.index, since := s.since, outcome := .error (s.waiter.wait.expiry s.last)
          calls := s.calls, clock := now }
      clock := now, notes := [s.waiter.wait.expiryNote s.last] }

def resume (s : Sleeper α) (now : Int) : Turn α :=
  if s.inside then s.settle now else s.begin now

theorem settle_next {s t : Sleeper α} {now : Int} (h : (s.settle now).next = .inl t) :
    t.deadline = s.deadline ∧ t.inside = false ∧ now < t.due := by
  have := s.waiter.wait.pause_pos
  unfold settle at h
  simp only at h
  split at h <;> simp only [Sum.inl.injEq, reduceCtorEq] at h <;> subst h <;>
    exact ⟨rfl, rfl, by simp only; omega⟩

theorem begin_next {s t : Sleeper α} {now : Int} (h : (s.begin now).next = .inl t) :
    t.deadline = s.deadline ∧ now < s.deadline ∧ now < t.due := by
  unfold begin at h
  split at h
  · rename_i hlt
    simp only at h
    split at h
    · simp only [Sum.inl.injEq] at h
      subst h
      exact ⟨rfl, hlt, by simp only [call, sleepFrom]; omega⟩
    · obtain ⟨h1, -, h2⟩ := settle_next h
      exact ⟨h1, hlt, h2⟩
  · simp at h

theorem weight_resume_lt {s t : Sleeper α} {now : Int} (hnow : s.due ≤ now)
    (h : (s.resume now).next = .inl t) : t.weight < s.weight := by
  unfold resume at h
  unfold weight
  cases hs : s.inside with
  | true =>
    simp only [hs, if_true] at h
    obtain ⟨h1, h2, h3⟩ := settle_next h
    simp only [h1, h2, Bool.false_eq_true, if_false, if_true]
    omega
  | false =>
    simp only [hs, Bool.false_eq_true, if_false] at h
    obtain ⟨h1, h2, h3⟩ := begin_next h
    simp only [h1, Bool.false_eq_true, if_false]
    split <;> omega

end Sleeper

/-- The wait that fell asleep in the turn, if it did. -/
def Turn.asleep (t : Turn α) : List (Sleeper α) :=
  match t.next with
  | .inl s => [s]
  | .inr _ => []

namespace Concurrent

/-! ## Whose turn it is -/

/-- The sleeper that is due first, the earliest in the list of several, and the others. -/
def pick : List (Sleeper α) → Option (Sleeper α × List (Sleeper α))
  | [] => none
  | s :: rest =>
    match pick rest with
    | none => some (s, [])
    | some (m, others) => if s.due ≤ m.due then some (s, rest) else some (m, s :: others)

def weightAll : List (Sleeper α) → Nat
  | [] => 0
  | s :: ss => s.weight + weightAll ss

theorem weightAll_pick {sleepers others : List (Sleeper α)} {m : Sleeper α}
    (h : pick sleepers = some (m, others)) : weightAll sleepers = m.weight + weightAll others := by
  induction sleepers generalizing m others with
  | nil => simp [pick] at h
  | cons s rest ih =>
    unfold pick at h
    cases hp : pick rest with
    | none =>
      simp only [hp, Option.some.injEq, Prod.mk.injEq] at h
      obtain ⟨rfl, rfl⟩ := h
      cases rest with
      | nil => simp [weightAll]
      | cons r rest =>
        unfold pick at hp
        cases h' : pick rest <;> simp only [h', reduceCtorEq] at hp
        split at hp <;> simp at hp
    | some p =>
      obtain ⟨m', others'⟩ := p
      simp only [hp] at h
      split at h <;> simp only [Option.some.injEq, Prod.mk.injEq] at h
        <;> obtain ⟨rfl, rfl⟩ := h
      · simp [weightAll]
      · have := ih hp
        simp only [weightAll]
        omega

theorem weightAll_append (ss ts : List (Sleeper α)) :
    weightAll (ss ++ ts) = weightAll ss + weightAll ts := by
  induction ss with
  | nil => simp [weightAll]
  | cons s ss ih =>
    rw [List.cons_append, weightAll, weightAll, ih]
    omega

theorem weightAll_asleep_lt {s : Sleeper α} {now : Int} (hnow : s.due ≤ now) :
    weightAll (s.resume now).asleep < s.weight := by
  unfold Turn.asleep
  split
  · rename_i t ht
    simpa [weightAll] using Sleeper.weight_resume_lt hnow ht
  · exact s.weight_pos

/-! ## The run -/

/-- What several waits did so far, turn by turn. -/
structure Log (α : Type) where
  turns : List (Turn α) := []

namespace Log

def add (log : Log α) (t : Turn α) : Log α := { turns := log.turns ++ [t] }

/-- What one of the waits did. -/
def only (log : Log α) (index : Nat) : Log α :=
  { turns := log.turns.filter (·.index == index) }

def ended (log : Log α) : List (Ended α) := log.turns.filterMap (·.next.getRight?)

def notes (log : Log α) : List Record := log.turns.flatMap (·.notes)

/-- The clocks at which attempts were made. -/
def begun (log : Log α) : List Int := log.turns.filterMap (·.begun)

/-- The clocks at which attempts did their work. -/
def worked (log : Log α) : List Int := log.turns.filterMap (·.worked)

/-- The clocks at which attempts did their work, with the index of the wait. -/
def attempts (log : Log α) : List (Nat × Int) :=
  log.turns.filterMap fun t => t.worked.map (t.index, ·)

end Log

/-- Takes turns until every wait has ended; gives the last clock. -/
def run (clock : Int) (sleepers : List (Sleeper α)) (log : Log α) : Int × Log α :=
  match _h : pick sleepers with
  | none => (clock, log)
  | some (s, others) =>
    let t := s.resume (max clock s.due)
    run t.clock (others ++ t.asleep) (log.add t)
termination_by weightAll sleepers
decreasing_by
  have h1 := weightAll_pick _h
  have h2 := weightAll_asleep_lt (by omega : s.due ≤ max clock s.due)
  rw [weightAll_append]
  omega

/-- The first turns of all waits, in order, after those that are asleep already. -/
def start (clock : Int) (index : Nat) (sleepers : List (Sleeper α)) (log : Log α) :
    List (Waiter α) → Int × List (Sleeper α) × Log α
  | [] => (clock, sleepers, log)
  | w :: ws =>
    let t := (w.enter index clock).begin clock
    start t.clock (index + 1) (sleepers ++ t.asleep) (log.add t) ws

/-- Starts all waits at a clock and lets them take turns to their ends. -/
def runAll (clock : Int) (waiters : List (Waiter α)) : Int × Log α :=
  let (clock, sleepers, log) := start clock 0 [] {} waiters
  run clock sleepers log

end Concurrent

end UiTree
