import UiTree.Wait.Basic

/-!
# Polling — one wait on its own

Attempts are made one after the other while the clock is below the deadline.  Each may take time,
and a pause follows each that did not end the wait.
-/

namespace UiTree

/-- What one attempt did: its reply, the time it took, the notes it made and the state it left. -/
structure Attempt (σ α : Type) where
  reply : Reply α
  cost : Nat := 0
  notes : List Record := []
  state : σ

/-- How a wait ended. -/
structure Polled (σ α : Type) where
  outcome : Except Raised α
  clock : Int
  notes : List Record
  state : σ

namespace Wait

variable {σ α : Type}

/-- Polls from the clock `now` on, after `last` was the last failure. -/
def pollFrom (w : Wait) (attempt : Int → σ → Attempt σ α) (deadline now : Int)
    (last : Option Failure) (state : σ) : Polled σ α :=
  if now < deadline then
    let a := attempt now state
    let clock := now + a.cost
    match a.reply with
    | .value v => { outcome := .ok v, clock, notes := a.notes, state := a.state }
    | .raised (.interrupt i) =>
      { outcome := .error (.interrupt i), clock, notes := a.notes, state := a.state }
    | .raised (.failure f) =>
      let r := w.pollFrom attempt deadline (clock + w.pause) (some f) a.state
      { r with notes := a.notes ++ w.retryNotes "" last f ++ r.notes }
    | .nothing =>
      let r := w.pollFrom attempt deadline (clock + w.pause) last a.state
      { r with notes := a.notes ++ r.notes }
  else
    { outcome := .error (w.expiry last), clock := now, notes := [w.expiryNote last], state }
termination_by (deadline - now).toNat
decreasing_by
  all_goals
    have := w.pause_pos
    omega

/-- Polls from a start clock on. -/
def poll (w : Wait) (attempt : Int → σ → Attempt σ α) (start : Int) (state : σ) : Polled σ α :=
  w.pollFrom attempt (w.deadlineFrom start) start none state

end Wait

/-! ## Attempts known beforehand -/

/-- One attempt of a list made beforehand: the time it takes and its reply. -/
structure Outcome (α : Type) where
  cost : Nat := 0
  reply : Reply α

namespace Outcome

variable {α β : Type}

/-- The outcome of each attempt, the last one repeated. -/
def ofList : List (Outcome α) → Nat → Outcome α
  | [], _ => { reply := .nothing }
  | [o], _ => o
  | o :: _ :: _, 0 => o
  | _ :: o :: os, i + 1 => ofList (o :: os) i

/-- The outcome when the attempt asks a predicate. -/
def truth (isTrue : α → Bool) (done : β) (o : Outcome α) : Outcome β :=
  { cost := o.cost, reply := o.reply.truth isTrue done }

/-- Attempts with outcomes by their number; the state is the number of attempts made. -/
def attempt (outcome : Nat → Outcome α) (_ : Int) (made : Nat) : Attempt Nat α :=
  { reply := (outcome made).reply, cost := (outcome made).cost, state := made + 1 }

end Outcome

end UiTree
