import UiTree.Proofs.Page.Effect

/-!
# Keeping — what looking and waiting leave as it is

A look asks the source and makes notes; a wait looks again and again, and takes time.  Neither
changes a view of the session in which readings, clock and notes do not count.
-/

namespace UiTree

variable {σ α β : Type}

/-- A view of the state that every attempt keeps is kept by the wait. -/
theorem Wait.view_pollFrom (w : Wait) {attempt : Int → σ → Attempt σ α} {view : σ → β}
    (h : ∀ now state, view (attempt now state).state = view state) (deadline now : Int)
    (last : Option Failure) (state : σ) :
    view (w.pollFrom attempt deadline now last state).state = view state := by
  fun_induction Wait.pollFrom w attempt deadline now last state with
  | case1 => exact h _ _
  | case2 => exact h _ _
  | case3 _ _ _ _ a _ _ _ _ ih => exact ih.trans (h _ _)
  | case4 _ _ _ _ a _ _ _ ih => exact ih.trans (h _ _)
  | case5 => rfl

namespace Session

variable {view : Session → β}

theorem Keeps.tryCatch {x : Effect α} {handle : Raised → Effect α} (hx : Keeps view x)
    (hhandle : ∀ r, Keeps view (handle r)) : Keeps view (tryCatch x handle) := by
  intro s
  have hstep := hx s
  rw [exec_tryCatch]
  rcases hexec : s.exec x with ⟨o, t⟩
  rw [hexec] at hstep
  cases o with
  | ok a => exact hstep
  | error r => exact (hhandle r t).trans hstep

theorem Keeps.map {γ : Type} {x : Effect α} (hx : Keeps view x) (f : α → γ) :
    Keeps view (f <$> x) := by
  intro s
  rw [exec_map]
  exact hx s

/-- A wait keeps what its body keeps, as far as clock and notes do not count. -/
theorem keeps_waitFor (hview : ∀ s clock notes, view { s with clock, notes } = view s) (w : Wait)
    {body : Effect (Option α)} (h : Keeps view body) : Keeps view (waitFor w body) := by
  have hattempt : ∀ now s, view (attempt body now s).state = view s := by
    intro now s
    -- the attempt begins at its clock without notes, and those of the session are put back
    have hbegin : view { s with clock := now, notes := [] } = view s := hview s now []
    have hbody := h { s with clock := now, notes := [] }
    rcases hexec : { s with clock := now, notes := [] }.exec body with ⟨result, after⟩
    rw [hexec] at hbody
    rw [attempt_of_exec hexec]
    exact (hview after after.clock s.notes).trans (hbody.trans hbegin)
  intro s
  rw [exec_waitFor]
  exact (hview _ _ _).trans (w.view_pollFrom hattempt _ _ _ _)

section

variable (hview : ∀ s readings clock notes, view { s with readings, clock, notes } = view s)
include hview

theorem keeps_readSource : Keeps view readSource := by
  intro s
  cases hlive : s.live with
  | false =>
    rw [readSource, exec_get_bind, hlive]
    rfl
  | true =>
    have hasked : view s.asked = view s := hview s _ s.clock s.notes
    rw [exec_readSource hlive]
    cases (s.frame s.upcoming).failing with
    | some r => exact hasked
    | none => exact hasked

theorem keeps_search (l : Locator) : Keeps view l.search := by
  refine (keeps_ofParsed _).bind fun selector => (keeps_readSource hview).bind fun i => ?_
  refine keeps_get_bind fun s => ?_
  exact ((keeps_check i _).bind fun _ => keeps_pure _) s

theorem keeps_tryResolve (l : Locator) : Keeps view l.tryResolve := by
  have hresolve : Keeps view l.resolve := by
    refine (keeps_search hview l).bind fun targets => ?_
    cases targets with
    | nil => exact keeps_throw _
    | cons t ts => exact keeps_pure t
  refine (hresolve.map some).tryCatch fun r => ?_
  cases r with
  | interrupt i => exact keeps_throw _
  | failure f => cases f <;> first | exact keeps_pure _ | exact keeps_throw _

theorem keeps_waitForElementBy (l : Locator) {test : Target → Effect Bool}
    (htest : ∀ t, Keeps view (test t)) (description : Option String) :
    Keeps view (l.waitForElementBy test description) := by
  refine (keeps_ofParsed _).bind fun _ => keeps_waitFor (fun s => hview s s.readings) _ ?_
  refine (keeps_tryResolve hview l).bind fun found => ?_
  cases found with
  | none => exact keeps_pure none
  | some t => exact (htest t).bind fun _ => keeps_pure _

theorem keeps_waitForElement (l : Locator) (c : Condition) (description : Option String) :
    Keeps view (l.waitForElement c description) :=
  keeps_waitForElementBy hview l (fun t => (keeps_look t _).bind fun _ => keeps_pure _) description

end

end Session

end UiTree
