import UiTree.Proofs.Page.Effect

/-!
# The dispatcher — what an action leaves as it is

An action changes elements, is recorded and noted, and changes nothing else of the session: it does
not ask the source, and takes no time.
-/

namespace UiTree.Session

variable {α β : Type} {view : Session → β}

theorem keeps_checkFailing (a : Action) : Keeps view (checkFailing a) := by
  refine keeps_get_bind fun s => ?_
  cases s.failing.lookup a with
  | none => rfl
  | some r => rfl

theorem keeps_requireEnabled (a : Action) (t : Target) : Keeps view (requireEnabled a t) := by
  refine (keeps_look t _).bind fun x => ?_
  cases x.enabled with
  | true => exact keeps_pure _
  | false => exact keeps_throw _

section

/-! ## Views without the trees and the history -/

variable (hview : ∀ s frames history, view { s with frames, history } = view s)
include hview

theorem keeps_record (a : Action) (t : Target) (x : Argument) : Keeps view (record a t x) :=
  keeps_modify fun s => hview s s.frames _

theorem keeps_change (t : Target) (f : Attributes → Attributes) : Keeps view (change t f) :=
  keeps_modify fun s => hview s _ s.history

theorem keeps_moveFocus (t : Target) : Keeps view (moveFocus t) := by
  refine keeps_get_bind fun s => ?_
  cases hframe : s.dispatcherFrame with
  | none => rfl
  | some i =>
    simp only []
    rw [exec_set_bind]
    exact (keeps_check _ _ _).trans (hview s _ s.history)

theorem keeps_focus (t : Target) : Keeps view (focus t) :=
  (keeps_checkFailing _).bind fun _ =>
    (keeps_moveFocus hview t).bind fun _ => keeps_record hview _ _ _

theorem keeps_perform (a : Action) (t : Target) (text : String) :
    Keeps view (perform a t text) := by
  have hrecord := fun a x => keeps_record hview a t x
  have hready : ∀ a, Keeps view (requireEnabled a t) := fun a => keeps_requireEnabled a t
  cases a with
  | click =>
    refine Keeps.bind ?_ fun _ => keeps_pure _
    exact (keeps_checkFailing _).bind fun _ => (hready _).bind fun _ => hrecord _ _
  | doubleClick =>
    refine Keeps.bind ?_ fun _ => keeps_pure _
    exact (keeps_checkFailing _).bind fun _ => (hready _).bind fun _ => hrecord _ _
  | type =>
    refine Keeps.bind ?_ fun _ => keeps_pure _
    refine (keeps_checkFailing _).bind fun _ => (hready _).bind fun _ => ?_
    exact (keeps_look t _).bind fun x => (keeps_change hview t _).bind fun _ => hrecord _ _
  | clear =>
    refine Keeps.bind ?_ fun _ => keeps_pure _
    refine (keeps_checkFailing _).bind fun _ => (hready _).bind fun _ => ?_
    exact (keeps_change hview t _).bind fun _ => hrecord _ _
  | focus =>
    exact (keeps_focus hview t).bind fun _ => keeps_pure _
  | pressKey =>
    refine Keeps.bind ?_ fun _ => keeps_pure _
    refine (keeps_checkFailing _).bind fun _ => (keeps_ofParsed _).bind fun chord => ?_
    exact (keeps_focus hview t).bind fun _ => (hrecord _ _).bind fun _ => keeps_pure _

end

/-! ## Dispatch -/

/-- Dispatch changes what is raised, and adds a note. -/
theorem exec_dispatch (s : Session) (label : String) (body : Effect α) :
    s.exec (dispatch label body) =
      let took := (Stopwatch.start s.clock).elapsed (s.exec body).2.clock
      ((s.exec body).1.mapError (normalize label), { (s.exec body).2 with
        notes := (s.exec body).2.notes ++ [Timing.note .debug label unlabelled took] }) := by
  have hstep : s.exec (dispatch label body) = dispatch label body s := rfl
  have hrun : body.run s = s.exec body := rfl
  rw [hstep, dispatch, hrun]
  rcases s.exec body with ⟨o, t⟩
  cases o with
  | ok a => rfl
  | error r => rfl

theorem Keeps.dispatch (hview : ∀ s notes, view { s with notes } = view s) {body : Effect α}
    (h : Keeps view body) (label : String) : Keeps view (dispatch label body) := by
  intro s
  rw [exec_dispatch]
  exact (hview _ _).trans (h s)

end UiTree.Session
