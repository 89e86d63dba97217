import UiTree.Proofs.Page.Keeping
import UiTree.Proofs.Page.Perform
import UiTree.Proofs.Page.Waiting

/-!
# Calls — actions that the dispatcher is called for, one after the other

A call is made directly, through dispatch, or by a locator that waits for its element first.  It
fails and leaves trees and history as they are, or it is done to one target.  So after any run of
calls the frames are what the events since then make of the frames at its start.
-/

namespace UiTree

/-- How the dispatcher is called, and for which target. -/
inductive Manner
  | direct (t : Target)
  | dispatched (label : String) (t : Target)
  | located (l : Locator)

structure Call where
  manner : Manner
  action : Action
  text : String := ""

namespace Call

open Session

def effect (c : Call) : Effect Unit :=
  match c.manner with
  | .direct t => perform c.action t c.text >>= fun _ => pure ()
  | .dispatched label t => dispatch label (perform c.action t c.text) >>= fun _ => pure ()
  | .located l => l.act c.action c.text

/-- The target is the one the call names, or the one its locator waits for. -/
def Aims (c : Call) (s : Session) (t : Target) : Prop :=
  match c.manner with
  | .direct u | .dispatched _ u => t = u
  | .located l =>
    let (condition, description) := Locator.needed c.action
    (s.exec (l.waitForElement condition (some description))).1 = .ok t

/-- The events of a call that is done to a target. -/
def events (c : Call) (t : Target) : List Event := c.action.events t c.text

end Call

namespace Session

/-! ## 1. Work -/

/-- What calls work on: the frames with their trees, the history, and which tree is the
dispatcher's. -/
def work (s : Session) : List Frame × List Event × Option ℕ :=
  (s.frames, s.history, s.dispatcherFrame)

variable {s u : Session}

theorem work_recorded (h : u.work = s.work) (events : List Event) :
    (u.recorded events).work = (s.recorded events).work := by
  simp only [work, Prod.mk.injEq] at h
  rcases h with ⟨hframes, hhistory, hhome⟩
  simp only [work, recorded, hframes, hhistory, hhome]

theorem HomeReadable.of_work (hs : s.HomeReadable) (h : u.work = s.work) : u.HomeReadable := by
  simp only [work, Prod.mk.injEq] at h
  rcases h with ⟨hframes, -, hhome⟩
  intro i hi
  rw [frame, hframes]
  exact hs i (hhome ▸ hi)

theorem HomeReadable.recorded (hs : s.HomeReadable) (events : List Event) :
    (s.recorded events).HomeReadable := by
  intro i hi
  exact (Event.outages_replay _ _ _ i).trans (hs i hi)

/-! ## 2. One call -/

/-- The call failed, and trees and history are as they were. -/
def Failed (s : Session) (c : Call) : Prop :=
  ∃ r u, s.exec c.effect = (.error r, u) ∧ u.work = s.work

/-- The call was done to a target and recorded as the events of its action. -/
def Done (s : Session) (c : Call) (t : Target) : Prop :=
  c.Aims s t ∧
    (c.events t).map (fun e => (e.action, e.target)) =
      (if c.action = .pressKey then [(.focus, t), (.pressKey, t)] else [(c.action, t)]) ∧
    ∃ u, s.exec c.effect = (.ok (), u) ∧ u.work = (s.recorded (c.events t)).work

/-- Dispatch adds a note, and may change what is raised. -/
theorem dispatch_perform_cases (hs : s.HomeReadable) (label : String) (a : Action) (t : Target)
    (text : String) :
    (∃ r u, s.exec (dispatch label (perform a t text) >>= fun _ => pure ()) = (.error r, u) ∧
      u.work = s.work) ∨
    (a.events t text).map (fun e => (e.action, e.target)) =
        (if a = .pressKey then [(.focus, t), (.pressKey, t)] else [(a, t)]) ∧
      ∃ u, s.exec (dispatch label (perform a t text) >>= fun _ => pure ()) = (.ok (), u) ∧
        u.work = (s.recorded (a.events t text)).work := by
  rw [exec_bind, exec_dispatch]
  rcases perform_cases a t hs text with ⟨r, hexec⟩ | ⟨hevents, x, hexec⟩
  · rw [hexec]
    exact .inl ⟨_, _, rfl, rfl⟩
  · rw [hexec]
    exact .inr ⟨hevents, _, rfl, rfl⟩

/-- **A call fails or is done.**  One that fails leaves the work as it is; one that is done is
recorded as the events of its action on one target, and the frames are as these leave them. -/
theorem failed_or_done (hs : s.HomeReadable) (c : Call) : s.Failed c ∨ ∃ t, s.Done c t := by
  rcases c with ⟨manner, a, text⟩
  cases manner with
  | direct t =>
    rcases perform_cases a t hs text with ⟨r, hexec⟩ | ⟨hevents, x, hexec⟩
    · left
      refine ⟨r, s, ?_, rfl⟩
      rw [Call.effect, exec_bind, hexec]
    · right
      refine ⟨t, rfl, hevents, s.recorded (a.events t text), ?_, rfl⟩
      rw [Call.effect, exec_bind, hexec]
      rfl
  | dispatched label t =>
    rcases dispatch_perform_cases hs label a t text with hfailed | ⟨hevents, hdone⟩
    · exact .inl hfailed
    · exact .inr ⟨t, rfl, hevents, hdone⟩
  | located l =>
    -- until an element is found, nothing is done but looking and waiting
    have hkeeps : Keeps work
        (l.waitForElement (Locator.needed a).1 (some (Locator.needed a).2)) :=
      keeps_waitForElement (fun _ _ _ _ => rfl) l _ _
    have hkept := hkeeps s
    rcases hwait : s.exec (l.waitForElement (Locator.needed a).1 (some (Locator.needed a).2)) with
      ⟨o, u⟩
    rw [hwait] at hkept
    cases o with
    | error r => exact .inl ⟨r, u, Locator.exec_actWith_of_not_found hwait _, hkept⟩
    | ok t =>
      have hact := Locator.exec_actWith_of_found hwait fun t => perform a t text
      have hu : Session.HomeReadable { u with notes := u.notes ++ [l.actionNote a] } :=
        hs.of_work hkept
      rcases dispatch_perform_cases hu a.name a t text with
        ⟨r, v, hexec, hwork⟩ | ⟨hevents, v, hexec, hwork⟩
      · exact .inl ⟨r, v, hact.trans hexec, hwork.trans hkept⟩
      · refine .inr ⟨t, congrArg Prod.fst hwait, hevents, v, hact.trans hexec, ?_⟩
        exact hwork.trans (work_recorded hkept _)

/-! ## 3. A run of calls -/

/-- The sessions that a run of calls leads to, whatever each of them comes to.  Between two calls
anything may happen but work: time passes, the source is asked, the dispatcher is told to fail. -/
inductive Reaches (s : Session) : Session → Prop
  | start : Reaches s s
  | call {t : Session} (c : Call) : Reaches s t → Reaches s (t.exec c.effect).2
  | meanwhile {t u : Session} : Reaches s t → u.work = t.work → Reaches s u

variable {t : Session}

/-- The work of a run is a list of events, by induction on the run. -/
theorem Reaches.exists_events (h : s.Reaches t) (hs : s.HomeReadable) :
    ∃ events, t.work = (s.recorded events).work := by
  induction h with
  | start =>
    refine ⟨[], ?_⟩
    simp [work, recorded, Event.replay]
  | call c _ ih =>
    rcases ih with ⟨events, hevents⟩
    rcases failed_or_done ((hs.recorded events).of_work hevents) c with
      ⟨r, u, hexec, hwork⟩ | ⟨target, -, -, u, hexec, hwork⟩
    · rw [hexec]
      exact ⟨events, hwork.trans hevents⟩
    · rw [hexec]
      refine ⟨events ++ c.events target, hwork.trans ?_⟩
      rw [work_recorded hevents, recorded_recorded]
  | meanwhile _ hwork ih =>
    rcases ih with ⟨events, hevents⟩
    exact ⟨events, hwork.trans hevents⟩

theorem HomeReadable.of_reaches (hs : s.HomeReadable) (h : s.Reaches t) : t.HomeReadable := by
  rcases h.exists_events hs with ⟨events, hevents⟩
  exact (hs.recorded events).of_work hevents

/-- The session after calls made one right after the other. -/
def after (s : Session) (calls : List Call) : Session :=
  calls.foldl (fun s c => (s.exec c.effect).2) s

theorem reaches_after (s : Session) (calls : List Call) : s.Reaches (s.after calls) := by
  induction calls using List.reverseRecOn with
  | nil => exact .start
  | append_singleton calls c ih =>
    rw [after, List.foldl_append, ← after]
    exact ih.call c

end Session

end UiTree
