import UiTree.Proofs.KeyChord.Reading
import UiTree.Proofs.Page.Perform
import UiTree.Proofs.Page.Waiting

/-!
# Reporting — what the caller of an action is told

Once the wait is over, an action writes one line, calls the method of the dispatcher, and writes
another line with the time that took.  Whatever the method comes to, the caller is told of it under
the name of the action: failures of this library and interrupts as they are, and any other failure
by its text, or by its kind where it has none.
-/

namespace UiTree

/-! ## 1. The lines of a wait -/

namespace Wait

variable {σ α : Type}

theorem level_of_mem_retryNotes {w : Wait} {mark : String} {last : Option Failure} {f : Failure}
    {r : Record} (h : r ∈ w.retryNotes mark last f) : r.level = .debug := by
  unfold retryNotes at h
  split at h
  · cases h
  · rw [List.mem_singleton.mp h, note]

theorem level_expiryNote (w : Wait) (last : Option Failure) :
    (w.expiryNote last).level = .debug := by
  cases last with
  | none => rfl
  | some f => rfl

/-- A wait whose attempts write nothing writes lines for debugging only. -/
theorem level_of_mem_pollFrom (w : Wait) {attempt : Int → σ → Attempt σ α}
    (hquiet : ∀ now state, (attempt now state).notes = []) (deadline now : Int)
    (last : Option Failure) (state : σ) :
    ∀ r ∈ (w.pollFrom attempt deadline now last state).notes, r.level = .debug := by
  fun_induction Wait.pollFrom w attempt deadline now last state with
  | case1 now last state =>
    intro r hr
    rw [hquiet] at hr
    cases hr
  | case2 now last state =>
    intro r hr
    rw [hquiet] at hr
    cases hr
  | case3 now last state _ _ _ f _ _ ih =>
    intro r hr
    rw [hquiet, List.nil_append, List.mem_append] at hr
    rcases hr with hretry | hrest
    · exact level_of_mem_retryNotes hretry
    · exact ih r hrest
  | case4 now last state _ _ _ _ _ ih =>
    intro r hr
    rw [hquiet, List.nil_append] at hr
    exact ih r hr
  | case5 now last state =>
    intro r hr
    rw [List.mem_singleton.mp hr]
    exact w.level_expiryNote last

end Wait

/-! ## 2. What the caller is told -/

/-- What a caller is told when the method of the dispatcher comes to an outcome. -/
inductive Reports (action : String) {α : Type} : Except Raised α → Except Raised Unit → Prop
  | done (a : α) : Reports action (.ok a) (.ok ())
  | own {f : Failure} (h : f.isOwn = true) :
    Reports action (.error (.failure f)) (.error (.failure f))
  | text {kind : String} {arguments : List Json}
    (h : (Failure.foreign kind arguments).message ≠ "") :
    Reports action (.error (.failure (.foreign kind arguments)))
      (.error (.failure (.actionFailed action (Failure.foreign kind arguments).message)))
  | kind {kind : String} {arguments : List Json}
    (h : (Failure.foreign kind arguments).message = "") :
    Reports action (.error (.failure (.foreign kind arguments)))
      (.error (.failure (.actionFailed action kind)))
  | interrupt (i : Interrupt) : Reports action (.error (.interrupt i)) (.error (.interrupt i))

/-- Normalizing what is raised, and dropping what is returned, is such a report. -/
theorem reports_normalize (action : String) {α : Type} (o : Except Raised α) :
    Reports action o ((o.mapError (Session.normalize action)).map fun _ => ()) := by
  cases o with
  | ok a => exact .done a
  | error r =>
    cases r with
    | interrupt i => exact .interrupt i
    | failure f =>
      cases f with
      | foreign kind arguments =>
        change Reports action _ (.error (.failure
          (.actionFailed action (Failure.foreign kind arguments).reason)))
        by_cases hempty : (Failure.foreign kind arguments).message = ""
        · have hreason : (Failure.foreign kind arguments).reason = kind := by
            rw [Failure.reason, hempty]
            rfl
          rw [hreason]
          exact .kind hempty
        · have hreason : (Failure.foreign kind arguments).reason =
              (Failure.foreign kind arguments).message := by
            apply Failure.reason_of_message_ne
            simpa using hempty
          rw [hreason]
          exact .text hempty
      | _ => exact .own rfl

/-- What an action fails with has a reason, as every kind has a name. -/
theorem Reports.exists_reason {action kind : String} {arguments : List Json} {α : Type}
    {told : Except Raised Unit} (hkind : kind ≠ "")
    (h : Reports action (.error (.failure (.foreign kind arguments)) : Except Raised α) told) :
    ∃ reason, reason ≠ "" ∧ told = .error (.failure (.actionFailed action reason)) := by
  cases h with
  | own hown => cases hown
  | text htext => exact ⟨_, htext, rfl⟩
  | kind => exact ⟨kind, hkind, rfl⟩

/-! ## 3. Actions -/

/-- The line about the time an action took. -/
def Action.timing (a : Action) (ms : ℕ) : Record :=
  { level := .debug, logger := Record.loggerName "utils.timing"
    message := s!"{a.name} took {Timing.spanText ms}" }

namespace Locator

open Session

variable {l : Locator} {a : Action} {s u : Session} {t : Target}

theorem note_timing (a : Action) (ms : ℕ) :
    Timing.note .debug a.name unlabelled ms = a.timing ms := by
  cases a <;> rfl

/-- A look writes nothing. -/
theorem notes_attempt {sel : Selector} (hparse : Selector.parse l.selector = .ok sel)
    (c : Condition) (now : Int) (s : Session) :
    (Session.attempt (l.attempt c) now s).notes = [] := by
  rw [attempt_of_exec (exec_attempt _ hparse c)]
  exact notes_answered _

/-- Waiting for an element writes lines for debugging only. -/
theorem exists_notes_of_waitForElement {c : Condition} {description : Option String}
    (h : s.exec (l.waitForElement c description) = (.ok t, u)) :
    ∃ waited, u.notes = s.notes ++ waited ∧ ∀ r ∈ waited, r.level = .debug := by
  cases hparse : Selector.parse l.selector with
  | error f =>
    rw [waitForElement, waitForElementBy, parse, hparse, exec_bind] at h
    cases h
  | ok sel =>
    rw [exec_waitForElement hparse, exec_waitFor] at h
    refine ⟨_, (congrArg (fun x => x.2.notes) h).symm, ?_⟩
    exact (l.wait description).level_of_mem_pollFrom (notes_attempt hparse c) _ _ _ _

/-- The method is called once, between two lines. -/
theorem exec_actWith_of_method
    (hwait : s.exec (l.waitForElement (needed a).1 (some (needed a).2)) = (.ok t, u)) {β : Type}
    (method : Target → Effect β) {o : Except Raised β} {after : Session}
    (hmethod : { u with notes := u.notes ++ [l.actionNote a] }.exec (method t) = (o, after)) :
    ∃ ms, s.exec (l.actWith a method) = ((o.mapError (normalize a.name)).map fun _ => (),
      { after with notes := after.notes ++ [a.timing ms] }) := by
  refine ⟨(Stopwatch.start u.clock).elapsed after.clock, ?_⟩
  rw [exec_actWith_of_found hwait, exec_bind, exec_dispatch, hmethod]
  simp only [note_timing]
  cases o with
  | ok x => rfl
  | error r => rfl

/-- **The caller is told what the dispatcher came to, and the log tells of one call.**  When the
wait has found an element, one line is written, then the method is called, and whatever it is and
comes to, one line with the time follows, the method is not called again, and the caller is told of
the outcome under the name of the action.  A failure that is not of this library is told with a
reason, as far as its kind has a name.  Before the call there are no other lines than those of the
wait, which are for debugging, and the dispatcher's own methods add none. -/
theorem actions_report_outcomes
    (hwait : s.exec (l.waitForElement (needed a).1 (some (needed a).2)) = (.ok t, u)) :
    (∀ text, l.act a text = l.actWith a fun t => perform a t text) ∧
    (l.actionNote a).level = .info ∧
    ∃ waited, u.notes = s.notes ++ waited ∧ (∀ r ∈ waited, r.level = .debug) ∧
      (∀ (β : Type) (method : Target → Effect β) (o : Except Raised β) (after : Session),
        { u with notes := s.notes ++ waited ++ [l.actionNote a] }.exec (method t) = (o, after) →
        ∃ told ms, s.exec (l.actWith a method) =
            (told, { after with notes := after.notes ++ [a.timing ms] }) ∧
          Reports a.name o told ∧
          ∀ kind arguments, o = .error (.failure (.foreign kind arguments)) → kind ≠ "" →
            ∃ reason, reason ≠ "" ∧ told = .error (.failure (.actionFailed a.name reason))) ∧
      ∀ text, ∃ ms, (s.exec (l.act a text)).2.notes =
        s.notes ++ waited ++ [l.actionNote a, a.timing ms] := by
  rcases exists_notes_of_waitForElement hwait with ⟨waited, hwaited, hdebug⟩
  refine ⟨fun text => rfl, rfl, waited, hwaited, hdebug, ?_, ?_⟩
  -- any method that the dispatcher may have
  · intro β method o after hmethod
    rw [← hwaited] at hmethod
    rcases exec_actWith_of_method hwait method hmethod with ⟨ms, hact⟩
    have hreports := reports_normalize a.name o
    refine ⟨_, ms, hact, hreports, ?_⟩
    intro kind arguments ho hkind
    subst ho
    exact hreports.exists_reason hkind
  -- the dispatcher's own, which write nothing
  · intro text
    rcases hmethod : { u with notes := u.notes ++ [l.actionNote a] }.exec (perform a t text) with
      ⟨o, after⟩
    rcases exec_actWith_of_method hwait (fun t => perform a t text) hmethod with ⟨ms, hact⟩
    have hkeeps : Keeps notes (perform a t text) := keeps_perform (fun _ _ _ => rfl) a t text
    have hquiet := hkeeps { u with notes := u.notes ++ [l.actionNote a] }
    rw [hmethod] at hquiet
    refine ⟨ms, ?_⟩
    rw [act, hact]
    change after.notes ++ [a.timing ms] = _
    rw [hquiet, hwaited, List.append_assoc]
    rfl

/-! ### Keys that find the focus broken -/

/-- The dispatcher cannot move the focus, which keys need. -/
def stuckFocus : Session :=
  { frames := [{ tree := saveButton true }]
    live := true, dispatcherFrame := some 0, timeout := 1000, interval := 100
    failing := [(.focus, .failure (.foreign "ValueError" []))] }

theorem faultless_stuckFocus : stuckFocus.Faultless := by
  refine ⟨rfl, ?_, ?_⟩
  · simp [stuckFocus]
  · simp [stuckFocus]

theorem ready_stuckFocus :
    save.Ready saveSelector .pressKey stuckFocus 0 { frame := 0, path := [0] } := by
  have hfirst : saveSelector.findFirst? (saveButton true) =
      some { path := [0], element := (saveButton true).children[0] } := by
    cbv
  exact (ready_iff parse_save).mpr ⟨by decide, rfl, _, hfirst, rfl, .inr rfl⟩

/-- Keys fail as the focus does, before anything is done. -/
theorem exec_perform_stuckFocus {called : Session} (hframes : called.frames = stuckFocus.frames)
    (hfailing : called.failing = stuckFocus.failing) (t : Target) :
    called.exec (perform .pressKey t "Tab") =
      (.error (.failure (.foreign "ValueError" [])), called) := by
  have hhome : called.HomeReadable := by
    intro i _
    rw [Session.frame, hframes]
    exact faultless_stuckFocus.outages_frame i
  have hparse : KeyChord.parse "Tab" = .ok { key := "tab", modifiers := [] } :=
    KeyChord.parse_of_ofParts (by decide +kernel)
  rw [exec_perform .pressKey t hhome, refusal?, hfailing, hparse]
  rfl

/-- The failure has no text, and is told by its kind, under the name of the action and not that of
the method inside of it that failed. -/
theorem actions_report_outcomes_stuckFocus :
    (∃ u, stuckFocus.exec (save.waitForElement (needed .pressKey).1 (some (needed .pressKey).2)) =
      (.ok { frame := 0, path := [0] }, u)) ∧
    (stuckFocus.exec (save.act .pressKey "Tab")).1 =
      .error (.failure (.actionFailed "press_key" "ValueError")) := by
  have hleast := isLeast_ending_of_ready faultless_stuckFocus parse_save ready_stuckFocus
    fun i hi => absurd hi (Nat.not_lt_zero i)
  rcases exec_waitForElement_of_found faultless_stuckFocus parse_save (by decide) _
    (some (needed .pressKey).2) hleast (ending_looks_of_ready parse_save ready_stuckFocus)
    (by decide) with ⟨notes, hfound⟩
  refine ⟨⟨_, hfound⟩, ?_⟩
  rcases actions_report_outcomes hfound with ⟨hact, -, waited, -, -, hreport, -⟩
  -- the session that is called differs from the one at the start in its readings and lines only
  rcases hreport _ (fun t => perform .pressKey t "Tab") _ _
    (exec_perform_stuckFocus (by rfl) (by rfl) _) with ⟨told, ms, htold, hreports, -⟩
  rw [hact, htold]
  cases hreports with
  | own h => cases h
  | text h => exact absurd rfl h
  | kind => rfl

end Locator

end UiTree
