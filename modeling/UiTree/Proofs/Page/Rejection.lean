import UiTree.Proofs.Page.Expectation
import UiTree.Proofs.Page.Dispatcher

/-!
# Rejection — where an invalid selector comes from

A malformed selector fails at once wherever a locator is used, for the selector is read before
anything else is done.  One that is well-formed is never called invalid, unless the provider of the
tree or the dispatcher says so: a wait raises nothing of its own but a timeout, and no step makes
another failure of what its parts raise but dispatch, which does not make an invalid selector of it.
-/

namespace UiTree

variable {σ α β : Type}

/-! ## 1. What a wait raises -/

theorem Reply.eq_raised_of_ending {reply : Reply α} {r : Raised}
    (h : reply.ending = some (.error r)) : reply = .raised r := by
  cases reply with
  | nothing => cases h
  | value a => cases h
  | raised r' =>
    cases r' with
    | failure f => cases h
    | interrupt i => cases h; rfl

namespace Wait

variable {w : Wait} {attempt : Int → σ → Attempt σ α} {start : Int} {state : σ}

/-- The attempt with number `i` is made: it begins early, and none before it ended the wait. -/
def Makes (w : Wait) (attempt : Int → σ → Attempt σ α) (start : Int) (state : σ) (i : ℕ) : Prop :=
  (w.pending attempt start state i).clock < w.deadlineFrom start ∧
    ∀ j < i, (w.replyAt attempt start state j).ending = none

theorem exists_raised_of_pending_last {i : ℕ} {f : Failure}
    (h : (w.pending attempt start state i).last = some f) :
    ∃ j < i, w.replyAt attempt start state j = .raised (.failure f) := by
  induction i with
  | zero => cases h
  | succ i ih =>
    have hlast : ((w.replyAt attempt start state i).failure?.or
        (w.pending attempt start state i).last) = some f := h
    cases hreply : w.replyAt attempt start state i with
    | raised r =>
      cases r with
      | failure g =>
        rw [hreply] at hlast
        cases hlast
        exact ⟨i, Nat.lt_succ_self i, hreply⟩
      | interrupt e =>
        -- it leaves no failure behind
        rw [hreply] at hlast
        obtain ⟨j, hj, hraised⟩ := ih hlast
        exact ⟨j, hj.trans (Nat.lt_succ_self i), hraised⟩
    | _ =>
      rw [hreply] at hlast
      obtain ⟨j, hj, hraised⟩ := ih hlast
      exact ⟨j, hj.trans (Nat.lt_succ_self i), hraised⟩

/-- What a wait raises is its timeout, or was raised by an attempt that it made. -/
theorem raised_of_poll {r : Raised} (h : (w.poll attempt start state).outcome = .error r) :
    r = .failure (.waitTimeout w.label w.timeout w.condition) ∨
      ∃ i, w.Makes attempt start state i ∧ w.replyAt attempt start state i = .raised r := by
  obtain ⟨n, hn⟩ := exists_isLeast_deadline_le w attempt start state (w.deadlineFrom start)
  have hearly : ∀ i < n, (w.pending attempt start state i).clock < w.deadlineFrom start := by
    intro i hi
    by_contra hlate
    exact absurd (hn.2 (not_lt.mp hlate)) (not_le.mpr hi)
  by_cases hending : ∃ j < n, (w.replyAt attempt start state j).ending ≠ none
  · -- the first attempt that ends the wait is the one that raises this
    obtain ⟨j, hj, hne⟩ := hending
    classical
    obtain ⟨k, hfirst⟩ : ∃ k, IsLeast {k | (w.replyAt attempt start state k).ending ≠ none} k :=
      ⟨_, Nat.isLeast_find ⟨j, hne⟩⟩
    have hkn : k < n := lt_of_le_of_lt (hfirst.2 hne) hj
    obtain ⟨o, ho⟩ := Option.ne_none_iff_exists'.mp hfirst.1
    rw [poll_of_isLeast_ending hfirst (hearly k hkn) ho] at h
    obtain rfl : o = .error r := h
    refine .inr ⟨k, ⟨hearly k hkn, fun i hi => ?_⟩, Reply.eq_raised_of_ending ho⟩
    by_contra hi'
    exact absurd (hfirst.2 hi') (not_le.mpr hi)
  · have hnone : ∀ i < n, (w.replyAt attempt start state i).ending = none := by
      intro i hi
      by_contra hi'
      exact hending ⟨i, hi, hi'⟩
    rw [poll_of_isLeast_deadline hn hnone] at h
    cases hlast : (w.pending attempt start state n).last with
    | none =>
      simp only [hlast] at h
      exact .inl (Except.error.inj h).symm
    | some f =>
      simp only [hlast] at h
      obtain ⟨j, hj, hraised⟩ := exists_raised_of_pending_last hlast
      obtain rfl : .failure f = r := Except.error.inj h
      exact .inr ⟨j, ⟨hearly j hj, fun i hi => hnone i (hi.trans hj)⟩, hraised⟩

end Wait

namespace Session

/-- The step ends with something raised. -/
def Raises (s : Session) (x : Effect α) (r : Raised) : Prop := (s.exec x).1 = .error r

variable {s : Session} {r : Raised}

theorem raises_bind_iff {x : Effect α} {k : α → Effect β} :
    s.Raises (x >>= k) r ↔
      s.Raises x r ∨ ∃ a t, s.exec x = (.ok a, t) ∧ t.Raises (k a) r := by
  unfold Raises
  rw [exec_bind]
  rcases s.exec x with ⟨o, t⟩
  cases o with
  | error r' => simp
  | ok a => simp

theorem raises_map_iff {x : Effect α} (f : α → β) : s.Raises (f <$> x) r ↔ s.Raises x r := by
  unfold Raises
  rw [exec_map]
  cases (s.exec x).1 with
  | error r' => simp [Except.map]
  | ok a => simp [Except.map]

theorem not_raises_pure (a : α) : ¬ s.Raises (pure a : Effect α) r := by
  simp [Raises, exec_pure]

theorem raises_look_iff {t : Target} {wanted : List Attribute} :
    s.Raises (look t wanted) r ↔
      Outage.first? (s.frame t.frame).outages (wanted.map (t.path, ·)) = some r := by
  unfold Raises
  rw [exec_look]
  cases Outage.first? (s.frame t.frame).outages (wanted.map (t.path, ·)) with
  | none => simp [barring]
  | some r' => simp [barring]

/-- An attempt of a wait, by the session in which it is made. -/
def Attempts (s : Session) (w : Wait) (body : Effect (Option α)) (v : Session) : Prop :=
  ∃ i, w.Makes (attempt body) s.clock s i ∧
    let p := w.pending (attempt body) s.clock s i
    v = { p.state with clock := p.clock, notes := [] }

theorem raises_of_waitFor {w : Wait} {body : Effect (Option α)} (h : s.Raises (waitFor w body) r) :
    r = .failure (.waitTimeout w.label w.timeout w.condition) ∨
      ∃ v, s.Attempts w body v ∧ v.Raises body r := by
  unfold Raises at h
  rw [exec_waitFor] at h
  obtain htimeout | ⟨i, hmade, hreply⟩ := Wait.raised_of_poll h
  · exact .inl htimeout
  · refine .inr ⟨_, ⟨i, hmade, rfl⟩, ?_⟩
    unfold Wait.replyAt at hreply
    generalize w.pending (attempt body) s.clock s i = p at hreply
    rcases hexec : { p.state with clock := p.clock, notes := [] }.exec body with ⟨result, after⟩
    rw [attempt_of_exec hexec] at hreply
    rw [Raises, hexec]
    cases result with
    | error r' =>
      cases hreply
      rfl
    | ok found => cases found <;> cases hreply

/-- Dispatch calls no failure of another kind an invalid selector. -/
theorem raises_of_dispatch {label : String} {body : Effect α} {message : String}
    (h : s.Raises (dispatch label body) (.failure (.invalidSelector message))) :
    s.Raises body (.failure (.invalidSelector message)) := by
  unfold Raises at h ⊢
  rw [exec_dispatch] at h
  cases hbody : (s.exec body).1 with
  | ok a =>
    simp only [hbody] at h
    cases h
  | error r' =>
    simp only [hbody] at h
    cases r' with
    | interrupt i => cases h
    | failure f =>
      cases f <;> cases h
      rfl

end Session

/-! ## 2. Uses of a locator -/

open Session

/-- What a locator is used for.  An action calls a method of any dispatcher, and an element may be
tested in any way. -/
inductive Use
  | resolve
  | tryResolve
  | act (a : Action) (method : Target → Effect Argument)
  | textContent
  | getValue
  | waitForElement (test : Target → Effect Bool) (description : Option String)
  | check (timeout interval : Option Int) (c : Check)

def Use.effect (l : Locator) : Use → Effect Unit
  | resolve => (fun _ => ()) <$> l.resolve
  | tryResolve => (fun _ => ()) <$> l.tryResolve
  | act a method => l.actWith a method
  | textContent => (fun _ => ()) <$> l.textContent
  | getValue => (fun _ => ()) <$> l.getValue
  | waitForElement test description => (fun _ => ()) <$> l.waitForElementBy test description
  | check timeout interval c => (Expectation.ofLocator l timeout interval).check c

namespace Locator

variable {l : Locator}

/-- A malformed selector fails before anything else is done. -/
theorem exec_use_of_parse_eq_error {f : Failure} (hparse : Selector.parse l.selector = .error f)
    (use : Use) (s : Session) : s.exec (use.effect l) = (.error (.failure f), s) := by
  obtain ⟨message, rfl⟩ := Selector.Grammar.exists_message_of_parse hparse
  have hwait : ∀ test description, s.exec (l.waitForElementBy test description) =
      (.error (.failure (.invalidSelector message)), s) := by
    intro test description
    rw [waitForElementBy, parse, hparse]
    rfl
  have hresolve : s.exec l.resolve = (.error (.failure (.invalidSelector message)), s) := by
    rw [resolve, search, parse, hparse]
    rfl
  -- every use begins with one of the two, or with the parser itself
  cases use with
  | resolve =>
    rw [Use.effect, exec_map, hresolve]
    rfl
  | tryResolve =>
    rw [Use.effect, exec_map, tryResolve, exec_tryCatch, exec_map, hresolve]
    rfl
  | act a method => rw [Use.effect, exec_actWith_of_not_found (hwait _ _)]
  | textContent =>
    rw [Use.effect, exec_map, textContent, exec_bind, waitForElement, hwait]
    rfl
  | getValue =>
    rw [Use.effect, exec_map, getValue, exec_bind, waitForElement, hwait]
    rfl
  | waitForElement test description =>
    rw [Use.effect, exec_map, hwait]
    rfl
  | check timeout interval c =>
    rw [Use.effect]
    have hlocator : (Expectation.ofLocator l timeout interval).locator = l := rfl
    rw [← hlocator] at hparse
    exact Expectation.exec_check_of_parse_eq_error hparse c s

end Locator

/-! ## 3. Who raises an invalid selector -/

namespace Locator

/-- In one attempt this is raised by the source or an element that the search looks at, or else by
the test of the first element found. -/
def Hinders (sel : Selector) (test : Target → Effect Bool) (v : Session) (r : Raised) : Prop :=
  trouble? sel v v.answerer = some r ∨
    ∃ t, (finds sel v v.answerer).head? = some t ∧ v.answered.Raises (test t) r

/-- This is raised in an attempt that a wait for an element makes. -/
def Delays (l : Locator) (sel : Selector) (test : Target → Effect Bool)
    (description : Option String) (s : Session) (r : Raised) : Prop :=
  ∃ v, s.Attempts (l.wait description) (l.attemptBy test) v ∧ Hinders sel test v r

/-- This is raised while an element is waited for, or then by what is done to it. -/
def Spoils {α : Type} (l : Locator) (sel : Selector) (c : Condition) (description : String)
    (step : Target → Effect α) (s : Session) (r : Raised) : Prop :=
  l.Delays sel c.met (some description) s r ∨
    ∃ t v, s.exec (l.waitForElement c (some description)) = (.ok t, v) ∧ v.Raises (step t) r

end Locator

open Locator

/-- Who raises this in the use of a locator: the provider of the tree, which is the source or an
element that is looked at, or the dispatcher. -/
def Use.Blames (l : Locator) (sel : Selector) (s : Session) (r : Raised) : Use → Prop
  | resolve | tryResolve => trouble? sel s s.answerer = some r
  | act a method =>
    let noted := fun t => note (l.actionNote a) >>= fun _ => method t
    l.Spoils sel (needed a).1 (needed a).2 noted s r
  | textContent => l.Spoils sel .any "exists" (look · Element.textReads) s r
  | getValue => l.Spoils sel .any "exists" (look · [.value]) s r
  | waitForElement test description => l.Delays sel test description s r
  | check budget pause c =>
    let e := Expectation.ofLocator l budget pause
    ∃ v, s.Attempts (e.wait c) (e.attempt c) v ∧
      ∃ t, Expectation.present sel v v.answerer = some t ∧ v.answered.Raises (look t c.reads) r

namespace Locator

variable {l : Locator} {sel : Selector} (hparse : Selector.parse l.selector = .ok sel)
include hparse

/-- A search raises what the source raises, or an element that it looks at. -/
theorem raises_of_tryResolve {v : Session} {r : Raised} (h : v.Raises l.tryResolve r) :
    trouble? sel v v.answerer = some r := by
  unfold Raises at h
  rw [exec_tryResolve v hparse, tried] at h
  cases htrouble : trouble? sel v v.answerer with
  | none =>
    rw [htrouble] at h
    cases h
  | some r' =>
    rw [htrouble] at h
    cases r' with
    | interrupt i =>
      cases h
      rfl
    | failure f =>
      cases f <;> cases h
      all_goals rfl

theorem raises_of_resolve {v : Session} {message : String}
    (h : v.Raises l.resolve (.failure (.invalidSelector message))) :
    trouble? sel v v.answerer = some (.failure (.invalidSelector message)) := by
  unfold Raises at h
  rw [exec_resolve v hparse] at h
  cases htrouble : trouble? sel v v.answerer with
  | none =>
    rw [htrouble] at h
    cases hfirst : (finds sel v v.answerer).head? with
    | none =>
      simp only [barring, hfirst] at h
      cases h
    | some t =>
      simp only [barring, hfirst] at h
      cases h
  | some r =>
    rw [htrouble] at h
    cases h
    rfl

omit hparse in
theorem head?_finds_of_tried {v : Session} {i : ℕ} {t : Target}
    (h : tried sel v i = .ok (some t)) : (finds sel v i).head? = some t := by
  unfold tried at h
  cases htrouble : trouble? sel v i with
  | none =>
    rw [htrouble] at h
    exact Except.ok.inj h
  | some r =>
    rw [htrouble] at h
    cases r with
    | interrupt e => cases h
    | failure f => cases f <;> cases h

theorem hinders_of_raises {test : Target → Effect Bool} {v : Session} {r : Raised}
    (h : v.Raises (l.attemptBy test) r) : Hinders sel test v r := by
  obtain htry | ⟨found, u, htry, hrest⟩ := raises_bind_iff.mp h
  · exact .inl (raises_of_tryResolve hparse htry)
  · rw [exec_tryResolve v hparse, Prod.mk.injEq] at htry
    obtain ⟨htried, rfl⟩ := htry
    cases found with
    | none => exact absurd hrest (not_raises_pure _)
    | some t =>
      obtain htest | ⟨b, w, -, hpure⟩ := raises_bind_iff.mp hrest
      · exact .inr ⟨t, head?_finds_of_tried htried, htest⟩
      · exact absurd hpure (not_raises_pure _)

/-- A wait for an element raises nothing of its own but a timeout. -/
theorem delays_of_raises {test : Target → Effect Bool} {description : Option String} {s : Session}
    {message : String}
    (h : s.Raises (l.waitForElementBy test description) (.failure (.invalidSelector message))) :
    l.Delays sel test description s (.failure (.invalidSelector message)) := by
  unfold Raises at h
  rw [exec_waitForElementBy hparse] at h
  obtain htimeout | ⟨v, hmade, hraised⟩ := raises_of_waitFor h
  · cases htimeout
  · exact ⟨v, hmade, hinders_of_raises hparse hraised⟩

theorem spoils_of_raises {c : Condition} {description : String} {step : Target → Effect α}
    {s : Session} {message : String}
    (h : s.Raises (l.waitForElement c (some description) >>= step)
      (.failure (.invalidSelector message))) :
    l.Spoils sel c description step s (.failure (.invalidSelector message)) := by
  obtain hwait | ⟨t, v, hwait, hstep⟩ := raises_bind_iff.mp h
  · exact .inl (delays_of_raises hparse hwait)
  · exact .inr ⟨t, v, hwait, hstep⟩

theorem spoils_of_raises_read {wanted : List Attribute} {read : Attributes → α} {s : Session}
    {message : String}
    (h : s.Raises (do
        let t ← l.waitForElement .any (some "exists")
        return read (← look t wanted)) (.failure (.invalidSelector message))) :
    l.Spoils sel .any "exists" (look · wanted) s (.failure (.invalidSelector message)) := by
  obtain hwait | ⟨t, v, hwait, hrest⟩ := spoils_of_raises hparse h
  · exact .inl hwait
  · obtain hlook | ⟨x, u, -, hpure⟩ := raises_bind_iff.mp hrest
    · exact .inr ⟨t, v, hwait, hlook⟩
    · exact absurd hpure (not_raises_pure _)

theorem spoils_of_raises_actWith {a : Action} {method : Target → Effect Argument} {s : Session}
    {message : String}
    (h : s.Raises (l.actWith a method) (.failure (.invalidSelector message))) :
    l.Spoils sel (needed a).1 (needed a).2 (fun t => note (l.actionNote a) >>= fun _ => method t) s
      (.failure (.invalidSelector message)) := by
  obtain hwait | ⟨t, v, hwait, hrest⟩ := spoils_of_raises hparse h
  · exact .inl hwait
  · refine .inr ⟨t, v, hwait, ?_⟩
    -- the note is made, so it is dispatch that raises this
    obtain hnote | ⟨⟨⟩, u, hnote, hdispatch⟩ := raises_bind_iff.mp hrest
    · cases hnote
    · obtain hraised | ⟨x, w, -, hpure⟩ := raises_bind_iff.mp hdispatch
      · exact raises_bind_iff.mpr (.inr ⟨(), u, hnote, raises_of_dispatch hraised⟩)
      · exact absurd hpure (not_raises_pure _)

omit hparse in
/-- An expectation passes over whatever keeps its element from being found. -/
theorem unreadable_of_raises {e : Expectation} {c : Check} {v : Session} {f : Failure}
    (hparse : Selector.parse e.locator.selector = .ok sel)
    (h : v.Raises (e.attempt c) (.failure f)) :
    ∃ t, Expectation.present sel v v.answerer = some t ∧
      v.answered.Raises (look t c.reads) (.failure f) := by
  unfold Raises at h
  have hquiet : ∀ i, trouble? sel v v.answerer ≠ some (.interrupt i) := by
    intro i hi
    -- an interrupt would be raised instead
    have hcurrent : v.exec e.current = (.error (.interrupt i), v.answered) := by
      rw [Expectation.current, exec_tryCatch, exec_tryResolve v hparse, tried, hi]
      rfl
    rw [Expectation.attempt, exec_bind, hcurrent] at h
    cases h
  obtain ⟨notes, hexec⟩ := Expectation.exec_attempt (c := c) hparse hquiet
  rw [hexec] at h
  unfold Expectation.judged at h
  cases hpresent : Expectation.present sel v v.answerer with
  | none =>
    rw [hpresent] at h
    cases h
  | some t =>
    refine ⟨t, rfl, ?_⟩
    rw [raises_look_iff, frame_answered]
    simp only [hpresent] at h
    cases hout : Expectation.unreadable? c v t with
    | none =>
      rw [hout] at h
      cases h
    | some r =>
      rw [hout] at h
      cases h
      exact hout

omit hparse in
theorem exists_unreadable_of_raises_check {e : Expectation} {c : Check} {s : Session}
    {message : String} (hparse : Selector.parse e.locator.selector = .ok sel)
    (h : s.Raises (e.check c) (.failure (.invalidSelector message))) :
    ∃ v, s.Attempts (e.wait c) (e.attempt c) v ∧
      ∃ t, Expectation.present sel v v.answerer = some t ∧
        v.answered.Raises (look t c.reads) (.failure (.invalidSelector message)) := by
  unfold Raises at h
  rw [Expectation.exec_check hparse] at h
  obtain htimeout | ⟨v, hmade, hraised⟩ := raises_of_waitFor h
  · cases htimeout
  · exact ⟨v, hmade, unreadable_of_raises hparse hraised⟩

end Locator

/-- **A malformed selector fails at once, and no other one is called invalid by the library.**
However a locator with a malformed selector is used, what the parser says is raised, and the session
stays as it is: no time passes, the source is not asked, no dispatcher is called, whatever it would
do.  If the selector is well-formed, then whoever uses the locator meets an invalid selector only if
the source raises it in a search that is made, or an element that is looked at, or the method of the
dispatcher. -/
theorem malformed_selectors_fail_fast (l : Locator) :
    (∀ f, Selector.parse l.selector = .error f →
      (∃ message, f = .invalidSelector message) ∧
        ∀ (use : Use) (s : Session), s.exec (use.effect l) = (.error (.failure f), s)) ∧
    (∀ sel, Selector.parse l.selector = .ok sel → ∀ (use : Use) (s : Session) (message : String),
      s.Raises (use.effect l) (.failure (.invalidSelector message)) →
        use.Blames l sel s (.failure (.invalidSelector message))) ∧
    (∀ a text, l.act a text = Use.effect l (.act a fun t => perform a t text)) ∧
    ∀ (c : Condition) (t : Target) (v : Session) (r : Raised), v.Raises (c.met t) r →
      v.Raises (look t c.reads) r := by
  refine ⟨?_, ?_, fun a text => rfl, ?_⟩
  · intro f hparse
    exact ⟨Selector.Grammar.exists_message_of_parse hparse, exec_use_of_parse_eq_error hparse⟩
  · intro sel hparse use s message h
    cases use with
    | resolve => exact raises_of_resolve hparse ((raises_map_iff _).mp h)
    | tryResolve => exact raises_of_tryResolve hparse ((raises_map_iff _).mp h)
    | act a method => exact spoils_of_raises_actWith hparse h
    | textContent => exact spoils_of_raises_read hparse ((raises_map_iff _).mp h)
    | getValue => exact spoils_of_raises_read hparse ((raises_map_iff _).mp h)
    | waitForElement test description => exact delays_of_raises hparse ((raises_map_iff _).mp h)
    | check budget pause c =>
      have hlocator : (Expectation.ofLocator l budget pause).locator = l := rfl
      rw [← hlocator] at hparse
      exact exists_unreadable_of_raises_check hparse h
  · intro c t v r h
    obtain hlook | ⟨x, u, -, hpure⟩ := raises_bind_iff.mp h
    · exact hlook
    · exact absurd hpure (not_raises_pure _)

end UiTree
