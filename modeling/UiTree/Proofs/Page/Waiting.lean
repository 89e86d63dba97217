import UiTree.Proofs.Page.Dispatcher
import UiTree.Proofs.Page.Glance
import UiTree.Proofs.Page.Look

/-!
# Waiting — an action on an element that is yet to come

An action looks once at every tick of its interval, and each look asks the source once.  The first
look that finds a fit element ends the wait, and the dispatcher gets the element of that look.  If
no look before the deadline does, the dispatcher is left alone.
-/

namespace UiTree

/-! ## 1. Looks -/

namespace Session

/-- What the source raises at the look with number `i`; that there is no element does not count. -/
def failureAt (s : Session) (interval : Int) (i : ℕ) : Option Failure :=
  match (s.frame (s.answering interval i)).failing with
  | some (.failure (.elementNotFound _)) => none
  | some (.failure f) => some f
  | _ => none

/-- After the first `n` looks, at a clock. -/
def looked (s : Session) (interval : Int) (n : ℕ) (clock : Int) : Session :=
  { s with clock, readings := s.readings ++ s.ticks interval n }

theorem visited_of_live {s : Session} (hlive : s.live = true) (interval : Int) (n : ℕ)
    (clock : Int) : s.visited interval n clock = s.looked interval n clock := by
  rw [visited, looked, if_pos hlive]

end Session

namespace Locator

open Session

variable {l : Locator} {sel : Selector} {s : Session}

/-- What the looks from now on come to. -/
def looks (l : Locator) (sel : Selector) (c : Condition) (s : Session) (i : ℕ) : Outcome Target :=
  { reply := .ofResult (sight sel c s (s.answering l.interval i)) }

theorem exec_waitForElementBy (hparse : Selector.parse l.selector = .ok sel)
    (test : Target → Effect Bool) (description : Option String) :
    s.exec (l.waitForElementBy test description) =
      s.exec (waitFor (l.wait description) (l.attemptBy test)) := by
  rw [waitForElementBy, parse, exec_bind, exec_ofParsed_eq_ok.mpr ⟨hparse, rfl⟩]

theorem exec_waitForElement (hparse : Selector.parse l.selector = .ok sel) (c : Condition)
    (description : Option String) :
    s.exec (l.waitForElement c description) =
      s.exec (waitFor (l.wait description) (l.attempt c)) :=
  exec_waitForElementBy hparse c.met description

section

variable (hs : s.Faultless) (hparse : Selector.parse l.selector = .ok sel)
include hs hparse

variable (hinterval : 1 ≤ l.interval)
include hinterval

theorem glances_sighted (c : Condition) (description : Option String) :
    s.glances (l.wait description).pause (sighted sel c s) = l.looks sel c s := by
  funext i
  have hpause : (l.wait description).pause = l.interval := max_eq_right hinterval
  rw [glances, looks, hpause, answererAt, if_pos hs.live, sighted_of_faultless hs hparse]

/-- The first look that finds an element ends the wait, if it comes before the deadline. -/
theorem exec_waitForElement_of_found (c : Condition) (description : Option String) {k : ℕ}
    {t : Target}
    (hk : IsLeast {i | (l.looks sel c s i).reply.ending ≠ none} k)
    (hfound : (l.looks sel c s k).reply.ending = some (.ok t))
    (hearly : s.clock + k * l.interval < s.clock + max 0 l.timeout) :
    ∃ notes, s.exec (l.waitForElement c description) =
      (.ok t, { s.looked l.interval (k + 1) (s.clock + k * l.interval) with
        notes := s.notes ++ notes }) := by
  have hpause : (l.wait description).pause = l.interval := max_eq_right hinterval
  have hwait := exec_waitFor_of_ending (glances_attempt s hparse c) (l.wait description)
    (k := k) (r := .ok t)
  rw [glances_sighted hs hparse hinterval, hpause, visited_of_live hs.live] at hwait
  rw [exec_waitForElement hparse]
  exact hwait hk hfound hearly

/-- If no look before the deadline finds an element, the wait ends with the last failure. -/
theorem exec_waitForElement_of_none_found (c : Condition) (description : Option String) {n : ℕ}
    (hn : IsLeast {i : ℕ | s.clock + max 0 l.timeout ≤ s.clock + i * l.interval} n)
    (hnone : ∀ i < n, (l.looks sel c s i).reply.ending = none) :
    ∃ notes, s.exec (l.waitForElement c description) =
      (.error (.failure ((l.wait description).expiry
        (Outcome.failures (l.looks sel c s) n).getLast?)),
        { s.looked l.interval n (s.clock + n * l.interval) with notes := s.notes ++ notes }) := by
  have hpause : (l.wait description).pause = l.interval := max_eq_right hinterval
  have hwait := exec_waitFor_of_deadline (glances_attempt s hparse c) (l.wait description)
    (n := n)
  rw [glances_sighted hs hparse hinterval, hpause, visited_of_live hs.live] at hwait
  rw [exec_waitForElement hparse]
  exact hwait hn hnone

end

/-! ## 2. Actions -/

theorem failures_looks (c : Condition) (n : ℕ) :
    Outcome.failures (l.looks sel c s) n = (List.range n).filterMap (s.failureAt l.interval) := by
  have hfailure : ∀ i, (l.looks sel c s i).reply.failure? = s.failureAt l.interval i := by
    intro i
    rw [looks, sight, failureAt]
    simp only []
    cases (s.frame (s.answering l.interval i)).failing with
    | some r =>
      cases r with
      | interrupt e => rfl
      | failure f => cases f <;> rfl
    | none =>
      simp only []
      cases (sel.findFirst? _).filter _ <;> rfl
  simp only [Outcome.failures, hfailure]

open Classical in
/-- The look with number `i` is answered with a tree in which the target is the earliest element
that the selector means, and the action may be done to it. -/
structure Ready (l : Locator) (sel : Selector) (a : Action) (s : Session) (i : ℕ) (t : Target) :
    Prop where
  frame : t.frame = s.answering l.interval i
  answered : (s.frame t.frame).failing = none
  meant : ∃ n, (s.frame t.frame).tree.preorder.find?
      (sel.Means (s.frame t.frame).tree ·) = some n ∧
    n.path = t.path ∧ (a = .focus ∨ n.attributes.enabled = true)

theorem needed_holds (a : Action) (x : Attributes) :
    (needed a).1.holds x = true ↔ a = .focus ∨ x.enabled = true := by
  cases a <;> simp [needed, Condition.holds]

/-- The earliest element meant is the first one found. -/
theorem ready_iff (hparse : Selector.parse l.selector = .ok sel) {a : Action} {i : ℕ}
    {t : Target} :
    l.Ready sel a s i t ↔
      t.frame = s.answering l.interval i ∧ (s.frame t.frame).failing = none ∧
      ∃ n, sel.findFirst? (s.frame t.frame).tree = some n ∧
        n.path = t.path ∧ (a = .focus ∨ n.attributes.enabled = true) := by
  rw [Selector.findFirst?_eq_find? sel _ (Selector.Grammar.steps_ne_nil_of_parse hparse)]
  exact ⟨fun h => ⟨h.frame, h.answered, h.meant⟩, fun h => ⟨h.1, h.2.1, h.2.2⟩⟩

theorem ending_looks_of_ready (hparse : Selector.parse l.selector = .ok sel) {a : Action} {i : ℕ}
    {t : Target} (h : l.Ready sel a s i t) :
    (l.looks sel (needed a).1 s i).reply.ending = some (.ok t) := by
  rcases (ready_iff hparse).mp h with ⟨hframe, hanswered, n, hfirst, hpath, hfit⟩
  rw [hframe] at hanswered hfirst
  have hholds := (needed_holds a n.attributes).mpr hfit
  have hfound : sight sel (needed a).1 s (s.answering l.interval i) = .ok (some t) := by
    rw [sight, hanswered, hfirst]
    simp only [Option.filter_some, hholds, if_true, Option.map_some, ← hframe, hpath]
  rw [looks, hfound]
  rfl

/-- Only an element that the action may be done to ends the wait. -/
theorem exists_ready_of_ending (hs : s.Faultless) (hparse : Selector.parse l.selector = .ok sel)
    {a : Action} {i : ℕ} {r : Except Raised Target}
    (h : (l.looks sel (needed a).1 s i).reply.ending = some r) : ∃ t, l.Ready sel a s i t := by
  rw [looks, sight] at h
  cases hfailing : (s.frame (s.answering l.interval i)).failing with
  | some raised =>
    -- a failure of the source is tried again
    rw [hfailing] at h
    cases raised with
    | interrupt e => exact absurd hfailing (hs.failing_frame _ e)
    | failure f => cases f <;> cases h
  | none =>
    rw [hfailing] at h
    cases hfirst : sel.findFirst? (s.frame (s.answering l.interval i)).tree with
    | none =>
      rw [hfirst] at h
      cases h
    | some n =>
      by_cases hholds : (needed a).1.holds n.attributes = true
      · refine ⟨{ frame := s.answering l.interval i, path := n.path }, (ready_iff hparse).mpr ?_⟩
        exact ⟨rfl, hfailing, n, hfirst, rfl, (needed_holds a n.attributes).mp hholds⟩
      · simp only [hfirst, Option.filter_some, if_neg hholds] at h
        cases h

/-- The first tick at which the action may be done is the first one whose look ends the wait. -/
theorem isLeast_ending_of_ready (hs : s.Faultless) (hparse : Selector.parse l.selector = .ok sel)
    {a : Action} {k : ℕ} {t : Target} (hk : l.Ready sel a s k t)
    (hfirst : ∀ i < k, ∀ u, ¬ l.Ready sel a s i u) :
    IsLeast {i | (l.looks sel (needed a).1 s i).reply.ending ≠ none} k := by
  constructor
  · change Reply.ending _ ≠ none
    rw [ending_looks_of_ready hparse hk]
    exact Option.some_ne_none _
  · intro i hi
    rcases Option.ne_none_iff_exists'.mp hi with ⟨r, hr⟩
    rcases exists_ready_of_ending hs hparse hr with ⟨u, hu⟩
    by_contra hik
    exact hfirst i (not_le.mp hik) u hu

theorem exec_actWith_of_found {a : Action} {t : Target} {u : Session} {β : Type}
    (h : s.exec (l.waitForElement (needed a).1 (some (needed a).2)) = (.ok t, u))
    (method : Target → Effect β) :
    s.exec (l.actWith a method) =
      { u with notes := u.notes ++ [l.actionNote a] }.exec
        (dispatch a.name (method t) >>= fun _ => pure ()) := by
  rw [actWith, exec_bind, h]
  simp only []
  rw [exec_bind, exec_note]

theorem exec_actWith_of_not_found {a : Action} {r : Raised} {u : Session} {β : Type}
    (h : s.exec (l.waitForElement (needed a).1 (some (needed a).2)) = (.error r, u))
    (method : Target → Effect β) : s.exec (l.actWith a method) = (.error r, u) := by
  rw [actWith, exec_bind, h]

/-- The dispatcher does not ask the source, and takes no time. -/
theorem keeps_dispatch_perform (a : Action) (t : Target) (text : String) :
    Keeps (fun s => (s.clock, s.readings))
      (dispatch a.name (perform a t text) >>= fun _ => pure ()) :=
  ((keeps_perform (fun _ _ _ => rfl) a t text).dispatch (fun _ _ => rfl) a.name).bind
    fun _ => keeps_pure ()

/-- **An action is done once, to the first element fit for it, or not at all.**  The source is asked
once at every tick of the interval.  Let `n` be the first number whose tick has reached the
deadline.  At the first tick before it at which the action may be done, the method of the dispatcher
is called on the element of that very look, and nothing else happens: whatever the method is, the
action comes to what the method comes to at that clock.  If there is no such tick, the method is not
called, trees and history stay as they are, and the action ends with the last failure of the source
or with a timeout. -/
theorem action_done_once_at_first_fit (l : Locator) (sel : Selector) (a : Action) (s : Session)
    (hparse : Selector.parse l.selector = .ok sel) (hinterval : 1 ≤ l.interval)
    (hs : s.Faultless) :
    (∀ text, l.act a text = l.actWith a fun t => perform a t text) ∧
    ∃ n, IsLeast {i : ℕ | s.clock + max 0 l.timeout ≤ s.clock + i * l.interval} n ∧
      (∀ k < n, ∀ t, l.Ready sel a s k t → (∀ i < k, ∀ u, ¬ l.Ready sel a s i u) →
        (∃ notes, ∀ (β : Type) (method : Target → Effect β), s.exec (l.actWith a method) =
          { s.looked l.interval (k + 1) (s.clock + k * l.interval) with
            notes := s.notes ++ notes }.exec (dispatch a.name (method t) >>= fun _ => pure ())) ∧
        ∀ text, (s.exec (l.act a text)).2.clock = s.clock + k * l.interval ∧
          (s.exec (l.act a text)).2.readings = s.readings ++ s.ticks l.interval (k + 1)) ∧
      ((∀ i < n, ∀ t, ¬ l.Ready sel a s i t) →
        ∃ notes, ∀ (β : Type) (method : Target → Effect β), s.exec (l.actWith a method) =
          (.error (.failure (((List.range n).filterMap (s.failureAt l.interval)).getLast?.getD
            (.waitTimeout l.selector l.timeout
              (if a = .focus then some "exists" else some "enabled")))),
            { s.looked l.interval n (s.clock + n * l.interval) with
              notes := s.notes ++ notes })) := by
  rcases s.exists_isLeast_late (max 0 l.timeout) hinterval with ⟨n, hn⟩
  refine ⟨fun text => rfl, n, hn, ?_, ?_⟩
  · -- the tick is early, and its look is the first one that ends the wait
    intro k hkn t hk hfirst
    have hleast := isLeast_ending_of_ready hs hparse hk hfirst
    have hearly : s.clock + k * l.interval < s.clock + max 0 l.timeout := by
      by_contra hlate
      exact absurd (hn.2 (not_lt.mp hlate)) (not_le.mpr hkn)
    rcases exec_waitForElement_of_found hs hparse hinterval (needed a).1 (some (needed a).2) hleast
      (ending_looks_of_ready hparse hk) hearly with ⟨notes, hfound⟩
    have hact : ∀ (β : Type) (method : Target → Effect β), s.exec (l.actWith a method) =
        { s.looked l.interval (k + 1) (s.clock + k * l.interval) with
          notes := s.notes ++ (notes ++ [l.actionNote a]) }.exec
            (dispatch a.name (method t) >>= fun _ => pure ()) := by
      intro β method
      rw [exec_actWith_of_found hfound, ← List.append_assoc]
    -- the notes are made before the method is called, and are the same for all of them
    refine ⟨⟨_, hact⟩, fun text => ?_⟩
    have hkeeps := keeps_dispatch_perform a t text
      { s.looked l.interval (k + 1) (s.clock + k * l.interval) with
        notes := s.notes ++ (notes ++ [l.actionNote a]) }
    rw [act, hact]
    exact Prod.mk.inj hkeeps
  · -- no early look ends the wait, for the action might be done at its tick
    intro hnone
    have hending : ∀ i < n, (l.looks sel (needed a).1 s i).reply.ending = none := by
      intro i hi
      by_contra hne
      rcases Option.ne_none_iff_exists'.mp hne with ⟨r, hr⟩
      rcases exists_ready_of_ending hs hparse hr with ⟨t, ht⟩
      exact hnone i hi t ht
    rcases exec_waitForElement_of_none_found hs hparse hinterval (needed a).1 (some (needed a).2) hn
      hending with ⟨notes, hlast⟩
    rw [failures_looks] at hlast
    have hneeded : (if a = .focus then some "exists" else some "enabled") = some (needed a).2 := by
      cases a <;> rfl
    refine ⟨notes, fun β method => ?_⟩
    rw [exec_actWith_of_not_found hlast, hneeded]
    rfl

/-! ### A button that is late -/

def saveButton (enabled : Bool) : Element :=
  .node {} [.node { identifier := some "save", enabled } []]

/-- The source fails at first, then the button is disabled, and at last it is enabled. -/
def lateButton : Session :=
  { frames := [
      { failing := some (.failure (.foreign "OSError" [])), untilRead := some 1 },
      { tree := saveButton false, untilClock := some 250 },
      { tree := saveButton true }]
    live := true, dispatcherFrame := some 2, timeout := 1000, interval := 100 }

def save : Locator := { selector := "#save", timeout := 1000, interval := 100 }

def saveSelector : Selector :=
  { steps := [{ identifier := some "save" }], raw := "#save" }

theorem parse_save : Selector.parse save.selector = .ok saveSelector := by
  have hparse : (Selector.parse "#save").toOption = some saveSelector := by decide +kernel
  cases h : Selector.parse "#save" with
  | error f => rw [h] at hparse; cases hparse
  | ok sel =>
    rw [h] at hparse
    cases hparse
    exact h

theorem faultless_lateButton : lateButton.Faultless := by
  refine ⟨rfl, ?_, ?_⟩
  · simp [lateButton]
  · simp [lateButton]

/-- The fourth look is the first one that finds the button enabled. -/
theorem ready_lateButton :
    save.Ready saveSelector .click lateButton 3 { frame := 2, path := [0] } := by
  have hfirst : saveSelector.findFirst? (saveButton true) =
      some { path := [0], element := (saveButton true).children[0] } := by
    cbv
  exact (ready_iff parse_save).mpr ⟨by decide, rfl, _, hfirst, rfl, .inr rfl⟩

/-- The three looks before it go on. -/
theorem not_ready_lateButton : ∀ i < 3, ∀ t, ¬ save.Ready saveSelector .click lateButton i t := by
  have hgoing : ∀ i < 3,
      (save.looks saveSelector (needed .click).1 lateButton i).reply.ending.isNone = true := by
    decide +kernel
  intro i hi t ht
  have hnone := hgoing i hi
  rw [ending_looks_of_ready parse_save ht] at hnone
  cases hnone

theorem action_done_once_at_first_fit_lateButton :
    Selector.parse save.selector = .ok saveSelector ∧ 1 ≤ save.interval ∧ lateButton.Faultless ∧
    let result := lateButton.exec (save.act .click "")
    result.1 = .ok () ∧ result.2.clock = 300 ∧ result.2.readings = [0, 100, 200, 300] ∧
      result.2.history =
        [{ action := .click, target := { frame := 2, path := [0] }, argument := .none }] := by
  have hinterval : 1 ≤ save.interval := by decide
  refine ⟨parse_save, hinterval, faultless_lateButton, ?_⟩
  rcases action_done_once_at_first_fit save saveSelector .click lateButton parse_save hinterval
    faultless_lateButton with ⟨hact, n, hn, hready, -⟩
  have hlate : 3 < n := by
    by_contra hle
    have hle' : lateButton.clock + max 0 save.timeout ≤ lateButton.clock + n * save.interval := hn.1
    simp only [lateButton, save] at hle'
    omega
  rcases hready 3 hlate _ ready_lateButton not_ready_lateButton with ⟨⟨notes, hmethod⟩, hkept⟩
  rcases hkept "" with ⟨hclock, hreadings⟩
  refine ⟨?_, hclock, hreadings, ?_⟩
  · rw [hact, hmethod]
    rfl
  · rw [hact, hmethod]
    rfl

end Locator

end UiTree
