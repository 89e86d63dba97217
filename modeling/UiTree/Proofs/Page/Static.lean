import UiTree.Proofs.Page.Expectation
import UiTree.Proofs.Page.Perform

/-!
# Static trees — what all calls of a locator have in common

If the page is one tree that nothing is wrong with, every call of a locator comes down to what its
selector finds in the tree.  Queries answer at once, and waits end at once or not at all.
-/

namespace UiTree

/-! ## 1. Waits on a static tree -/

namespace Session

/-- The page is one tree that can be read, and the dispatcher works on this tree and does not
fail. -/
structure Static (s : Session) : Prop where
  live : s.live = false
  outages : (s.frame 0).outages = []
  home : s.dispatcherFrame = some 0
  failing : s.failing = []

variable {α : Type} {s : Session} {body : Effect (Option α)}
  {result : ℕ → Except Raised (Option α)}

theorem answerer_of_fixed (hlive : s.live = false) : s.answerer = 0 := by
  rw [answerer, hlive]
  rfl

theorem answered_of_fixed (hlive : s.live = false) : s.answered = s := by
  rw [answered, hlive]
  rfl

theorem visited_of_fixed (hlive : s.live = false) (interval : Int) (n : ℕ) (clock : Int) :
    s.visited interval n clock = { s with clock } := by
  rw [visited, hlive, if_neg Bool.false_ne_true, List.append_nil]

theorem answererAt_of_fixed (hlive : s.live = false) (interval : Int) (i : ℕ) :
    s.answererAt interval i = 0 := by
  rw [answererAt, hlive]
  rfl

/-- What is there at once ends the wait at once. -/
theorem exec_waitFor_of_some (hlive : s.live = false) (hbody : s.Glances body result) (w : Wait)
    (htimeout : 0 < w.timeout) {a : α} (h : result 0 = .ok (some a)) :
    ∃ notes, s.exec (waitFor w body) = (.ok a, { s with notes := s.notes ++ notes }) := by
  have hending : (s.glances w.pause result 0).reply.ending = some (.ok a) := by
    rw [glances, answererAt_of_fixed hlive, h]
    rfl
  have hleast : IsLeast {i | (s.glances w.pause result i).reply.ending ≠ none} 0 := by
    constructor
    · change Reply.ending _ ≠ none
      rw [hending]
      exact Option.some_ne_none _
    · exact fun i _ => Nat.zero_le i
  have hearly : s.clock + (0 : ℕ) * w.pause < s.clock + w.budget := by
    have hbudget : w.budget = w.timeout := max_eq_right htimeout.le
    omega
  rcases exec_waitFor_of_ending hbody w hleast hending hearly with ⟨notes, hexec⟩
  refine ⟨notes, hexec.trans ?_⟩
  rw [visited_of_fixed hlive, Nat.cast_zero, zero_mul, add_zero]

/-- What is not there at once does not come, and the wait ends at the first tick that is too late. -/
theorem exec_waitFor_of_none (hlive : s.live = false) (hbody : s.Glances body result) (w : Wait)
    (h : result 0 = .ok none) :
    ∃ (n : ℕ) (notes : List Record),
      IsLeast {i : ℕ | s.clock + w.budget ≤ s.clock + i * w.pause} n ∧
      s.exec (waitFor w body) = (.error (.failure (.waitTimeout w.label w.timeout w.condition)),
        { s with clock := s.clock + n * w.pause, notes := s.notes ++ notes }) := by
  have hglance : ∀ i, (s.glances w.pause result i).reply = .nothing := by
    intro i
    rw [glances, answererAt_of_fixed hlive, h]
    rfl
  rcases s.exists_isLeast_late w.budget w.pause_pos with ⟨n, hn⟩
  have hnone : ∀ i < n, (s.glances w.pause result i).reply.ending = none := by
    intro i _
    rw [hglance]
    rfl
  have hfailures : Outcome.failures (s.glances w.pause result) n = [] := by
    rw [Outcome.failures, List.filterMap_eq_nil_iff]
    intro i _
    rw [hglance]
    rfl
  rcases exec_waitFor_of_deadline hbody w hn hnone with ⟨notes, hexec⟩
  rw [hfailures, visited_of_fixed hlive] at hexec
  exact ⟨n, notes, hn, hexec⟩

end Session

open Session Locator

/-! ## 2. What is seen of a static tree -/

/-- The page is one tree that can be read, whatever there is of a dispatcher. -/
structure Session.Still (s : Session) : Prop where
  live : s.live = false
  outages : (s.frame 0).outages = []

namespace Session.Still

variable {e : Expectation} {sel : Selector} {s : Session} (hs : s.Still)
include hs

theorem first?_eq_none (readings : List Selector.Reading) :
    Outage.first? (s.frame 0).outages readings = none := by
  rw [hs.outages, Outage.first?_nil]

theorem trouble?_eq_none (sel : Selector) : trouble? sel s 0 = none := by
  rw [trouble?, sourceFailure?, hs.live, hs.first?_eq_none]
  rfl

theorem judged_eq (hparse : Selector.parse e.locator.selector = .ok sel) (c : Check) :
    Expectation.judged c sel s 0 =
      .ok (if c.holds ((sel.findFirst? (s.frame 0).tree).map (·.attributes)) then some ()
        else none) := by
  rw [Expectation.judged_eq hparse, Expectation.shown_eq hparse, hs.trouble?_eq_none]
  cases sel.findFirst? (s.frame 0).tree with
  | none => rfl
  | some n => simp only [Expectation.outage?, hs.first?_eq_none, Option.map_some]

theorem glances_attempt (hparse : Selector.parse e.locator.selector = .ok sel) (c : Check) :
    s.Glances (e.attempt c) (Expectation.judged c sel s) := by
  refine Expectation.glances_attempt hparse fun u hframes hlive i => ?_
  have hu : u.Still := by
    refine ⟨hlive.trans hs.live, ?_⟩
    rw [frame, hframes]
    exact hs.outages
  rw [answerer_of_fixed hu.live, hu.trouble?_eq_none]
  exact (Option.some_ne_none _).symm

/-- A check passes at once if it holds of the first element found, or of none. -/
theorem exec_check_of_holds (hparse : Selector.parse e.locator.selector = .ok sel)
    (htimeout : 0 < e.timeout) {c : Check}
    (h : c.holds ((sel.findFirst? (s.frame 0).tree).map (·.attributes)) = true) :
    ∃ notes, s.exec (e.check c) = (.ok (), { s with notes := s.notes ++ notes }) := by
  have hjudged := hs.judged_eq hparse c
  rw [if_pos h] at hjudged
  rw [Expectation.exec_check hparse]
  exact exec_waitFor_of_some hs.live (hs.glances_attempt hparse c) (e.wait c) htimeout hjudged

/-- Otherwise it times out, at the first tick that is too late. -/
theorem exec_check_of_not_holds (hparse : Selector.parse e.locator.selector = .ok sel) {c : Check}
    (h : ¬ c.holds ((sel.findFirst? (s.frame 0).tree).map (·.attributes)) = true) :
    ∃ (n : ℕ) (notes : List Record),
      IsLeast {i : ℕ | s.clock + (e.wait c).budget ≤ s.clock + i * (e.wait c).pause} n ∧
      s.exec (e.check c) = (.error (.failure (.waitTimeout e.locator.selector e.timeout
          (some c.description))),
        { s with clock := s.clock + n * (e.wait c).pause, notes := s.notes ++ notes }) := by
  have hjudged := hs.judged_eq hparse c
  rw [if_neg h] at hjudged
  rw [Expectation.exec_check hparse]
  exact exec_waitFor_of_none hs.live (hs.glances_attempt hparse c) (e.wait c) hjudged

end Session.Still

namespace Session.Static

variable {l : Locator} {sel : Selector} {s : Session} (hs : s.Static)
include hs

theorem still : s.Still := ⟨hs.live, hs.outages⟩

theorem sighted_eq (hparse : Selector.parse l.selector = .ok sel) (c : Condition) :
    sighted sel c s 0 = .ok (((sel.findFirst? (s.frame 0).tree).filter (c.holds ·.attributes)).map
      fun n => { frame := 0, path := n.path }) := by
  rw [sighted_of_outages_eq_nil s hparse c hs.outages, sourceFailure?, hs.live]
  rfl

theorem exec_waitForElement_of_some (hparse : Selector.parse l.selector = .ok sel)
    (c : Condition) (description : Option String) (htimeout : 0 < l.timeout) {n : Located}
    (hn : (sel.findFirst? (s.frame 0).tree).filter (c.holds ·.attributes) = some n) :
    ∃ notes, s.exec (l.waitForElement c description) =
      (.ok { frame := 0, path := n.path }, { s with notes := s.notes ++ notes }) := by
  have hsighted := hs.sighted_eq hparse c
  rw [hn] at hsighted
  rw [exec_waitForElement hparse]
  exact exec_waitFor_of_some hs.live (glances_attempt s hparse c) (l.wait description) htimeout
    hsighted

theorem exec_waitForElement_of_none (hparse : Selector.parse l.selector = .ok sel)
    (c : Condition) (description : Option String)
    (hn : (sel.findFirst? (s.frame 0).tree).filter (c.holds ·.attributes) = none) :
    ∃ u, s.exec (l.waitForElement c description) =
      (.error (.failure (.waitTimeout l.selector l.timeout description)), u) := by
  have hsighted := hs.sighted_eq hparse c
  rw [hn] at hsighted
  rw [exec_waitForElement hparse]
  rcases exec_waitFor_of_none hs.live (glances_attempt s hparse c) (l.wait description) hsighted
    with ⟨_, _, -, hexec⟩
  exact ⟨_, hexec⟩

theorem exec_check {e : Expectation} (hparse : Selector.parse e.locator.selector = .ok sel)
    (htimeout : 0 < e.timeout) (c : Check) :
    if c.holds ((sel.findFirst? (s.frame 0).tree).map (·.attributes)) then
      ∃ notes, s.exec (e.check c) = (.ok (), { s with notes := s.notes ++ notes })
    else ∃ f u, s.exec (e.check c) = (.error (.failure f), u) := by
  split
  · rename_i hholds
    exact hs.still.exec_check_of_holds hparse htimeout hholds
  · rename_i hholds
    rcases hs.still.exec_check_of_not_holds hparse hholds with ⟨_, _, -, hexec⟩
    exact ⟨_, _, hexec⟩

/-! ## 3. Queries -/

theorem exec_tryResolve (hparse : Selector.parse l.selector = .ok sel) :
    s.exec l.tryResolve = (.ok (finds sel s 0).head?, s) := by
  rw [Locator.exec_tryResolve s hparse, answerer_of_fixed hs.live, answered_of_fixed hs.live, tried,
    hs.still.trouble?_eq_none]

theorem exec_resolve (hparse : Selector.parse l.selector = .ok sel) :
    s.exec l.resolve = (match (finds sel s 0).head? with
      | some t => .ok t
      | none => .error (.failure (.elementNotFound l.selector)), s) := by
  rw [Locator.exec_resolve s hparse, answerer_of_fixed hs.live, answered_of_fixed hs.live,
    hs.still.trouble?_eq_none]
  rfl

theorem exec_count (hparse : Selector.parse l.selector = .ok sel) :
    s.exec l.count = (.ok (finds sel s 0).length, s) := by
  have hsearch : s.exec l.search = (.ok (finds sel s 0), s) := by
    rw [Locator.exec_search s hparse, answerer_of_fixed hs.live, answered_of_fixed hs.live,
      hs.still.trouble?_eq_none]
    rfl
  rw [count, exec_bind, all, exec_singleShot_of_ok l [] hsearch]
  rfl

theorem exec_isVisible (hparse : Selector.parse l.selector = .ok sel) :
    s.exec l.isVisible = (.ok (finds sel s 0).head?.isSome, s) := by
  refine exec_singleShot_of_ok l false ?_
  rw [exec_bind, hs.exec_tryResolve hparse]
  rfl

theorem exec_isEnabled (hparse : Selector.parse l.selector = .ok sel) :
    s.exec l.isEnabled =
      (.ok ((sel.findFirst? (s.frame 0).tree).any (·.attributes.enabled)), s) := by
  refine exec_singleShot_of_ok l false ?_
  rw [exec_bind, hs.exec_tryResolve hparse, head?_finds]
  cases hn : sel.findFirst? (s.frame 0).tree with
  | none => rfl
  | some n =>
    simp only [Option.map_some]
    rw [exec_bind, exec_look, hs.still.first?_eq_none, attributes_of_findFirst? hparse hn]
    rfl

/-- A value that is waited for is read from the first element found. -/
theorem exec_read {α : Type} (hparse : Selector.parse l.selector = .ok sel)
    (htimeout : 0 < l.timeout) {n : Located} (hn : sel.findFirst? (s.frame 0).tree = some n)
    (wanted : List Attribute) (read : Attributes → α) :
    ∃ notes, s.exec (do
        let t ← l.waitForElement .any (some "exists")
        return read (← look t wanted)) =
      (.ok (read n.attributes), { s with notes := s.notes ++ notes }) := by
  have hany : (sel.findFirst? (s.frame 0).tree).filter (Condition.any.holds ·.attributes) =
      some n := by
    rw [hn]
    rfl
  rcases hs.exec_waitForElement_of_some hparse .any (some "exists") htimeout hany with
    ⟨notes, hexec⟩
  -- the notes of the wait do not change what can be read
  let u : Session := { s with notes := s.notes ++ notes }
  have hlook : u.exec (look { frame := 0, path := n.path } wanted) = (.ok n.attributes, u) := by
    have hout : Outage.first? (u.frame 0).outages (wanted.map (n.path, ·)) = none :=
      hs.still.first?_eq_none _
    have hattributes : u.attributes { frame := 0, path := n.path } = n.attributes :=
      attributes_of_findFirst? (s := u) hparse hn
    rw [exec_look, hout, hattributes]
    rfl
  refine ⟨notes, ?_⟩
  rw [exec_bind, hexec]
  simp only []
  rw [exec_bind, hlook]
  rfl

/-! ## 4. Actions -/

theorem homeReadable : s.HomeReadable := by
  intro i hi
  cases hs.home.symm.trans hi
  exact hs.outages

/-- An action on the element found is done, unless its text is not one for it. -/
theorem exec_act_of_some (hparse : Selector.parse l.selector = .ok sel) (a : Action)
    (text : String) (htimeout : 0 < l.timeout) {n : Located}
    (hn : (sel.findFirst? (s.frame 0).tree).filter ((needed a).1.holds ·.attributes) = some n) :
    match a.badText? text with
    | some f => ∃ u, s.exec (l.act a text) = (.error (.failure f), u)
    | none => ∃ notes, s.exec (l.act a text) =
        (.ok (), { s.recorded (a.events { frame := 0, path := n.path } text) with notes }) := by
  rcases hs.exec_waitForElement_of_some hparse (needed a).1 (some (needed a).2) htimeout hn with
    ⟨notes, hwait⟩
  rcases Option.filter_eq_some_iff.mp hn with ⟨hfirst, hholds⟩
  let t : Target := { frame := 0, path := n.path }
  let u : Session := { s with notes := s.notes ++ notes ++ [l.actionNote a] }
  have hact : s.exec (l.act a text) =
      u.exec (dispatch a.name (perform a t text) >>= fun _ => pure ()) :=
    exec_actWith_of_found hwait fun t => perform a t text
  have hattributes : u.attributes t = n.attributes :=
    attributes_of_findFirst? (s := u) hparse hfirst
  have hreadable : u.HomeReadable := hs.homeReadable
  have hrefusal := refusal?_of_fit (s := u) (t := t) (a := a) text hs.failing hs.outages
    (by rw [hattributes]; exact (needed_holds a _).mp hholds)
  rw [hact, exec_bind, exec_dispatch, exec_perform a t hreadable, hrefusal]
  cases hbad : a.badText? text with
  | none => exact ⟨_, rfl⟩
  | some f =>
    -- dispatch leaves the failure as it is
    rcases Action.exists_of_badText? hbad with ⟨reason, rfl⟩
    exact ⟨_, rfl⟩

theorem exec_act_of_none (hparse : Selector.parse l.selector = .ok sel) (a : Action)
    (text : String)
    (hn : (sel.findFirst? (s.frame 0).tree).filter ((needed a).1.holds ·.attributes) = none) :
    ∃ u, s.exec (l.act a text) =
      (.error (.failure (.waitTimeout l.selector l.timeout (some (needed a).2))), u) := by
  rcases hs.exec_waitForElement_of_none hparse (needed a).1 (some (needed a).2) hn with ⟨u, hwait⟩
  exact ⟨u, exec_actWith_of_not_found hwait _⟩

end Session.Static

/-! ## 5. All calls agree -/

/-- The step comes to a value. -/
def Session.Succeeds {α : Type} (s : Session) (x : Effect α) : Prop :=
  ∃ a, (s.exec x).1 = .ok a

/-- A check passes exactly when it holds of the first element found, or of none. -/
theorem Session.Still.succeeds_check_iff {e : Expectation} {sel : Selector} {s : Session}
    (hs : s.Still) (hparse : Selector.parse e.locator.selector = .ok sel)
    (htimeout : 0 < e.timeout) (c : Check) :
    s.Succeeds (e.check c) ↔
      c.holds ((sel.findFirst? (s.frame 0).tree).map (·.attributes)) = true := by
  unfold Succeeds
  by_cases hholds : c.holds ((sel.findFirst? (s.frame 0).tree).map (·.attributes)) = true
  · rcases hs.exec_check_of_holds hparse htimeout hholds with ⟨notes, hexec⟩
    exact ⟨fun _ => hholds, fun _ => ⟨(), congrArg Prod.fst hexec⟩⟩
  · rcases hs.exec_check_of_not_holds hparse hholds with ⟨_, _, -, hexec⟩
    rw [hexec]
    exact ⟨nofun, fun h => absurd h hholds⟩

namespace Locator

/-- The calls of a locator, and the checks of an expectation of it, agree about what was found. -/
structure Agree (l : Locator) (e : Expectation) (s : Session) (found : List Located) : Prop where
  resolve : s.exec l.resolve = (match found with
    | n :: _ => .ok { frame := 0, path := n.path }
    | [] => .error (.failure (.elementNotFound l.selector)), s)
  count : s.exec l.count = (.ok found.length, s)
  isVisible : s.exec l.isVisible = (.ok (decide (0 < found.length)), s)
  exists_iff : s.Succeeds (e.check .exists) ↔ 0 < found.length
  notExists_iff : s.Succeeds (e.check .notExists) ↔ ¬ s.Succeeds (e.check .exists)
  isEnabled : s.exec l.isEnabled = (.ok (found.head?.any (·.attributes.enabled)), s)
  enabled_iff : s.Succeeds (e.check .enabled) ↔ (s.exec l.isEnabled).1 = .ok true
  disabled_iff :
    s.Succeeds (e.check .disabled) ↔ found ≠ [] ∧ (s.exec l.isEnabled).1 = .ok false
  /-- Every action but the focus needs an enabled element, and keys have to be a chord. -/
  act_iff : ∀ a text, a ≠ .focus →
    (a = .pressKey → ∃ chord, KeyChord.parse text = .ok chord) →
    (s.Succeeds (l.act a text) ↔ (s.exec l.isEnabled).1 = .ok true)
  /-- An action is done to the element that the locator resolves to. -/
  target : ∀ a text, s.Succeeds (l.act a text) → ∃ t, (s.exec l.resolve).1 = .ok t ∧
    (s.exec (l.act a text)).2.history = s.history ++ a.events t text ∧
    (s.exec (l.act a text)).2.clock = s.clock
  /-- The dispatcher has no reason to refuse what a locator has found enabled. -/
  not_refused : ∀ a text name,
    (s.exec (l.act a text)).1 ≠ .error (.failure (.actionFailed name "element is disabled"))
  textContent : found ≠ [] → ∃ x u, s.exec l.textContent = (.ok x, u) ∧ u.clock = s.clock ∧
    ∀ y, s.Succeeds (e.check (.exactText y)) ↔ y = x
  getValue : found ≠ [] → ∃ x u, s.exec l.getValue = (.ok x, u) ∧ u.clock = s.clock ∧
    ∀ y, s.Succeeds (e.check (.value y)) ↔ some y = x
  text_of_exactText : ∀ y, s.Succeeds (e.check (.exactText y)) → s.Succeeds (e.check (.text y))
  containsValue_of_value : ∀ y, s.Succeeds (e.check (.value y)) →
    s.Succeeds (e.check (.containsValue y))
  clock : ∀ c, s.Succeeds (e.check c) → (s.exec (e.check c)).2.clock = s.clock

section

variable {l : Locator} {e : Expectation} {sel : Selector} {s : Session}

theorem succeeds_check_iff (hs : s.Static) (hparse : Selector.parse e.locator.selector = .ok sel)
    (htimeout : 0 < e.timeout) (c : Check) :
    s.Succeeds (e.check c) ↔
      c.holds ((sel.findFirst? (s.frame 0).tree).map (·.attributes)) = true :=
  hs.still.succeeds_check_iff hparse htimeout c

/-- What is read of the element found is what the checks for it compare with. -/
theorem exists_read {α : Type} (hs : s.Static)
    (hparse : Selector.parse e.locator.selector = .ok sel) (htimeout : 0 < e.locator.timeout)
    (hetimeout : 0 < e.timeout) (hfound : sel.find (s.frame 0).tree ≠ [])
    (wanted : List Attribute) (read : Attributes → α) {c : String → Check} {value : String → α}
    (hc : ∀ y a, (c y).holds (some a) = true ↔ value y = read a) :
    ∃ x u, s.exec (do
        let t ← e.locator.waitForElement .any (some "exists")
        return read (← look t wanted)) = (.ok x, u) ∧
      u.clock = s.clock ∧ ∀ y, s.Succeeds (e.check (c y)) ↔ value y = x := by
  have hfirst : sel.findFirst? (s.frame 0).tree = some ((sel.find (s.frame 0).tree).head hfound) :=
    List.head?_eq_some_head hfound
  rcases hs.exec_read hparse htimeout hfirst wanted read with ⟨notes, hexec⟩
  refine ⟨_, _, hexec, rfl, fun y => ?_⟩
  rw [succeeds_check_iff hs hparse hetimeout, hfirst]
  exact hc y _

variable (hs : s.Static) (hparse : Selector.parse l.selector = .ok sel) (htimeout : 0 < l.timeout)
include hs hparse htimeout

/-- An action is done to the first element found, or it fails: for want of such an element, or for
its text. -/
theorem act_cases (a : Action) (text : String) :
    (∃ n u, sel.findFirst? (s.frame 0).tree = some n ∧ (needed a).1.holds n.attributes = true ∧
      s.exec (l.act a text) = (.ok (), u) ∧ u.clock = s.clock ∧
      u.history = s.history ++ a.events { frame := 0, path := n.path } text) ∨
    ((sel.findFirst? (s.frame 0).tree).filter ((needed a).1.holds ·.attributes) = none ∨
        a.badText? text ≠ none) ∧
      ∃ f u, s.exec (l.act a text) = (.error (.failure f), u) ∧
        ∀ name reason, f ≠ .actionFailed name reason := by
  cases hn : (sel.findFirst? (s.frame 0).tree).filter ((needed a).1.holds ·.attributes) with
  | none =>
    rcases hs.exec_act_of_none hparse a text hn with ⟨u, hexec⟩
    exact .inr ⟨.inl rfl, _, u, hexec, nofun⟩
  | some n =>
    have hact := hs.exec_act_of_some hparse a text htimeout hn
    cases hbad : a.badText? text with
    | none =>
      rw [hbad] at hact
      rcases hact with ⟨notes, hexec⟩
      rcases Option.filter_eq_some_iff.mp hn with ⟨hfirst, hholds⟩
      exact .inl ⟨n, _, hfirst, hholds, hexec, rfl, rfl⟩
    | some f =>
      rw [hbad] at hact
      rcases hact with ⟨u, hexec⟩
      rcases Action.exists_of_badText? hbad with ⟨reason, rfl⟩
      exact .inr ⟨.inr nofun, _, u, hexec, nofun⟩

theorem succeeds_act_iff {a : Action} {text : String} (htext : a.badText? text = none) :
    s.Succeeds (l.act a text) ↔
      (sel.findFirst? (s.frame 0).tree).any ((needed a).1.holds ·.attributes) = true := by
  rw [Option.any_eq_true, Succeeds]
  rcases act_cases hs hparse htimeout a text with
    ⟨n, u, hfirst, hholds, hexec, -⟩ | ⟨hwhy, f, u, hexec, -⟩
  · rw [hexec]
    exact ⟨fun _ => ⟨n, hfirst, hholds⟩, fun _ => ⟨(), rfl⟩⟩
  · -- the text is not why it fails
    have hnone := hwhy.resolve_right fun h => h htext
    rw [hexec]
    constructor
    · exact nofun
    · rintro ⟨n, hfirst, hholds⟩
      rw [Option.filter_eq_some_iff.mpr ⟨hfirst, hholds⟩] at hnone
      cases hnone

end

/-- **All calls of a locator agree on a static tree.**  Every one of them comes down to what the
selector finds in the tree, and what succeeds takes no time. -/
theorem calls_agree (l : Locator) (e : Expectation) (sel : Selector) (s : Session)
    (hs : s.Static) (hparse : Selector.parse l.selector = .ok sel) (he : e.locator = l)
    (htimeout : 0 < l.timeout) (hetimeout : 0 < e.timeout) :
    l.Agree e s (sel.find (s.frame 0).tree) := by
  subst he
  have hcheck := succeeds_check_iff hs hparse hetimeout
  have hisEnabled := hs.exec_isEnabled hparse
  have hresolve := hs.exec_resolve hparse
  rw [head?_finds] at hresolve
  constructor
  case resolve =>
    rw [hresolve, Selector.findFirst?]
    cases sel.find (s.frame 0).tree <;> rfl
  case count =>
    rw [hs.exec_count hparse, finds, List.length_map]
  case isVisible =>
    rw [hs.exec_isVisible hparse, finds]
    cases sel.find (s.frame 0).tree <;> rfl
  case exists_iff =>
    rw [hcheck, Selector.findFirst?]
    cases sel.find (s.frame 0).tree <;> simp [Check.holds]
  case notExists_iff =>
    rw [hcheck, hcheck]
    cases sel.findFirst? (s.frame 0).tree <;> simp [Check.holds]
  case isEnabled => exact hisEnabled
  case enabled_iff =>
    rw [hcheck, hisEnabled]
    cases sel.findFirst? (s.frame 0).tree <;> simp [Check.holds]
  case disabled_iff =>
    rw [hcheck, hisEnabled, Selector.findFirst?]
    cases sel.find (s.frame 0).tree <;> simp [Check.holds]
  case act_iff =>
    intro a text ha hkeys
    have hneeded : (fun n : Located => (needed a).1.holds n.attributes) =
        (·.attributes.enabled) := by
      funext n
      rw [Bool.eq_iff_iff, needed_holds, or_iff_right ha]
    rw [succeeds_act_iff hs hparse htimeout (Action.badText?_eq_none hkeys), hneeded, hisEnabled,
      Except.ok.injEq]
  case target =>
    rintro a text ⟨x, hok⟩
    rcases act_cases hs hparse htimeout a text with
      ⟨n, u, hfirst, -, hexec, hclock, hhistory⟩ | ⟨-, f, u, hexec, -⟩
    · rw [hresolve, hfirst, hexec]
      exact ⟨_, rfl, hhistory, hclock⟩
    · rw [hexec] at hok
      cases hok
  case not_refused =>
    intro a text name
    rcases act_cases hs hparse htimeout a text with
      ⟨n, u, -, -, hexec, -⟩ | ⟨-, f, u, hexec, hf⟩
    · rw [hexec]
      intro h
      cases h
    · rw [hexec]
      intro h
      cases h
      exact hf _ _ rfl
  case textContent =>
    intro hfound
    exact exists_read hs hparse htimeout hetimeout hfound Element.textReads Element.text
      fun y a => beq_iff_eq.trans eq_comm
  case getValue =>
    intro hfound
    exact exists_read hs hparse htimeout hetimeout hfound [.value] (·.value)
      fun y a => beq_iff_eq.trans eq_comm
  case text_of_exactText =>
    intro y h
    rw [hcheck] at h ⊢
    exact Check.holds_text_of_exactText h
  case containsValue_of_value =>
    intro y h
    rw [hcheck] at h ⊢
    exact Check.holds_containsValue_of_value h
  case clock =>
    intro c h
    rw [hcheck] at h
    have hexec := hs.exec_check hparse hetimeout c
    rw [if_pos h] at hexec
    rcases hexec with ⟨notes, hexec⟩
    rw [hexec]

/-! ### A button that is there -/

def staticSave : Session :=
  { frames := [{ tree := saveButton true }]
    live := false, dispatcherFrame := some 0, timeout := 1000, interval := 100 }

theorem static_staticSave : staticSave.Static := ⟨rfl, rfl, rfl, rfl⟩

theorem calls_agree_staticSave :
    staticSave.Static ∧ Selector.parse save.selector = .ok saveSelector ∧
    (Expectation.expectSave 500).locator = save ∧
    0 < save.timeout ∧ 0 < (Expectation.expectSave 500).timeout ∧
    staticSave.Succeeds ((Expectation.expectSave 500).check .enabled) ∧
    staticSave.Succeeds (save.act .pressKey "cmd+s") ∧
    ∃ t, (staticSave.exec save.resolve).1 = .ok t ∧
      (staticSave.exec (save.act .pressKey "cmd+s")).2.history =
        [{ action := .focus, target := t, argument := .none },
          { action := .pressKey, target := t
            argument := .chord { key := "s", modifiers := [.command] } }] := by
  have htimeout : 0 < save.timeout := by decide
  have hetimeout : 0 < (Expectation.expectSave 500).timeout := by decide
  have hagree := calls_agree save (Expectation.expectSave 500) saveSelector staticSave
    static_staticSave parse_save rfl htimeout hetimeout
  have hkeys : KeyChord.parse "cmd+s" = .ok { key := "s", modifiers := [.command] } := by
    have hchord : (KeyChord.parse "cmd+s").toOption =
        some { key := "s", modifiers := [.command] } := by
      decide +kernel
    cases hparse : KeyChord.parse "cmd+s" with
    | error f => rw [hparse] at hchord; cases hchord
    | ok chord => rw [hparse] at hchord; cases hchord; rfl
  have hisEnabled : (staticSave.exec save.isEnabled).1 = .ok true := by
    have hfirst : (saveSelector.find (saveButton true)).head?.any (·.attributes.enabled) := by
      cbv
    rw [hagree.isEnabled]
    exact congrArg Except.ok hfirst
  have hact : staticSave.Succeeds (save.act .pressKey "cmd+s") :=
    (hagree.act_iff .pressKey "cmd+s" (by decide) fun _ => ⟨_, hkeys⟩).mpr hisEnabled
  rcases hagree.target .pressKey "cmd+s" hact with ⟨t, hresolve, hhistory, -⟩
  refine ⟨static_staticSave, parse_save, rfl, htimeout, hetimeout,
    hagree.enabled_iff.mpr hisEnabled, hact, t, hresolve, hhistory.trans ?_⟩
  simp only [Action.events, hkeys]
  rfl

end Locator

end UiTree
