import UiTree.Page.Expectation
import UiTree.Proofs.Page.History
import UiTree.Proofs.Page.Scene

/-!
# Observing — queries that never disturb what comes after them

A query leaves the scene of the session as it is, however it ends.  So a run of steps over a page
that is one tree comes to the same with its queries or without them, but for the time and the notes
that they take.
-/

namespace UiTree

open Session

variable {α β : Type}

/-! ## 1. Looks at a scene -/

/-- The step is settled by the scene and leaves it as it is. -/
structure Observes (x : Effect α) : Prop where
  keeps : Keeps scene? x
  timeless : Timeless x

namespace Observes

theorem pure (a : α) : Observes (Pure.pure a : Effect α) := ⟨keeps_pure a, timeless_pure a⟩

theorem throw (r : Raised) : Observes (MonadExcept.throw r : Effect α) :=
  ⟨keeps_throw r, timeless_throw r⟩

theorem bind {x : Effect α} {k : α → Effect β} (hx : Observes x) (hk : ∀ a, Observes (k a)) :
    Observes (x >>= k) :=
  ⟨hx.keeps.bind fun a => (hk a).keeps, hx.timeless.bind fun a => (hk a).timeless⟩

theorem map {x : Effect α} (hx : Observes x) (f : α → β) : Observes (f <$> x) :=
  ⟨hx.keeps.map f, hx.timeless.map f⟩

theorem tryCatch {x : Effect α} {handle : Raised → Effect α} (hx : Observes x)
    (hhandle : ∀ r, Observes (handle r)) : Observes (MonadExcept.tryCatch x handle) :=
  ⟨hx.keeps.tryCatch fun r => (hhandle r).keeps, hx.timeless.tryCatch fun r => (hhandle r).timeless⟩

theorem ofParsed (p : Except Failure α) : Observes (Session.ofParsed p) :=
  ⟨keeps_ofParsed p, timeless_ofParsed p⟩

theorem note (r : Record) : Observes (Session.note r) :=
  ⟨keeps_modify fun _ => rfl, timeless_note r⟩

theorem check (i : ℕ) (readings : List Selector.Reading) : Observes (Session.check i readings) :=
  ⟨keeps_check i readings, timeless_check i readings⟩

theorem look (t : Target) (wanted : List Attribute) : Observes (Session.look t wanted) :=
  ⟨keeps_look t wanted, timeless_look t wanted⟩

/-- A source that is asked belongs to no scene. -/
theorem readSource : Observes Session.readSource := by
  refine ⟨fun s => ?_, timeless_readSource⟩
  cases hlive : s.live with
  | false =>
    rw [Session.readSource, exec_get_bind, hlive]
    rfl
  | true =>
    have hasked : s.asked.scene? = s.scene? := by
      have hasks : s.asked.live = true := hlive
      rw [scene?, scene?, if_pos hlive, if_pos hasks]
    rw [exec_readSource hlive]
    cases (s.frame s.upcoming).failing with
    | some r => exact hasked
    | none => exact hasked

/-- What is made of the session as it is, if nothing but a frame of it is looked at. -/
theorem get_bind (i : ℕ) {k : Session → Effect α} (hk : ∀ s, Observes (k s))
    (hframe : ∀ s u : Session, u.frame i = s.frame i → k u = k s) : Observes (get >>= k) := by
  refine ⟨keeps_get_bind fun s => (hk s).keeps s, fun s u h => ?_⟩
  rw [exec_get_bind, exec_get_bind, hframe s u (h.frame i)]
  exact (hk s).timeless s u h

theorem waitFor (w : Wait) {body : Effect (Option α)} (hbody : Observes body) :
    Observes (Session.waitFor w body) :=
  ⟨keeps_waitFor (fun _ _ _ => rfl) w hbody.keeps, timeless_waitFor w hbody.timeless⟩

end Observes

/-- A test of an element that looks at the scene and at nothing else. -/
structure Test where
  passes : Target → Effect Bool
  observes : ∀ t, Observes (passes t)

def Test.ofCondition (c : Condition) : Test where
  passes := c.met
  observes t := (Observes.look t _).bind fun _ => Observes.pure _

/-! ## 2. Queries of a page -/

namespace Locator

variable (l : Locator)

theorem observes_search : Observes l.search := by
  refine (Observes.ofParsed _).bind fun sel => Observes.readSource.bind fun i => ?_
  refine Observes.get_bind i (fun s => (Observes.check i _).bind fun _ => Observes.pure _) ?_
  intro s u h
  rw [h]

theorem observes_resolve : Observes l.resolve := by
  refine l.observes_search.bind fun targets => ?_
  cases targets with
  | nil => exact Observes.throw _
  | cons t ts => exact Observes.pure t

theorem observes_tryResolve : Observes l.tryResolve := by
  refine (l.observes_resolve.map some).tryCatch fun r => ?_
  cases r with
  | interrupt i => exact Observes.throw _
  | failure f => cases f <;> first | exact Observes.pure _ | exact Observes.throw _

theorem observes_waitForElementBy (test : Test) (description : Option String) :
    Observes (l.waitForElementBy test.passes description) := by
  refine (Observes.ofParsed _).bind fun _ => Observes.waitFor _ ?_
  refine l.observes_tryResolve.bind fun found => ?_
  cases found with
  | none => exact Observes.pure none
  | some t => exact (test.observes t).bind fun _ => Observes.pure _

theorem observes_waitForElement (c : Condition) (description : Option String) :
    Observes (l.waitForElement c description) :=
  l.observes_waitForElementBy (.ofCondition c) description

theorem observes_textContent : Observes l.textContent :=
  (l.observes_waitForElement _ _).bind fun t => (Observes.look t _).bind fun _ => Observes.pure _

theorem observes_getValue : Observes l.getValue :=
  (l.observes_waitForElement _ _).bind fun t => (Observes.look t _).bind fun _ => Observes.pure _

theorem observes_singleShot (fallback : α) {query : Effect α} (hquery : Observes query) :
    Observes (l.singleShot fallback query) := by
  refine hquery.tryCatch fun r => ?_
  cases r with
  | interrupt i => exact Observes.throw _
  | failure f => exact (Observes.note _).bind fun _ => Observes.pure _

theorem observes_isVisible : Observes l.isVisible :=
  l.observes_singleShot false (l.observes_tryResolve.bind fun _ => Observes.pure _)

theorem observes_isEnabled : Observes l.isEnabled := by
  refine l.observes_singleShot false (l.observes_tryResolve.bind fun found => ?_)
  cases found with
  | none => exact Observes.pure _
  | some t => exact (Observes.look t _).bind fun _ => Observes.pure _

theorem observes_all : Observes l.all := l.observes_singleShot [] l.observes_search

theorem observes_count : Observes l.count := l.observes_all.bind fun _ => Observes.pure _

/-- An action is settled by the scene as well, but may change it. -/
theorem timeless_act (a : Action) (text : String) : Timeless (l.act a text) := by
  refine (l.observes_waitForElement _ _).timeless.bind fun t => (timeless_note _).bind fun _ => ?_
  exact ((timeless_perform a t text).dispatch a.name).bind fun _ => timeless_pure ()

end Locator

theorem Expectation.observes_check (e : Expectation) (c : Check) : Observes (e.check c) := by
  have hcurrent : Observes e.current := by
    refine e.locator.observes_tryResolve.tryCatch fun r => ?_
    cases r with
    | interrupt i => exact Observes.throw _
    | failure f => exact (Observes.note _).bind fun _ => Observes.pure _
  refine (Observes.ofParsed _).bind fun _ => Observes.waitFor _ (hcurrent.bind fun found => ?_)
  cases found with
  | none => exact Observes.pure _
  | some t => exact ((Observes.look t _).map some).bind fun _ => Observes.pure _

theorem Session.observes_treeSnapshot : Observes treeSnapshot := by
  refine Observes.readSource.bind fun i => ?_
  refine Observes.get_bind i (fun s => (Observes.check i _).bind fun _ => Observes.pure _) ?_
  intro s u h
  rw [h]

/-- What can be asked of a page and of its dispatcher. -/
inductive Query
  | resolve (l : Locator)
  | tryResolve (l : Locator)
  | all (l : Locator)
  | count (l : Locator)
  | isVisible (l : Locator)
  | isEnabled (l : Locator)
  | textContent (l : Locator)
  | getValue (l : Locator)
  | waitForElement (l : Locator) (test : Test) (description : Option String)
  | check (e : Expectation) (c : Check)
  | treeSnapshot
  | actions (name : Option String)

/-- What a step answers with. -/
inductive Answer
  | done
  | truth (b : Bool)
  | number (n : ℕ)
  | text (s : String)
  | value (v : Option String)
  | target (t : Target)
  | found (t : Option Target)
  | targets (ts : List Target)
  | events (es : List Event)
  | argument (x : Argument)
  deriving DecidableEq

def Query.effect : Query → Effect Answer
  | resolve l => .target <$> l.resolve
  | tryResolve l => .found <$> l.tryResolve
  | all l => .targets <$> l.all
  | count l => .number <$> l.count
  | isVisible l => .truth <$> l.isVisible
  | isEnabled l => .truth <$> l.isEnabled
  | textContent l => .text <$> l.textContent
  | getValue l => .value <$> l.getValue
  | waitForElement l test description => .target <$> l.waitForElementBy test.passes description
  | check e c => (fun _ => .done) <$> e.check c
  | treeSnapshot => .text <$> Session.treeSnapshot
  | actions name => do return .events ((← get).actions name)

theorem Query.observes (q : Query) : Observes q.effect := by
  cases q with
  | resolve l => exact l.observes_resolve.map _
  | tryResolve l => exact l.observes_tryResolve.map _
  | all l => exact l.observes_all.map _
  | count l => exact l.observes_count.map _
  | isVisible l => exact l.observes_isVisible.map _
  | isEnabled l => exact l.observes_isEnabled.map _
  | textContent l => exact l.observes_textContent.map _
  | getValue l => exact l.observes_getValue.map _
  | waitForElement l test description => exact (l.observes_waitForElementBy test description).map _
  | check e c => exact (e.observes_check c).map _
  | treeSnapshot => exact observes_treeSnapshot.map _
  | actions name =>
    refine ⟨keeps_get_bind fun _ => rfl, fun s u h => ?_⟩
    -- the history belongs to the scene
    have hactions : u.actions name = s.actions name := by
      rw [Session.actions, h.history, Session.actions]
    rw [effect, exec_get_bind, exec_get_bind, hactions]
    exact ⟨rfl, h⟩

/-! ## 3. Runs of steps -/

/-- What happens to a session: a query, an action by a locator, by the dispatcher itself or through
dispatch, a change made to a tree from outside, time. -/
inductive Step
  | query (q : Query)
  | act (l : Locator) (a : Action) (text : String)
  | perform (a : Action) (t : Target) (text : String)
  | dispatch (label : String) (a : Action) (t : Target) (text : String)
  | edit (i : ℕ) (f : Element → Element)
  | pass (ms : Int)

def Step.effect : Step → Effect Answer
  | query q => q.effect
  | act l a text => (fun _ => .done) <$> l.act a text
  | perform a t text => .argument <$> Session.perform a t text
  | dispatch label a t text => .argument <$> Session.dispatch label (Session.perform a t text)
  | edit i f => (fun _ => .done) <$> (modify (·.changeFrame i f) : Effect PUnit)
  | pass ms =>
    (fun _ => .done) <$> (modify fun s => { s with clock := s.clock + ms } : Effect PUnit)

theorem Step.timeless (x : Step) : Timeless x.effect := by
  cases x with
  | query q => exact q.observes.timeless
  | act l a text => exact (l.timeless_act a text).map _
  | perform a t text => exact (timeless_perform a t text).map _
  | dispatch label a t text => exact ((timeless_perform a t text).dispatch label).map _
  | edit i f => exact (timeless_changeFrame i f).map _
  | pass ms =>
    have htime : Timeless (modify fun s => { s with clock := s.clock + ms } : Effect PUnit) :=
      timeless_modify fun _ _ h => ⟨h.fixed, h.scene⟩
    exact htime.map _

namespace Session

/-- What the steps come to one after the other, whatever becomes of each, and the session after
them. -/
def run (s : Session) : List Step → List (Except Raised Answer) × Session
  | [] => ([], s)
  | x :: xs =>
    let (answer, t) := s.exec x.effect
    let (answers, u) := t.run xs
    (answer :: answers, u)

theorem run_cons (s : Session) (x : Step) (xs : List Step) :
    s.run (x :: xs) =
      ((s.exec x.effect).1 :: ((s.exec x.effect).2.run xs).1, ((s.exec x.effect).2.run xs).2) := rfl

/-- The items that are marked to stay. -/
def marked (items : List α) (marks : List Bool) : List α :=
  ((items.zip marks).filter (·.2)).map (·.1)

theorem marked_cons (a : α) (items : List α) (stays : Bool) (marks : List Bool) :
    marked (a :: items) (stays :: marks) =
      if stays then a :: marked items marks else marked items marks := by
  cases stays <;> rfl

/-- By induction on the steps: one that stays does the same in both runs, and one that goes leaves
the scene to those after it. -/
theorem Alike.run_marked {s u : Session} (h : s.Alike u) {steps : List Step} {marks : List Bool}
    (hmarks : marks.length = steps.length)
    (hgoes : ∀ x, (x, false) ∈ steps.zip marks → ∃ q, x = .query q) :
    (u.run (marked steps marks)).1 = marked (s.run steps).1 marks ∧
      (s.run steps).2.Alike (u.run (marked steps marks)).2 := by
  induction steps generalizing marks s u with
  | nil => exact ⟨rfl, h⟩
  | cons x steps ih =>
    cases marks with
    | nil => cases hmarks
    | cons stays marks =>
      have hlength : marks.length = steps.length := Nat.succ.inj hmarks
      have hrest : ∀ y, (y, false) ∈ steps.zip marks → ∃ q, y = .query q :=
        fun y hy => hgoes y (List.mem_cons_of_mem _ hy)
      rw [run_cons, marked_cons, marked_cons]
      cases stays with
      | true =>
        obtain ⟨hanswer, hafter⟩ := x.timeless s u h
        obtain ⟨hanswers, hlast⟩ := ih hafter hlength hrest
        simp only [if_true]
        rw [run_cons, hanswer, hanswers]
        exact ⟨rfl, hlast⟩
      | false =>
        obtain ⟨q, rfl⟩ := hgoes x List.mem_cons_self
        -- the other run stays where it is, in the scene that the query leaves
        have hkept : s.Alike (s.exec q.effect).2 := ⟨h.fixed, q.observes.keeps s⟩
        exact ih ⟨hkept.fixed_right, h.scene.trans hkept.scene.symm⟩ hlength hrest

/-- **Observing never disturbs.**  Over a page that is one tree, a run of steps is made without
any of its queries, whether these succeed, time out or fail.  Every other step comes to the same,
and the session after the run is the same as well, trees and history included, but for its clock and
its notes. -/
theorem observing_never_disturbs (s : Session) (hfixed : s.live = false) (steps : List Step)
    (marks : List Bool) (hmarks : marks.length = steps.length)
    (hgoes : ∀ x, (x, false) ∈ steps.zip marks → ∃ q, x = .query q) :
    (s.run (marked steps marks)).1 = marked (s.run steps).1 marks ∧
      ∃ clock notes, (s.run (marked steps marks)).2 = { (s.run steps).2 with clock, notes } := by
  have hself : s.Alike s := ⟨hfixed, rfl⟩
  obtain ⟨hanswers, hlast⟩ := hself.run_marked hmarks hgoes
  exact ⟨hanswers, hlast.exists_eq⟩

/-! ### A name that is typed under observation -/

def nameInput : Locator := { selector := "#name", timeout := 200, interval := 100 }

/-- The button does not come to be enabled in time, and nothing is found by a malformed selector. -/
def watchedTyping : List Step :=
  [.query (.check (.ofLocator { nameInput with selector := "#save" } none none) .enabled),
    .act nameInput .type "Ada",
    .query (.resolve { nameInput with selector := "[" }),
    .query (.getValue nameInput),
    .perform .click { frame := 0, path := [1] } ""]

def unwatched : List Bool := [false, true, false, true, true]

theorem observing_never_disturbs_watchedTyping :
    (nameForm.run watchedTyping).1.map Except.toOption =
      [none, some .done, none, some (.value (some "Ada")), none] ∧
    (nameForm.run watchedTyping).2.clock = 200 ∧
    (nameForm.run (marked watchedTyping unwatched)).1 =
      marked (nameForm.run watchedTyping).1 unwatched ∧
    (nameForm.run (marked watchedTyping unwatched)).2.clock = 0 ∧
    (nameForm.run (marked watchedTyping unwatched)).2.history =
      [{ action := .type, target := nameField, argument := .text "Ada" }] := by
  have hgoes : ∀ x, (x, false) ∈ watchedTyping.zip unwatched → ∃ q, x = .query q := by
    intro x hx
    obtain rfl | rfl : x = watchedTyping[0] ∨ x = watchedTyping[2] := by
      simpa [watchedTyping, unwatched] using hx
    · exact ⟨_, rfl⟩
    · exact ⟨_, rfl⟩
  have hhistory : (nameForm.run watchedTyping).2.history =
      [{ action := .type, target := nameField, argument := .text "Ada" }] := by
    decide +kernel
  obtain ⟨hanswers, clock, notes, hlast⟩ :=
    observing_never_disturbs nameForm rfl watchedTyping unwatched rfl hgoes
  refine ⟨by decide +kernel, by decide +kernel, hanswers, by decide +kernel, ?_⟩
  rw [hlast]
  exact hhistory

end Session

end UiTree
