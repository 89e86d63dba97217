import UiTree.Proofs.Page.Keeping
import UiTree.Proofs.Page.Perform
import UiTree.Proofs.Wait.Polling

/-!
# Scenes — what a session is apart from its clock

The scene of a session is all of it but the clock and the notes.  On a page that is one tree the
clock settles nothing: two sessions in the same scene do the same step alike, for a wait counts the
time from its own start, and reading the tree does not ask what time it is.
-/

namespace UiTree

variable {σ α β : Type}

/-! ## 1. Waits at different clocks -/

/-- Attempts that correspond come to the same reply in the same time, and correspond again. -/
def Corresponds (R : σ → σ → Prop) (attempt : Int → σ → Attempt σ α) : Prop :=
  ∀ now now' x y, R x y →
    (attempt now' y).reply = (attempt now x).reply ∧ (attempt now' y).cost = (attempt now x).cost ∧
      R (attempt now x).state (attempt now' y).state

/-- By induction on the time that is left, which is the same for both waits. -/
theorem Wait.resume_shifted (w : Wait) {attempt : Int → σ → Attempt σ α} {R : σ → σ → Prop}
    (h : Corresponds R attempt) {deadline : Int} (shift : Int) {p q : Pending σ}
    (hclock : q.clock = p.clock + shift) (hlast : q.last = p.last) (hstate : R p.state q.state) :
    (w.resume attempt (deadline + shift) q).outcome = (w.resume attempt deadline p).outcome ∧
      R (w.resume attempt deadline p).state (w.resume attempt (deadline + shift) q).state := by
  induction hleft : (deadline - p.clock).toNat using Nat.strong_induction_on generalizing p q with
  | _ left ih =>
    obtain ⟨hreply, hcost, hafter⟩ := h p.clock q.clock p.state q.state hstate
    -- one deadline has come when the other has
    by_cases hlate : deadline ≤ p.clock
    · have hlate' : deadline + shift ≤ q.clock := by omega
      rw [resume_of_deadline_le w attempt hlate, resume_of_deadline_le w attempt hlate', hlast]
      exact ⟨rfl, hstate⟩
    · have hearly : p.clock < deadline := by omega
      have hearly' : q.clock < deadline + shift := by omega
      cases hending : (attempt p.clock p.state).reply.ending with
      | some r =>
        have hending' := hreply ▸ hending
        rw [resume_of_ending w attempt hearly hending, resume_of_ending w attempt hearly' hending']
        exact ⟨rfl, hafter⟩
      | none =>
        -- both waits pause for the same time
        have hending' := hreply ▸ hending
        rw [resume_of_ending_eq_none w attempt hearly hending,
          resume_of_ending_eq_none w attempt hearly' hending']
        have hpause := w.pause_pos
        refine ih _ ?_ ?_ ?_ hafter rfl
        · show (deadline - (p.clock + (attempt p.clock p.state).cost + w.pause)).toNat < left
          omega
        · show q.clock + (attempt q.clock q.state).cost + w.pause =
            p.clock + (attempt p.clock p.state).cost + w.pause + shift
          rw [hclock] at hcost ⊢
          rw [hcost]
          omega
        · show (attempt q.clock q.state).reply.failure?.or q.last =
            (attempt p.clock p.state).reply.failure?.or p.last
          rw [hreply, hlast]

theorem Wait.poll_shifted (w : Wait) {attempt : Int → σ → Attempt σ α} {R : σ → σ → Prop}
    (h : Corresponds R attempt) (start start' : Int) {x y : σ} (hxy : R x y) :
    (w.poll attempt start' y).outcome = (w.poll attempt start x).outcome ∧
      R (w.poll attempt start x).state (w.poll attempt start' y).state := by
  have hdeadline : w.deadlineFrom start' = w.deadlineFrom start + (start' - start) := by
    rw [deadlineFrom, deadlineFrom]
    omega
  rw [poll_eq_resume, poll_eq_resume, hdeadline]
  refine w.resume_shifted h (start' - start) ?_ rfl hxy
  show start' = start + (start' - start)
  omega

/-! ## 2. Sessions in the same scene -/

namespace Session

/-- What there is of a session besides its clock and its notes, if the page is one tree. -/
def scene? (s : Session) : Option Session :=
  if s.live then none else some { s with clock := 0, notes := [] }

/-- Two sessions in the same scene, over a page that is one tree. -/
structure Alike (s u : Session) : Prop where
  fixed : s.live = false
  scene : u.scene? = s.scene?

variable {s u : Session}

theorem Alike.exists_eq (h : s.Alike u) : ∃ clock notes, u = { s with clock, notes } := by
  have hscene := h.scene
  have hfixed : ¬ s.live = true := by simp [h.fixed]
  rw [scene?, scene?, if_neg hfixed] at hscene
  -- a live source belongs to no scene
  by_cases hlive : u.live = true
  · rw [if_pos hlive] at hscene
    cases hscene
  · rw [if_neg hlive, Option.some.injEq] at hscene
    refine ⟨u.clock, u.notes, ?_⟩
    exact congrArg (fun t : Session => { t with clock := u.clock, notes := u.notes }) hscene

theorem Alike.fixed_right (h : s.Alike u) : u.live = false := by
  obtain ⟨_, _, rfl⟩ := h.exists_eq
  exact h.fixed

theorem Alike.frame (h : s.Alike u) (i : Nat) : u.frame i = s.frame i := by
  obtain ⟨_, _, rfl⟩ := h.exists_eq
  rfl

theorem Alike.history (h : s.Alike u) : u.history = s.history := by
  obtain ⟨_, _, rfl⟩ := h.exists_eq
  rfl

theorem Alike.changeFrame (h : s.Alike u) (i : Nat) (f : Element → Element) :
    (s.changeFrame i f).Alike (u.changeFrame i f) := by
  obtain ⟨_, _, rfl⟩ := h.exists_eq
  exact ⟨h.fixed, rfl⟩

/-- What the step comes to, and the scene it leaves, are settled by the scene it begins in. -/
def Timeless (x : Effect α) : Prop :=
  ∀ s u : Session, s.Alike u → (u.exec x).1 = (s.exec x).1 ∧ (s.exec x).2.Alike (u.exec x).2

theorem timeless_pure (a : α) : Timeless (pure a : Effect α) := fun _ _ h => ⟨rfl, h⟩

theorem timeless_throw (r : Raised) : Timeless (throw r : Effect α) := fun _ _ h => ⟨rfl, h⟩

theorem timeless_modify {f : Session → Session}
    (h : ∀ s u : Session, s.Alike u → (f s).Alike (f u)) :
    Timeless (modify f : Effect PUnit) :=
  fun s u hsu => ⟨rfl, h s u hsu⟩

theorem Timeless.bind {x : Effect α} {k : α → Effect β} (hx : Timeless x)
    (hk : ∀ a, Timeless (k a)) : Timeless (x >>= k) := by
  intro s u h
  obtain ⟨houtcome, hafter⟩ := hx s u h
  rcases hs : s.exec x with ⟨o, t⟩
  rcases hu : u.exec x with ⟨o', t'⟩
  rw [hs, hu] at houtcome hafter
  rw [exec_bind, exec_bind, hs, hu]
  obtain rfl : o' = o := houtcome
  cases o' with
  | error r => exact ⟨rfl, hafter⟩
  | ok a => exact hk a t t' hafter

theorem Timeless.tryCatch {x : Effect α} {handle : Raised → Effect α} (hx : Timeless x)
    (hhandle : ∀ r, Timeless (handle r)) : Timeless (tryCatch x handle) := by
  intro s u h
  obtain ⟨houtcome, hafter⟩ := hx s u h
  rcases hs : s.exec x with ⟨o, t⟩
  rcases hu : u.exec x with ⟨o', t'⟩
  rw [hs, hu] at houtcome hafter
  rw [exec_tryCatch, exec_tryCatch, hs, hu]
  obtain rfl : o' = o := houtcome
  cases o' with
  | ok a => exact ⟨rfl, hafter⟩
  | error r => exact hhandle r t t' hafter

theorem Timeless.map {x : Effect α} (hx : Timeless x) (f : α → β) : Timeless (f <$> x) := by
  rw [map_eq_pure_bind]
  exact hx.bind fun a => timeless_pure (f a)

theorem timeless_ofParsed (p : Except Failure α) : Timeless (ofParsed p) := by
  cases p with
  | ok a => exact timeless_pure a
  | error f => exact timeless_throw (.failure f)

theorem timeless_note (r : Record) : Timeless (note r) :=
  timeless_modify fun _ _ h => ⟨h.fixed, h.scene⟩

theorem timeless_check (i : Nat) (readings : List Selector.Reading) :
    Timeless (check i readings) := by
  intro s u h
  rw [exec_check, exec_check, h.frame i]
  cases Outage.first? (s.frame i).outages readings with
  | none => exact ⟨rfl, h⟩
  | some r => exact ⟨rfl, h⟩

theorem timeless_look (t : Target) (wanted : List Attribute) : Timeless (look t wanted) := by
  refine (timeless_check _ _).bind fun _ => ?_
  intro s u h
  rw [exec_get_bind, exec_get_bind, attributes, h.frame t.frame]
  exact timeless_pure (s.attributes t) s u h

/-- A page that is one tree is not asked. -/
theorem timeless_readSource : Timeless readSource := by
  intro s u h
  have hread : ∀ t : Session, t.live = false → t.exec readSource = (.ok 0, t) := by
    intro t ht
    rw [readSource, exec_get_bind, ht]
    rfl
  rw [hread s h.fixed, hread u h.fixed_right]
  exact ⟨rfl, h⟩

/-- A wait counts the time from its own start. -/
theorem timeless_waitFor (w : Wait) {body : Effect (Option α)} (hbody : Timeless body) :
    Timeless (waitFor w body) := by
  have hattempts : Corresponds Alike (attempt body) := by
    intro now now' s u h
    -- the attempts begin at their clocks without notes, and those of the sessions are put back
    have hbegin : Session.Alike { s with clock := now, notes := [] }
        { u with clock := now', notes := [] } := ⟨h.fixed, h.scene⟩
    obtain ⟨houtcome, hafter⟩ := hbody _ _ hbegin
    rcases hs : { s with clock := now, notes := [] }.exec body with ⟨o, t⟩
    rcases hu : { u with clock := now', notes := [] }.exec body with ⟨o', t'⟩
    rw [hs, hu] at houtcome hafter
    rw [attempt_of_exec hs, attempt_of_exec hu]
    exact ⟨congrArg Reply.ofResult houtcome, rfl, hafter.fixed, hafter.scene⟩
  intro s u h
  obtain ⟨houtcome, hafter⟩ := w.poll_shifted hattempts s.clock u.clock h
  rw [exec_waitFor, exec_waitFor]
  exact ⟨houtcome, hafter.fixed, hafter.scene⟩

/-! ## 3. The dispatcher -/

theorem timeless_checkFailing (a : Action) : Timeless (checkFailing a) := by
  intro s u h
  have hfailing : u.failing = s.failing := by
    obtain ⟨_, _, rfl⟩ := h.exists_eq
    rfl
  rw [exec_checkFailing, exec_checkFailing, hfailing]
  cases s.failing.lookup a with
  | none => exact ⟨rfl, h⟩
  | some r => exact ⟨rfl, h⟩

theorem timeless_requireEnabled (a : Action) (t : Target) : Timeless (requireEnabled a t) := by
  refine (timeless_look t _).bind fun x => ?_
  cases x.enabled with
  | true => exact timeless_pure _
  | false => exact timeless_throw _

theorem timeless_record (a : Action) (t : Target) (x : Argument) : Timeless (record a t x) := by
  refine timeless_modify fun s u h => ?_
  obtain ⟨_, _, rfl⟩ := h.exists_eq
  exact ⟨h.fixed, rfl⟩

theorem timeless_changeFrame (i : Nat) (f : Element → Element) :
    Timeless (modify (·.changeFrame i f) : Effect PUnit) :=
  timeless_modify fun _ _ h => h.changeFrame i f

theorem timeless_change (t : Target) (f : Attributes → Attributes) : Timeless (change t f) :=
  timeless_changeFrame t.frame _

theorem timeless_moveFocus (t : Target) : Timeless (moveFocus t) := by
  intro s u h
  have hhome : u.dispatcherFrame = s.dispatcherFrame := by
    obtain ⟨_, _, rfl⟩ := h.exists_eq
    rfl
  rw [moveFocus, exec_get_bind, exec_get_bind, hhome]
  cases s.dispatcherFrame with
  | none => exact ⟨rfl, h⟩
  | some i =>
    simp only [h.frame i]
    rw [exec_set_bind, exec_set_bind]
    exact timeless_check _ _ _ _ (h.changeFrame _ _)

theorem timeless_focus (t : Target) : Timeless (focus t) :=
  (timeless_checkFailing _).bind fun _ =>
    (timeless_moveFocus t).bind fun _ => timeless_record _ _ _

theorem timeless_perform (a : Action) (t : Target) (text : String) :
    Timeless (perform a t text) := by
  have hready : ∀ a, Timeless (requireEnabled a t) := fun a => timeless_requireEnabled a t
  cases a with
  | click =>
    refine Timeless.bind ?_ fun _ => timeless_pure _
    exact (timeless_checkFailing _).bind fun _ => (hready _).bind fun _ => timeless_record _ _ _
  | doubleClick =>
    refine Timeless.bind ?_ fun _ => timeless_pure _
    exact (timeless_checkFailing _).bind fun _ => (hready _).bind fun _ => timeless_record _ _ _
  | type =>
    refine Timeless.bind ?_ fun _ => timeless_pure _
    refine (timeless_checkFailing _).bind fun _ => (hready _).bind fun _ => ?_
    refine (timeless_look t _).bind fun x => (timeless_change t _).bind fun _ => ?_
    exact timeless_record _ _ _
  | clear =>
    refine Timeless.bind ?_ fun _ => timeless_pure _
    refine (timeless_checkFailing _).bind fun _ => (hready _).bind fun _ => ?_
    exact (timeless_change t _).bind fun _ => timeless_record _ _ _
  | focus =>
    exact (timeless_focus t).bind fun _ => timeless_pure _
  | pressKey =>
    refine Timeless.bind ?_ fun _ => timeless_pure _
    refine (timeless_checkFailing _).bind fun _ => (timeless_ofParsed _).bind fun chord => ?_
    exact (timeless_focus t).bind fun _ => (timeless_record _ _ _).bind fun _ => timeless_pure _

/-- Dispatch takes the time, but only to note it. -/
theorem Timeless.dispatch {body : Effect α} (hbody : Timeless body) (label : String) :
    Timeless (dispatch label body) := by
  intro s u h
  obtain ⟨houtcome, hafter⟩ := hbody s u h
  rw [exec_dispatch, exec_dispatch, houtcome]
  exact ⟨rfl, hafter.fixed, hafter.scene⟩

end Session

end UiTree
