import UiTree.Page.Locator

/-!
# Effects — steps of a session one after the other

`exec` is what comes of a step in a session: its outcome and the session it leaves.  A step made of
two comes to a value exactly when both do, the second one in the session that the first one leaves.
-/

namespace UiTree

variable {α β : Type}

namespace Session

def exec (s : Session) (x : Effect α) : Except Raised α × Session := x.run s

theorem exec_pure (s : Session) (a : α) : s.exec (pure a) = (.ok a, s) := rfl

theorem exec_throw (s : Session) (r : Raised) : s.exec (throw r : Effect α) = (.error r, s) := rfl

theorem exec_fail (s : Session) (f : Failure) :
    s.exec (fail f : Effect α) = (.error (.failure f), s) := rfl

theorem exec_get_bind (s : Session) (k : Session → Effect α) : s.exec (get >>= k) = s.exec (k s) :=
  rfl

theorem exec_set_bind (s t : Session) (k : PUnit → Effect α) :
    s.exec (set t >>= k) = t.exec (k ()) := rfl

theorem exec_note (s : Session) (r : Record) :
    s.exec (note r) = (.ok (), { s with notes := s.notes ++ [r] }) := rfl

theorem exec_bind (s : Session) (x : Effect α) (k : α → Effect β) :
    s.exec (x >>= k) = match s.exec x with
      | (.ok a, t) => t.exec (k a)
      | (.error r, t) => (.error r, t) := by
  -- the second step is chosen by the outcome of the first, and begins in the session it leaves
  have hstep : s.exec (x >>= k) = ExceptT.bindCont k (s.exec x).1 (s.exec x).2 := rfl
  rw [hstep]
  rcases s.exec x with ⟨o, t⟩
  cases o with
  | ok a => rfl
  | error r => rfl

theorem exec_bind_eq_ok {s u : Session} {x : Effect α} {k : α → Effect β} {b : β} :
    s.exec (x >>= k) = (.ok b, u) ↔
      ∃ a t, s.exec x = (.ok a, t) ∧ t.exec (k a) = (.ok b, u) := by
  rw [exec_bind]
  cases hx : s.exec x with
  | mk o t =>
    cases o with
    | error r => simp
    | ok a => simp [and_assoc]

theorem exec_map (s : Session) (f : α → β) (x : Effect α) :
    s.exec (f <$> x) = ((s.exec x).1.map f, (s.exec x).2) := by
  rw [map_eq_pure_bind, exec_bind]
  rcases s.exec x with ⟨o, t⟩
  cases o with
  | ok a => rfl
  | error r => rfl

theorem exec_tryCatch (s : Session) (x : Effect α) (handle : Raised → Effect α) :
    s.exec (tryCatch x handle) = match s.exec x with
      | (.ok a, t) => (.ok a, t)
      | (.error r, t) => t.exec (handle r) := by
  -- what may be caught is the outcome of the step, in the session that it leaves
  have hstep : s.exec (tryCatch x handle) =
      (s.exec x).2.exec (tryCatch (ExceptT.mk (pure (s.exec x).1)) handle) := rfl
  rw [hstep]
  rcases s.exec x with ⟨o, t⟩
  cases o with
  | ok a => rfl
  | error r => rfl

theorem exec_ofParsed_eq_ok {s t : Session} {p : Except Failure α} {a : α} :
    s.exec (ofParsed p) = (.ok a, t) ↔ p = .ok a ∧ t = s := by
  cases p with
  | error f => simp [ofParsed, exec_fail]
  | ok b => simp [ofParsed, exec_pure, eq_comm]

theorem exec_check_eq_ok {s t : Session} {i : Nat} {readings : List Selector.Reading} :
    s.exec (check i readings) = (.ok (), t) ↔
      Outage.first? (s.frame i).outages readings = none ∧ t = s := by
  rw [check, exec_get_bind]
  cases Outage.first? (s.frame i).outages readings with
  | none => simp [exec_pure, eq_comm]
  | some r => simp [exec_throw]

/-- What comes of a step that may be refused: the refusal, in the session as it then is. -/
def barring (s : Session) (refusal : Option Raised) (done : Except Raised α × Session) :
    Except Raised α × Session :=
  match refusal with
  | some r => (.error r, s)
  | none => done

theorem barring_or (s : Session) (refusal other : Option Raised)
    (done : Except Raised α × Session) :
    s.barring (refusal.or other) done = s.barring refusal (s.barring other done) := by
  cases refusal with
  | some r => rfl
  | none => rfl

theorem exec_bind_of_barring {s refused t : Session} {x : Effect α} {refusal : Option Raised}
    {a : α} (h : s.exec x = refused.barring refusal (.ok a, t)) (k : α → Effect β) :
    s.exec (x >>= k) = refused.barring refusal (t.exec (k a)) := by
  rw [exec_bind, h]
  cases refusal with
  | some r => rfl
  | none => rfl

theorem exec_check (s : Session) (i : Nat) (readings : List Selector.Reading) :
    s.exec (check i readings) =
      s.barring (Outage.first? (s.frame i).outages readings) (.ok (), s) := by
  rw [check, exec_get_bind]
  cases Outage.first? (s.frame i).outages readings with
  | none => rfl
  | some r => rfl

theorem exec_look (s : Session) (t : Target) (wanted : List Attribute) :
    s.exec (look t wanted) =
      s.barring (Outage.first? (s.frame t.frame).outages (wanted.map (t.path, ·)))
        (.ok (s.attributes t), s) := by
  rw [look, exec_bind_of_barring (s.exec_check t.frame _)]
  rfl

/-- The number of the frame that answers when the source is asked next. -/
def upcoming (s : Session) : Nat := s.frameAt (s.reads + 1) s.clock

/-- The session after its source was asked once more. -/
def asked (s : Session) : Session := { s with readings := s.readings ++ [s.clock] }

theorem exec_readSource {s : Session} (hlive : s.live = true) :
    s.exec readSource = match (s.frame s.upcoming).failing with
      | some r => (.error r, s.asked)
      | none => (.ok s.upcoming, s.asked) := by
  have hupcoming : s.frameAt s.asked.reads s.clock = s.upcoming := by
    rw [upcoming, reads, asked, List.length_append]
    rfl
  rw [readSource, exec_get_bind, if_pos hlive, exec_set_bind]
  change s.asked.exec (match (s.frame (s.frameAt s.asked.reads s.clock)).failing with
    | some r => throw r
    | none => pure (s.frameAt s.asked.reads s.clock)) = _
  rw [hupcoming]
  cases (s.frame s.upcoming).failing with
  | none => rfl
  | some r => rfl

theorem attempt_of_exec {body : Effect (Option α)} {now : Int} {s t : Session}
    {result : Except Raised (Option α)}
    (h : { s with clock := now, notes := [] }.exec body = (result, t)) :
    attempt body now s =
      { reply := .ofResult result, notes := t.notes, state := { t with notes := s.notes } } := by
  have hrun : body.run { s with clock := now, notes := [] } = (result, t) := h
  rw [attempt, hrun]

theorem exec_waitFor (s : Session) (w : Wait) (body : Effect (Option α)) :
    s.exec (waitFor w body) =
      let polled := w.poll (attempt body) s.clock s
      (polled.outcome,
        { polled.state with clock := polled.clock, notes := s.notes ++ polled.notes }) := by
  rw [waitFor, exec_get_bind]
  simp only [exec_set_bind]
  cases (w.poll (attempt body) s.clock s).outcome with
  | ok a => rfl
  | error r => rfl

/-! ## What a step leaves as it is -/

/-- However the step ends, this view of the session is what it was before. -/
def Keeps (view : Session → β) (x : Effect α) : Prop :=
  ∀ s, view (s.exec x).2 = view s

variable {γ : Type} {view : Session → γ}

theorem keeps_pure (a : α) : Keeps view (pure a : Effect α) := fun _ => rfl

theorem keeps_throw (r : Raised) : Keeps view (throw r : Effect α) := fun _ => rfl

theorem keeps_modify {f : Session → Session} (h : ∀ s, view (f s) = view s) :
    Keeps view (modify f : Effect PUnit) := h

/-- A step that begins by looking at the session. -/
theorem keeps_get_bind {k : Session → Effect α} (h : ∀ s, view (s.exec (k s)).2 = view s) :
    Keeps view (get >>= k) := h

theorem Keeps.bind {x : Effect α} {k : α → Effect β} (hx : Keeps view x)
    (hk : ∀ a, Keeps view (k a)) : Keeps view (x >>= k) := by
  intro s
  have hstep := hx s
  rw [exec_bind]
  rcases hexec : s.exec x with ⟨o, t⟩
  rw [hexec] at hstep
  cases o with
  | error r => exact hstep
  | ok a => exact (hk a t).trans hstep

theorem keeps_ofParsed (p : Except Failure α) : Keeps view (ofParsed p) := by
  cases p with
  | ok a => exact keeps_pure a
  | error f => exact keeps_throw (.failure f)

theorem keeps_check (i : Nat) (readings : List Selector.Reading) :
    Keeps view (check i readings) := by
  refine keeps_get_bind fun s => ?_
  cases Outage.first? (s.frame i).outages readings with
  | none => rfl
  | some r => rfl

theorem keeps_look (t : Target) (wanted : List Attribute) : Keeps view (look t wanted) :=
  (keeps_check _ _).bind fun _ => keeps_get_bind fun _ => rfl

end Session

end UiTree
