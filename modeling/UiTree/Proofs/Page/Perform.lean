import UiTree.Proofs.Page.Dispatcher
import UiTree.Proofs.Page.Replay

/-!
# Performing — what an action of the dispatcher comes to

An action is refused before it has changed anything, or it is done.  Then it is recorded as its own
events, and the frames are as these events leave them.
-/

namespace UiTree

/-- The events of an action that is done: an element has the focus before it gets keys. -/
def Action.events (a : Action) (t : Target) (text : String) : List Event :=
  match a with
  | .type => [{ action := .type, target := t, argument := .text text }]
  | .pressKey =>
    match KeyChord.parse text with
    | .ok chord =>
      [{ action := .focus, target := t, argument := .none },
        { action := .pressKey, target := t, argument := .chord chord }]
    | .error _ => []
  | a => [{ action := a, target := t, argument := .none }]

namespace Session

variable {α β : Type} (s : Session) (a : Action) (t : Target)

/-! ## 1. Why an action is refused -/

/-- What reading an attribute raises. -/
def outage? (x : Attribute) : Option Raised :=
  Outage.at? (s.frame t.frame).outages (t.path, x)

/-- Why an element is not fit for an action that needs an enabled one. -/
def unfit? : Option Raised :=
  (s.outage? t .enabled).or <|
    if (s.attributes t).enabled then none
    else some (.failure (.actionFailed a.name "element is disabled"))

/-- Why an action is refused. -/
def refusal? (text : String) : Option Raised :=
  (s.failing.lookup a).or <|
    match a with
    | .click | .doubleClick | .clear => s.unfit? a t
    | .type => (s.unfit? a t).or (s.outage? t .value)
    | .focus => none
    | .pressKey =>
      match KeyChord.parse text with
      | .ok _ => s.failing.lookup .focus
      | .error f => some (.failure f)

theorem exec_checkFailing :
    s.exec (checkFailing a) = s.barring (s.failing.lookup a) (.ok (), s) := by
  rw [checkFailing, exec_get_bind]
  cases s.failing.lookup a with
  | some r => rfl
  | none => rfl

theorem exec_look_singleton (x : Attribute) :
    s.exec (look t [x]) = s.barring (s.outage? t x) (.ok (s.attributes t), s) := by
  have hfirst : Outage.first? (s.frame t.frame).outages [(t.path, x)] = s.outage? t x := by
    rw [Outage.first?, List.findSome?_singleton, outage?]
  rw [exec_look, List.map_singleton, hfirst]

theorem exec_requireEnabled :
    s.exec (requireEnabled a t) = s.barring (s.unfit? a t) (.ok (), s) := by
  rw [requireEnabled, exec_bind_of_barring (s.exec_look_singleton t .enabled), unfit?, barring_or]
  congr 1
  cases (s.attributes t).enabled with
  | true => rfl
  | false => rfl

/-- What needs an enabled element is preceded by two checks. -/
theorem exec_guarded (body : Effect α) :
    s.exec (checkFailing a >>= fun _ => requireEnabled a t >>= fun _ => body) =
      s.barring ((s.failing.lookup a).or (s.unfit? a t)) (s.exec body) := by
  rw [exec_bind_of_barring (s.exec_checkFailing a),
    exec_bind_of_barring (s.exec_requireEnabled a t), barring_or]

/-! ## 2. What is done -/

/-- The session after events were recorded. -/
def recorded (events : List Event) : Session :=
  { s with
    frames := Event.replay s.dispatcherFrame s.frames events
    history := s.history ++ events }

theorem recorded_recorded (events more : List Event) :
    (s.recorded events).recorded more = s.recorded (events ++ more) := by
  simp only [recorded, Event.replay, List.foldl_append, List.append_assoc]

/-- What changes no tree is recorded and nothing else. -/
theorem exec_record_idle (x : Argument) (h : ∀ home frames,
      Event.apply home frames { action := a, target := t, argument := x } = frames) :
    s.exec (record a t x) = (.ok (), s.recorded [{ action := a, target := t, argument := x }]) := by
  rw [recorded, Event.replay, List.foldl_cons, List.foldl_nil, h]
  rfl

/-- Only the tree that a frame has now is changed. -/
theorem changeFrame_congr (i : ℕ) {f g : Element → Element}
    (h : f (s.frame i).tree = g (s.frame i).tree) : s.changeFrame i f = s.changeFrame i g := by
  have hframes : s.frames.modify i (fun frame => { frame with tree := f frame.tree }) =
      s.frames.modify i (fun frame => { frame with tree := g frame.tree }) := by
    apply List.ext_getElem?
    intro j
    rw [List.getElem?_modify, List.getElem?_modify]
    by_cases hij : i = j
    · subst hij
      cases hi : s.frames[i]? with
      | none => rfl
      | some frame =>
        have hframe : s.frame i = frame := by rw [Session.frame, hi, Option.getD_some]
        rw [hframe] at h
        simp [h]
    · simp [hij]
  rw [changeFrame, hframes, changeFrame]

/-- A value that is written is recorded.  The element is looked at before it is changed, so the text
that is written goes to the end of the value it has. -/
theorem exec_change_record (x : Argument) (f : Attributes → Attributes)
    (ha : a = .type ∨ a = .clear)
    (hf : f (s.attributes t) = { s.attributes t with
      value := Event.onValue { action := a, target := t, argument := x } (s.attributes t).value }) :
    s.exec (change t f >>= fun _ => record a t x) =
      (.ok (), s.recorded [{ action := a, target := t, argument := x }]) := by
  let e : Event := { action := a, target := t, argument := x }
  let g : Attributes → Attributes := fun b => { b with value := e.onValue b.value }
  have happly : e.apply s.dispatcherFrame s.frames =
      Frame.changeTree t.frame (Element.modify g t.path) s.frames := by
    rcases ha with rfl | rfl <;> rfl
  have hchange : s.changeFrame t.frame (Element.modify f t.path) =
      s.changeFrame t.frame (Element.modify g t.path) := by
    apply changeFrame_congr
    apply Element.modify_congr
    intro y hy
    have hattributes : s.attributes t = y.attributes := by
      rw [attributes, hy, Option.map_some, Option.getD_some]
    rwa [hattributes] at hf
  have hexec : s.exec (change t f >>= fun _ => record a t x) =
      (s.changeFrame t.frame (Element.modify f t.path)).exec (record a t x) := rfl
  rw [hexec, hchange, recorded, Event.replay, List.foldl_cons, List.foldl_nil, happly]
  rfl

/-- Without outages a walk comes to its end. -/
theorem reached_nil (walk : List Located) : reached [] walk = walk := by
  induction walk with
  | nil => rfl
  | cons n walk ih => rw [reached, ih]; rfl

/-- The session with its frames changed. -/
def withFrames (frames : List Frame) : Session := { s with frames }

/-- Nothing in the dispatcher's tree is out. -/
def HomeReadable (s : Session) : Prop :=
  ∀ i, s.dispatcherFrame = some i → (s.frame i).outages = []

variable {s} (hs : s.HomeReadable)
include hs

theorem exec_moveFocus :
    s.exec (moveFocus t) = (.ok (), s.withFrames (Event.apply s.dispatcherFrame s.frames
      { action := .focus, target := t, argument := .none })) := by
  rw [moveFocus, exec_get_bind]
  cases hhome : s.dispatcherFrame with
  | none => rfl
  | some i =>
    have houtages : (s.frame i).outages = [] := hs i hhome
    have hwalk : (s.frame i).tree.root :: (s.frame i).tree.root.descendants =
        (s.frame i).tree.preorder := (Located.preorder_eq_cons _).symm
    simp only [houtages, reached_nil, hwalk]
    -- the change comes before the check, which finds nothing out
    have hafter : ∀ f, ((s.changeFrame i f).frame i).outages = [] := fun f =>
      (Frame.outages_changeTree i i f s.frames).trans houtages
    rw [exec_set_bind, exec_check_eq_ok, hafter]
    refine ⟨Outage.first?_nil _, ?_⟩
    change s.changeFrame i (moveFocusIn (if t.frame == i then some t.path else none)) = _
    exact s.changeFrame_congr i rfl

theorem exec_focus :
    s.exec (focus t) = s.barring (s.failing.lookup .focus)
      (.ok (), s.recorded [{ action := .focus, target := t, argument := .none }]) := by
  rw [focus, exec_bind_of_barring (s.exec_checkFailing .focus), exec_bind, exec_moveFocus t hs]
  rfl

/-- The keys are read before the focus moves, and nothing is recorded if they are no chord. -/
theorem exec_pressKey {text : String} {chord : KeyChord}
    (hparse : KeyChord.parse text = .ok chord) :
    s.exec (pressKey t text) = s.barring (s.refusal? .pressKey t text)
      (.ok chord, s.recorded (Action.events .pressKey t text)) := by
  rw [pressKey, exec_bind_of_barring (s.exec_checkFailing .pressKey), exec_bind, hparse, ofParsed,
    exec_pure]
  simp only []
  rw [exec_bind_of_barring (exec_focus t hs), exec_bind,
    exec_record_idle _ .pressKey t _ fun _ _ => rfl, recorded_recorded]
  simp only [refusal?, Action.events, hparse, barring_or]
  rfl

/-- What an action answers with. -/
def answer (a : Action) (text : String) : Argument :=
  match a, KeyChord.parse text with
  | .pressKey, .ok chord => .chord chord
  | _, _ => .none

/-- **An action is refused or done.**  A refusal leaves the session as it is; what is done is
recorded as the events of the action, and the frames are as these events leave them. -/
theorem exec_perform (text : String) :
    s.exec (perform a t text) =
      s.barring (s.refusal? a t text) (.ok (answer a text), s.recorded (a.events t text)) := by
  cases a with
  | click =>
    have hclick : s.exec (click t) = s.barring (s.refusal? .click t text)
        (.ok (), s.recorded (Action.events .click t text)) := by
      rw [click, exec_guarded, exec_record_idle s .click t .none fun _ _ => rfl]
      rfl
    exact exec_bind_of_barring hclick _
  | doubleClick =>
    have hclick : s.exec (doubleClick t) = s.barring (s.refusal? .doubleClick t text)
        (.ok (), s.recorded (Action.events .doubleClick t text)) := by
      rw [doubleClick, exec_guarded, exec_record_idle s .doubleClick t .none fun _ _ => rfl]
      rfl
    exact exec_bind_of_barring hclick _
  | clear =>
    have hclear : s.exec (clear t) = s.barring (s.refusal? .clear t text)
        (.ok (), s.recorded (Action.events .clear t text)) := by
      rw [clear, exec_guarded, exec_change_record s .clear t .none _ (.inr rfl) rfl]
      rfl
    exact exec_bind_of_barring hclear _
  | type =>
    have htype : s.exec (type t text) = s.barring (s.refusal? .type t text)
        (.ok (), s.recorded (Action.events .type t text)) := by
      rw [type, exec_guarded, exec_bind_of_barring (s.exec_look_singleton t .value),
        exec_change_record s .type t (.text text) _ (.inl rfl) rfl, ← barring_or, Option.or_assoc]
      rfl
    exact exec_bind_of_barring htype _
  | focus =>
    have hfocus : s.exec (focus t) = s.barring (s.refusal? .focus t text)
        (.ok (), s.recorded (Action.events .focus t text)) := by
      rw [exec_focus t hs, refusal?, Option.or_none]
      rfl
    exact exec_bind_of_barring hfocus _
  | pressKey =>
    cases hparse : KeyChord.parse text with
    | ok chord =>
      have hanswer : answer .pressKey text = .chord chord := by simp only [answer, hparse]
      rw [hanswer]
      exact exec_bind_of_barring (exec_pressKey t hs hparse) _
    | error f =>
      change s.exec (pressKey t text >>= fun chord => pure (Argument.chord chord)) = _
      rw [exec_bind, pressKey, exec_bind_of_barring (s.exec_checkFailing .pressKey), refusal?,
        hparse]
      cases s.failing.lookup .pressKey with
      | some r => rfl
      | none => rfl

omit hs in
/-- What is not refused has events of its own, all of them on its target. -/
theorem map_events {text : String} (h : s.refusal? a t text = none) :
    (a.events t text).map (fun e => (e.action, e.target)) =
      if a = .pressKey then [(.focus, t), (.pressKey, t)] else [(a, t)] := by
  cases a with
  | pressKey =>
    cases hparse : KeyChord.parse text with
    | ok chord => simp [Action.events, hparse]
    | error f => simp [refusal?, hparse] at h
  | _ => rfl

theorem perform_cases (text : String) :
    (∃ r, s.exec (perform a t text) = (.error r, s)) ∨
      (a.events t text).map (fun e => (e.action, e.target)) =
          (if a = .pressKey then [(.focus, t), (.pressKey, t)] else [(a, t)]) ∧
        ∃ x, s.exec (perform a t text) = (.ok x, s.recorded (a.events t text)) := by
  rw [exec_perform a t hs]
  cases hrefusal : s.refusal? a t text with
  | some r => exact .inl ⟨r, rfl⟩
  | none => exact .inr ⟨map_events a t hrefusal, _, rfl⟩

end Session

/-! ## 3. A dispatcher that does not fail -/

namespace Action

/-- Why a text is not one for the action: keys may be no chord. -/
def badText? (a : Action) (text : String) : Option Failure :=
  match a, KeyChord.parse text with
  | .pressKey, .error f => some f
  | _, _ => none

theorem exists_of_badText? {a : Action} {text : String} {f : Failure}
    (h : a.badText? text = some f) : ∃ reason, f = .invalidKey text reason := by
  cases a with
  | pressKey =>
    simp only [badText?, KeyChord.parse] at h
    cases hparts : KeyChord.ofParts (KeyChord.parts text.toList) with
    | ok chord => rw [hparts] at h; cases h
    | error problem => rw [hparts] at h; cases h; exact ⟨_, rfl⟩
  | _ => cases h

theorem badText?_eq_none {a : Action} {text : String}
    (h : a = .pressKey → ∃ chord, KeyChord.parse text = .ok chord) : a.badText? text = none := by
  cases a with
  | pressKey =>
    rcases h rfl with ⟨chord, hparse⟩
    simp only [badText?, hparse]
  | _ => rfl

end Action

/-- A dispatcher that does not fail refuses a fit element for the text at most. -/
theorem Session.refusal?_of_fit {s : Session} {t : Target} {a : Action} (text : String)
    (hfailing : s.failing = []) (hout : (s.frame t.frame).outages = [])
    (hfit : a = .focus ∨ (s.attributes t).enabled = true) :
    s.refusal? a t text = (a.badText? text).map .failure := by
  have hread : ∀ x, s.outage? t x = none := by
    intro x
    rw [outage?, hout]
    rfl
  have hunfit : a ≠ .focus → ∀ b, s.unfit? b t = none := by
    intro ha b
    rw [unfit?, hread, hfit.resolve_left ha]
    rfl
  cases a with
  | focus => rw [refusal?, hfailing]; rfl
  | pressKey =>
    simp only [refusal?, hfailing, Action.badText?]
    cases KeyChord.parse text with
    | ok chord => rfl
    | error f => rfl
  | type => simp only [refusal?, hfailing, hunfit nofun, hread]; rfl
  | _ => simp only [refusal?, hfailing, hunfit nofun]; rfl

end UiTree
