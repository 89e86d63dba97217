import UiTree.Proofs.Page.Calls

/-!
# History — what a dispatcher did, and what its tree shows of it

Whatever calls are made, the history since then accounts for every value and for the focus.
-/

namespace UiTree.Session

/-! ## 1. The elements of a session -/

/-- The element that stands at a target. -/
def element? (s : Session) (t : Target) : Option Element :=
  s.frames[t.frame]?.bind (·.tree.get? t.path)

theorem node?_frames (s : Session) (t : Target) :
    Frame.node? s.frames t = (s.element? t).map fun e => (e.attributes, e.children.length) := by
  rw [Frame.node?, element?, Option.map_bind]
  rfl

variable {s u : Session}

/-- After a run every element is what the events of the history since then make of it. -/
theorem Reaches.exists_history (h : s.Reaches u) (hs : s.HomeReadable) :
    ∃ events, u.history = s.history ++ events ∧
      ∀ t, Option.Rel (fun e e' => e'.attributes =
            Event.attributesAfter s.dispatcherFrame t e.attributes events ∧
          e'.children.length = e.children.length)
        (s.element? t) (u.element? t) := by
  rcases h.exists_events hs with ⟨events, hwork⟩
  have hframes : u.frames = Event.replay s.dispatcherFrame s.frames events := congrArg (·.1) hwork
  refine ⟨events, congrArg (·.2.1) hwork, fun t => ?_⟩
  have hnode := Event.node?_replay s.dispatcherFrame s.frames t events
  rw [← hframes, node?_frames, node?_frames] at hnode
  -- where nothing stands there is no node
  cases hbefore : s.element? t with
  | none =>
    rw [hbefore] at hnode
    rw [Option.map_eq_none_iff.mp hnode]
    exact .none
  | some e =>
    rw [hbefore] at hnode
    rcases Option.map_eq_some_iff.mp hnode with ⟨e', hafter, he'⟩
    rw [hafter]
    exact .some (Prod.mk.inj he')

/-! ## 2. Values -/

/-- **The history accounts for every value.**  After any run of calls the value of an element is
what the events of the history since then, as far as they target it, make of the value it had.  Its
other attributes, the focus aside, and its children are as they were.  A call that fails leaves
history and trees as they are, and one that does not adds exactly the events of its action on its
target: the focus and the keys for keys, one event for any other. -/
theorem history_accounts_for_values (s u : Session) (hs : s.HomeReadable) (h : s.Reaches u) :
    (∃ events, u.history = s.history ++ events ∧
      ∀ t, Option.Rel (fun e e' => e'.attributes = { e.attributes with
              value := Event.valueAfter t e.attributes.value events
              focused := e'.attributes.focused } ∧
          e'.children.length = e.children.length)
        (s.element? t) (u.element? t)) ∧
    ∀ c : Call,
      (∀ r v, u.exec c.effect = (.error r, v) → v.history = u.history ∧ v.frames = u.frames) ∧
      ∀ v, u.exec c.effect = (.ok (), v) →
        ∃ t, c.Aims u t ∧ v.history = u.history ++ c.events t ∧
          (c.events t).map (fun e => (e.action, e.target)) =
            if c.action = .pressKey then [(.focus, t), (.pressKey, t)] else [(c.action, t)] := by
  constructor
  · rcases h.exists_history hs with ⟨events, hhistory, hrel⟩
    refine ⟨events, hhistory, fun t => ?_⟩
    have hpart := hrel t
    generalize s.element? t = before, u.element? t = later at hpart ⊢
    cases hpart with
    | none => exact .none
    | some h =>
      refine .some ⟨?_, h.2⟩
      rw [h.1, ← Event.value_attributesAfter s.dispatcherFrame]
      exact Event.attributesAfter_eq _ _ _ _
  · -- a call has one outcome only
    intro c
    rcases failed_or_done (hs.of_reaches h) c with
      ⟨r, v, hexec, hwork⟩ | ⟨t, haims, hevents, v, hexec, hwork⟩
    · constructor
      · intro r' v' hv
        cases hexec.symm.trans hv
        exact ⟨congrArg (·.2.1) hwork, congrArg (·.1) hwork⟩
      · intro v' hv
        cases hexec.symm.trans hv
    · constructor
      · intro r' v' hv
        cases hexec.symm.trans hv
      · intro v' hv
        cases hexec.symm.trans hv
        exact ⟨t, haims, congrArg (·.2.1) hwork, hevents⟩

/-! ### A name that is typed -/

/-- A name to be typed, and a button that is not enabled; the dispatcher fails to move the focus. -/
def nameForm : Session :=
  { frames := [{ tree := .node {} [
      .node { role := some "textfield", identifier := some "name" } [],
      .node { identifier := some "save", enabled := false } []] }]
    live := false, dispatcherFrame := some 0, timeout := 200, interval := 100
    failing := [(.focus, .failure (.foreign "OSError" []))] }

def nameField : Target := { frame := 0, path := [0] }

def clickSave : Call :=
  { manner := .located { selector := "#save", timeout := 200, interval := 100 }, action := .click }

def pressEnter : Call :=
  { manner := .dispatched "press_key" nameField, action := .pressKey, text := "enter" }

/-- Two of the calls are done: the button is not enabled, and keys need the focus. -/
def typing : List Call :=
  [{ manner := .direct nameField, action := .type, text := "Ada" }, clickSave, pressEnter,
    { manner := .located { selector := "#name", timeout := 200, interval := 100 }
      action := .type, text := " L." }]

/-- Now the focus can be moved. -/
def typed : Session := { nameForm.after typing with failing := [] }

theorem history_accounts_for_values_typed :
    nameForm.HomeReadable ∧ nameForm.Reaches typed ∧
    (∃ e, typed.element? nameField = some e ∧
      e.attributes.value = some "Ada L." ∧ e.attributes.role = some "textfield") ∧
    (∃ r v, typed.exec clickSave.effect = (.error r, v) ∧ v.history = typed.history) ∧
    ∃ v, typed.exec pressEnter.effect = (.ok (), v) ∧
      v.history = typed.history ++
        [{ action := .focus, target := nameField, argument := .none },
          { action := .pressKey, target := nameField
            argument := .chord { key := "enter", modifiers := [] } }] := by
  have hreadable : nameForm.HomeReadable := by
    intro i hi
    cases hi
    rfl
  have hreach : nameForm.Reaches typed := (reaches_after nameForm typing).meanwhile rfl
  rcases history_accounts_for_values nameForm typed hreadable hreach with
    ⟨⟨events, hhistory, hrel⟩, hcalls⟩
  refine ⟨hreadable, hreach, ?_, ?_, ?_⟩
  · -- the history is that of the calls, for there was none before
    have htyped : typed.history =
        [{ action := .type, target := nameField, argument := .text "Ada" },
          { action := .type, target := nameField, argument := .text " L." }] := by
      decide +kernel
    have hevents : typed.history = events := hhistory
    have hvalue : Event.valueAfter nameField none typed.history = some "Ada L." := by
      rw [htyped]
      decide
    subst hevents
    have hname := hrel nameField
    generalize typed.element? nameField = later at hname ⊢
    cases hname with
    | some h => exact ⟨_, rfl, (congrArg (·.value) h.1).trans hvalue, congrArg (·.role) h.1⟩
  · have hfails : (typed.exec clickSave.effect).1.isOk = false := by decide +kernel
    rcases hexec : typed.exec clickSave.effect with ⟨_ | _, v⟩
    · exact ⟨_, v, rfl, ((hcalls clickSave).1 _ v hexec).1⟩
    · rw [hexec] at hfails
      cases hfails
  · have hpresses : (typed.exec pressEnter.effect).1.isOk = true := by decide +kernel
    have hkeys : pressEnter.events nameField =
        [{ action := .focus, target := nameField, argument := .none },
          { action := .pressKey, target := nameField
            argument := .chord { key := "enter", modifiers := [] } }] := by
      decide +kernel
    rcases hexec : typed.exec pressEnter.effect with ⟨_ | _, v⟩
    · rw [hexec] at hpresses
      cases hpresses
    · rcases (hcalls pressEnter).2 v hexec with ⟨t, rfl, hgrown, -⟩
      exact ⟨v, rfl, hgrown.trans (congrArg _ hkeys)⟩

/-! ## 3. The focus -/

/-- The target is in the dispatcher's tree. -/
def InHome (s : Session) (t : Target) : Prop :=
  s.dispatcherFrame = some t.frame

/-- The element at a target has the focus. -/
def Focused (s : Session) (t : Target) : Prop :=
  ∃ e, s.element? t = some e ∧ e.attributes.focused = true

/-- At most one element of the dispatcher's tree has the focus. -/
def FocusUnique (s : Session) : Prop :=
  ∀ t u, s.InHome t → s.InHome u → s.Focused t → s.Focused u → t = u

theorem Reaches.inHome (h : s.Reaches u) (hs : s.HomeReadable) (t : Target) :
    u.InHome t ↔ s.InHome t := by
  rcases h.exists_events hs with ⟨events, hwork⟩
  have hhome : u.dispatcherFrame = s.dispatcherFrame := congrArg (·.2.2) hwork
  rw [InHome, InHome, hhome]

/-- In the dispatcher's tree the focus is where it was moved to last; if it was not moved, and
outside the tree, it is where it was. -/
theorem Reaches.exists_focus_history (h : s.Reaches u) (hs : s.HomeReadable) :
    ∃ events, u.history = s.history ++ events ∧
      let last := (events.filter (·.action = .focus)).getLast?
      ∀ t, (s.InHome t → ∀ e, last = some e →
          (u.Focused t ↔ t = e.target ∧ (u.element? t).isSome)) ∧
        ((s.InHome t → last = none) → (u.Focused t ↔ s.Focused t)) := by
  rcases h.exists_history hs with ⟨events, hhistory, hrel⟩
  refine ⟨events, hhistory, fun t => ?_⟩
  have hpart := hrel t
  unfold Focused
  generalize s.element? t = before, u.element? t = later at hpart ⊢
  cases hpart with
  | none => simp
  | @some e e' h =>
    have hinside := Event.focused_attributesAfter_of_inside s.dispatcherFrame t e.attributes events
    have houtside :=
      Event.focused_attributesAfter_of_outside s.dispatcherFrame t e.attributes events
    constructor
    · intro ht event hlast
      rw [hlast] at hinside
      simp [h.1, hinside ht]
    · intro hstays
      by_cases ht : s.InHome t
      · rw [hstays ht] at hinside
        simp [h.1, hinside ht]
      · simp [h.1, houtside ht]

/-- **The focus is unique.**  If at most one element of the dispatcher's tree has the focus, so it
is after any run of calls.  Once the focus was moved, the element it was moved to last is the only
one of the tree that has it, if it is in the tree, and none has it otherwise.  No call moves the
focus of an element outside the tree. -/
theorem focus_stays_unique (s u : Session) (hs : s.HomeReadable) (hunique : s.FocusUnique)
    (h : s.Reaches u) :
    u.FocusUnique ∧
    (∃ events, u.history = s.history ++ events ∧
      ∀ e, (events.filter (·.action = .focus)).getLast? = some e →
        ∀ t, s.InHome t → (u.Focused t ↔ t = e.target ∧ (u.element? t).isSome)) ∧
    ∀ (c : Call) (t : Target), ¬ s.InHome t →
      ((u.exec c.effect).2.Focused t ↔ u.Focused t) := by
  rcases h.exists_focus_history hs with ⟨events, hhistory, hfocus⟩
  refine ⟨?_, ⟨events, hhistory, fun e he t ht => (hfocus t).1 ht e he⟩, ?_⟩
  · intro t v ht hv hfocusedt hfocusedv
    rw [h.inHome hs] at ht hv
    cases hlast : (events.filter (·.action = .focus)).getLast? with
    | some e =>
      have htarget := (((hfocus t).1 ht e hlast).mp hfocusedt).1
      exact htarget.trans (((hfocus v).1 hv e hlast).mp hfocusedv).1.symm
    | none =>
      have hstayed := ((hfocus t).2 fun _ => hlast).mp hfocusedt
      exact hunique t v ht hv hstayed (((hfocus v).2 fun _ => hlast).mp hfocusedv)
  · -- one call is a run of its own
    intro c t ht
    have hstep : u.Reaches (u.exec c.effect).2 := Reaches.start.call c
    rcases hstep.exists_focus_history (hs.of_reaches h) with ⟨_, -, hmore⟩
    exact (hmore t).2 fun hin => absurd ((h.inHome hs t).mp hin) ht

/-! ### A focus that moves out of the tree -/

/-- The first of two names has the focus; the second one has a part that is not enabled. -/
def nameTree : Element :=
  .node {} [
    .node { identifier := some "name", focused := true } [],
    .node { identifier := some "name" } [.node { enabled := false } []]]

/-- A note in another tree than the dispatcher's has the focus as well. -/
def namesAndNote : Session :=
  { frames := [{ tree := nameTree }, { tree := .node { focused := true } [] }]
    live := false, dispatcherFrame := some 0, timeout := 200, interval := 100 }

def wholeNote : Target := { frame := 1, path := [] }

def namePart : Target := { frame := 0, path := [1, 0] }

def focusPart : Call := { manner := .direct namePart, action := .focus }

/-- The focus is moved out of the tree and back into it, with keys, before a click fails. -/
def moving : List Call :=
  [{ manner := .direct wholeNote, action := .focus },
    { manner := .dispatched "press_key" namePart, action := .pressKey, text := "enter" },
    { manner := .direct namePart, action := .click }]

theorem focusUnique_namesAndNote : namesAndNote.FocusUnique := by
  have hfirst : ∀ n ∈ nameTree.preorder, n.attributes.focused = true → n.path = [0] := by
    decide +kernel
  have hpath : ∀ t, namesAndNote.InHome t → namesAndNote.Focused t →
      t = { frame := 0, path := [0] } := by
    rintro ⟨i, path⟩ ht ⟨e, he, hfocused⟩
    cases ht
    have hmem := Element.mem_preorder (n := { path, element := e }).mpr ⟨path, rfl, he⟩
    have hpath : path = [0] := hfirst _ hmem hfocused
    rw [hpath]
  intro t u ht hu hfocusedt hfocusedu
  rw [hpath t ht hfocusedt, hpath u hu hfocusedu]

theorem focus_stays_unique_moving :
    let u := namesAndNote.after moving
    namesAndNote.HomeReadable ∧ namesAndNote.FocusUnique ∧ namesAndNote.Reaches u ∧
    (∀ t, namesAndNote.InHome t → (u.Focused t ↔ t = namePart)) ∧
    ¬ namesAndNote.InHome wholeNote ∧
      (u.exec focusPart.effect).2.Focused wholeNote := by
  intro u
  have hreadable : namesAndNote.HomeReadable := by
    intro i hi
    cases hi
    rfl
  have hreach : namesAndNote.Reaches u := reaches_after namesAndNote moving
  have houtside : ¬ namesAndNote.InHome wholeNote := by rintro ⟨⟩
  rcases focus_stays_unique namesAndNote u hreadable focusUnique_namesAndNote hreach with
    ⟨-, ⟨events, hhistory, hlast⟩, hkept⟩
  refine ⟨hreadable, focusUnique_namesAndNote, hreach, ?_, houtside, ?_⟩
  · intro t ht
    have hmoved : u.history =
        [{ action := .focus, target := wholeNote, argument := .none },
          { action := .focus, target := namePart, argument := .none },
          { action := .pressKey, target := namePart
            argument := .chord { key := "enter", modifiers := [] } }] := by
      decide +kernel
    have hevents : events = u.history := hhistory.symm
    rw [hmoved] at hevents
    subst hevents
    rw [hlast _ rfl t ht]
    constructor
    · exact fun h => h.1
    · rintro rfl
      exact ⟨rfl, by decide +kernel⟩
  · have hfocused : (u.element? wholeNote).any (·.attributes.focused) = true := by decide +kernel
    exact (hkept _ wholeNote houtside).mpr ((Option.any_eq_true _ _).mp hfocused)

end UiTree.Session
