import Mathlib.Data.List.Induction
import UiTree.Proofs.Element.Change
import UiTree.Proofs.Page.Effect

/-!
# Replay — frames as the events of a history leave them

Every event changes the trees in a way of its own: text is added to a value, a value is made empty,
the focus of the dispatcher's tree is moved.  Replaying a list of events does all of it again, one
event after the other, and an element shows what became of it.
-/

namespace UiTree

/-! ## 1. The elements of frames -/

namespace Frame

/-- The frames with the tree of one of them changed. -/
def changeTree (i : ℕ) (f : Element → Element) (frames : List Frame) : List Frame :=
  frames.modify i fun frame => { frame with tree := f frame.tree }

/-- What stands at a target. -/
def node? (frames : List Frame) (t : Target) : Option (Attributes × ℕ) :=
  frames[t.frame]?.bind (·.tree.node? t.path)

theorem node?_changeTree (i : ℕ) (f : Element → Element) (frames : List Frame) (t : Target) :
    node? (changeTree i f frames) t =
      frames[t.frame]?.bind fun frame =>
        (if i = t.frame then f frame.tree else frame.tree).node? t.path := by
  rw [node?, changeTree, List.getElem?_modify]
  cases frames[t.frame]? with
  | none => rfl
  | some frame => by_cases h : i = t.frame <;> simp [h]

theorem outages_changeTree (i j : ℕ) (f : Element → Element) (frames : List Frame) :
    ((changeTree i f frames)[j]?.getD {}).outages = (frames[j]?.getD {}).outages := by
  rw [changeTree, List.getElem?_modify]
  cases frames[j]? with
  | none => rfl
  | some frame => by_cases h : i = j <;> simp [h]

theorem node?_change (t u : Target) (f : Attributes → Attributes) (frames : List Frame) :
    node? (changeTree t.frame (Element.modify f t.path) frames) u =
      (node? frames u).map fun x => (if u = t then f x.1 else x.1, x.2) := by
  rw [node?_changeTree, node?, Option.map_bind]
  congr 1
  funext frame
  by_cases hframe : t.frame = u.frame
  · -- in the same frame a target is known by its path
    have hiff : u.path = t.path ↔ u = t := by
      rcases t with ⟨i, p⟩
      rcases u with ⟨j, q⟩
      simp_all
    rw [if_pos hframe, Element.node?_modify]
    simp only [hiff, Function.comp_apply]
  · have hne : u ≠ t := fun h => hframe (congrArg Target.frame h.symm)
    rw [if_neg hframe]
    simp [hne]

end Frame

namespace Session

/-- The focus of a tree moved to a path, or nowhere, off everything else. -/
def moveFocusIn (focused : Option Path) (e : Element) : Element :=
  setFocus focused (e.preorder.map (·.path)) e

theorem node?_setFocus (focused : Option Path) (paths : List Path) (e : Element) (q : Path) :
    (setFocus focused paths e).node? q = (e.node? q).map fun x =>
      (if q ∈ paths then { x.1 with focused := focused == some q } else x.1, x.2) := by
  unfold setFocus
  induction paths generalizing e with
  | nil => simp
  | cons p paths ih =>
    rw [List.foldl_cons, ih, Element.node?_modify, Option.map_map]
    congr 1
    funext x
    by_cases hq : q = p
    · subst hq
      simp
    · simp [hq]

theorem node?_moveFocusIn (focused : Option Path) (e : Element) (q : Path) :
    (moveFocusIn focused e).node? q =
      (e.node? q).map fun x => ({ x.1 with focused := focused == some q }, x.2) := by
  rw [moveFocusIn, node?_setFocus]
  cases hq : e.node? q with
  | none => rfl
  | some x =>
    -- the walk comes to every element of the tree
    have hmem : q ∈ e.preorder.map (·.path) := by
      rw [Element.mem_preorder_map_path, hq]
      rfl
    rw [Option.map_some, Option.map_some, if_pos hmem]

end Session

/-! ## 2. What an event does -/

namespace Event

/-- The value of the target after an event. -/
def onValue (e : Event) (value : Option String) : Option String :=
  match e.action, e.argument with
  | .type, .text text => some (value.getD "" ++ text)
  | .clear, _ => some ""
  | _, _ => value

/-- The attributes of an element after an event; `home` is the frame of the dispatcher's tree. -/
def onAttributes (home : Option ℕ) (e : Event) (t : Target) (a : Attributes) : Attributes :=
  { a with
    value := if t = e.target then e.onValue a.value else a.value
    focused :=
      if e.action = .focus ∧ home = some t.frame then decide (t = e.target) else a.focused }

/-- The frames after an event. -/
def apply (home : Option ℕ) (frames : List Frame) (e : Event) : List Frame :=
  match e.action, home with
  | .type, _ | .clear, _ =>
    Frame.changeTree e.target.frame
      (Element.modify (fun a => { a with value := e.onValue a.value }) e.target.path) frames
  | .focus, some i =>
    Frame.changeTree i
      (Session.moveFocusIn (if e.target.frame == i then some e.target.path else none)) frames
  | _, _ => frames

variable (home : Option ℕ) (frames : List Frame) (t : Target) (e : Event)

/-- An event that neither writes nor moves the focus of the tree leaves an element as it is. -/
theorem map_onAttributes_of_idle (hvalue : ∀ v, e.onValue v = v)
    (hfocus : e.action = .focus → home ≠ some t.frame) (x : Option (Attributes × ℕ)) :
    x.map (fun x => (e.onAttributes home t x.1, x.2)) = x := by
  have hfocused : ¬ (e.action = .focus ∧ home = some t.frame) := fun h => hfocus h.1 h.2
  have hid : ∀ a, e.onAttributes home t a = a := by
    intro a
    rw [onAttributes, hvalue, ite_self, if_neg hfocused]
  simp [hid]

theorem node?_write (h : e.action ≠ .focus) :
    Frame.node? (Frame.changeTree e.target.frame
        (Element.modify (fun a => { a with value := e.onValue a.value }) e.target.path) frames) t =
      (Frame.node? frames t).map fun x => (e.onAttributes home t x.1, x.2) := by
  rw [Frame.node?_change]
  congr 1
  funext x
  by_cases ht : t = e.target <;> simp [onAttributes, h, ht]

theorem node?_moveFocus (i : ℕ) (h : e.action = .focus)
    (hvalue : ∀ v, e.onValue v = v) :
    Frame.node? (Frame.changeTree i (Session.moveFocusIn
        (if e.target.frame == i then some e.target.path else none)) frames) t =
      (Frame.node? frames t).map fun x => (e.onAttributes (some i) t x.1, x.2) := by
  rw [Frame.node?_changeTree, Frame.node?, Option.map_bind]
  congr 1
  funext frame
  simp only [Function.comp_apply]
  by_cases ht : i = t.frame
  · -- in this tree the focus is where the target is
    have hfocused : ((if e.target.frame == i then some e.target.path else none) == some t.path) =
        decide (t = e.target) := by
      subst ht
      rcases t with ⟨i, q⟩
      rcases e.target with ⟨j, p⟩
      rw [Bool.eq_iff_iff, beq_iff_eq, decide_eq_true_iff]
      by_cases hj : j = i
      · simp [hj, eq_comm (a := p)]
      · simp [hj, Ne.symm hj]
    rw [if_pos ht, Session.node?_moveFocusIn, hfocused]
    congr 1
    funext x
    rw [onAttributes, hvalue, ite_self, if_pos ⟨h, congrArg some ht⟩]
  · rw [if_neg ht, map_onAttributes_of_idle _ _ _ hvalue]
    exact fun _ hi => ht (Option.some.inj hi)

theorem node?_apply :
    Frame.node? (e.apply home frames) t =
      (Frame.node? frames t).map fun x => (e.onAttributes home t x.1, x.2) := by
  have hidle := fun (hvalue : ∀ v, e.onValue v = v)
    (hfocus : e.action = .focus → home ≠ some t.frame) =>
      (map_onAttributes_of_idle home t e hvalue hfocus (Frame.node? frames t)).symm
  rcases e with ⟨action, target, argument⟩
  cases action with
  | type => exact node?_write home frames t _ nofun
  | clear => exact node?_write home frames t _ nofun
  | click => exact hidle (fun _ => rfl) nofun
  | doubleClick => exact hidle (fun _ => rfl) nofun
  | pressKey => exact hidle (fun _ => rfl) nofun
  | focus =>
    cases home with
    | none => exact hidle (fun _ => rfl) nofun
    | some i => exact node?_moveFocus frames t _ i rfl fun _ => rfl

/-- An event changes trees, and not what can be read of them. -/
theorem outages_apply (i : ℕ) :
    ((e.apply home frames)[i]?.getD {}).outages = (frames[i]?.getD {}).outages := by
  rcases e with ⟨action, target, argument⟩
  cases action with
  | type => exact Frame.outages_changeTree _ i _ frames
  | clear => exact Frame.outages_changeTree _ i _ frames
  | click => rfl
  | doubleClick => rfl
  | pressKey => rfl
  | focus =>
    cases home with
    | none => rfl
    | some j => exact Frame.outages_changeTree j i _ frames

/-! ## 3. What a list of events does -/

/-- The frames after a list of events. -/
def replay (home : Option ℕ) (frames : List Frame) (events : List Event) : List Frame :=
  events.foldl (apply home) frames

/-- The attributes of an element after a list of events. -/
def attributesAfter (home : Option ℕ) (t : Target) (a : Attributes) (events : List Event) :
    Attributes :=
  events.foldl (fun a e => e.onAttributes home t a) a

theorem node?_replay (events : List Event) :
    Frame.node? (replay home frames events) t =
      (Frame.node? frames t).map fun x => (attributesAfter home t x.1 events, x.2) := by
  induction events generalizing frames with
  | nil => simp [replay, attributesAfter]
  | cons e events ih =>
    rw [replay, List.foldl_cons, ← replay, ih, node?_apply, Option.map_map]
    rfl

theorem outages_replay (events : List Event) (i : ℕ) :
    ((replay home frames events)[i]?.getD {}).outages = (frames[i]?.getD {}).outages := by
  induction events generalizing frames with
  | nil => rfl
  | cons e events ih =>
    rw [replay, List.foldl_cons, ← replay, ih, outages_apply]

variable (a : Attributes) (events : List Event)

/-- The value of an element after the events that target it, one after the other. -/
def valueAfter (t : Target) (value : Option String) (events : List Event) : Option String :=
  (events.filter (·.target = t)).foldl (fun value e => e.onValue value) value

/-- Only the events that target an element change its value. -/
theorem value_attributesAfter :
    (attributesAfter home t a events).value = valueAfter t a.value events := by
  induction events generalizing a with
  | nil => rfl
  | cons e events ih =>
    rw [attributesAfter, List.foldl_cons, ← attributesAfter, ih, onAttributes, valueAfter,
      valueAfter]
    by_cases ht : t = e.target
    · simp [ht]
    · simp [ht, Ne.symm ht]

theorem attributesAfter_eq :
    attributesAfter home t a events =
      { a with
        value := (attributesAfter home t a events).value
        focused := (attributesAfter home t a events).focused } := by
  induction events generalizing a with
  | nil => rfl
  | cons e events ih => exact ih (e.onAttributes home t a)

theorem focused_attributesAfter_of_outside (h : home ≠ some t.frame) :
    (attributesAfter home t a events).focused = a.focused := by
  induction events generalizing a with
  | nil => rfl
  | cons e events ih =>
    have hfocused : ¬ (e.action = .focus ∧ home = some t.frame) := fun hf => h hf.2
    rw [attributesAfter, List.foldl_cons, ← attributesAfter, ih, onAttributes, if_neg hfocused]

/-- In the dispatcher's tree the last event that moves the focus decides. -/
theorem focused_attributesAfter_of_inside (h : home = some t.frame) :
    (attributesAfter home t a events).focused =
      match (events.filter (·.action = .focus)).getLast? with
      | some e => decide (t = e.target)
      | none => a.focused := by
  induction events using List.reverseRecOn with
  | nil => rfl
  | append_singleton events e ih =>
    rw [attributesAfter, List.foldl_append, List.foldl_cons, List.foldl_nil, ← attributesAfter,
      List.filter_append, onAttributes]
    by_cases haction : e.action = .focus
    · simp [haction, h]
    · simp [haction, ih]

end Event

end UiTree
