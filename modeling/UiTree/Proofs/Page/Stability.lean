import UiTree.Proofs.Page.Calls
import UiTree.Proofs.Page.Static
import UiTree.Proofs.Selector.Embedding

/-!
# Stability — what a locator means while actions are done

Actions write values and move the focus.  A step looks at neither, unless one of its filters is for
the value, so what a selector finds stays where it is, and every call of a locator comes to the same
element.
-/

namespace UiTree

open Locator Selector Session

/-! ## 1. What actions leave of an element -/

/-- The attributes that no action writes. -/
def Attributes.lasting (a : Attributes) : Attributes :=
  { a with value := none, focused := false }

theorem Event.lasting_attributesAfter (home : Option ℕ) (t : Target) (a : Attributes)
    (events : List Event) : (attributesAfter home t a events).lasting = a.lasting := by
  rw [attributesAfter_eq]
  rfl

namespace Session

variable (s : Session) (events : List Event)

theorem attributes_eq_node? (t : Target) :
    s.attributes t = ((Frame.node? s.frames t).map (·.1)).getD {} := by
  rw [Frame.node?, attributes, frame]
  cases s.frames[t.frame]? with
  | some f => rw [Option.bind_some, ← Element.attributes?_eq_map_node?]; rfl
  | none =>
    -- a frame that is not there has a root without attributes
    rcases t with ⟨i, _ | ⟨j, path⟩⟩
    · rfl
    · rfl

/-- What no action writes is the same in every frame after any events. -/
theorem lasting_recorded (i : ℕ) (p : Path) :
    (((s.recorded events).frame i).tree.attributes? p).map Attributes.lasting =
      ((s.frame i).tree.attributes? p).map Attributes.lasting := by
  have hnode := fun q => Event.node?_replay s.dispatcherFrame s.frames ⟨i, q⟩ events
  simp only [Frame.node?] at hnode
  rw [Element.attributes?_eq_map_node?, Element.attributes?_eq_map_node?, frame, frame, recorded]
  generalize Event.replay s.dispatcherFrame s.frames events = after at hnode ⊢
  -- a frame has a root, so it is there after the events if it was there before
  have hroot := hnode []
  simp only [Element.node?_nil] at hroot
  cases hbefore : s.frames[i]? with
  | none =>
    cases hafter : after[i]? with
    | none => rfl
    | some f => rw [hbefore, hafter] at hroot; cases hroot
  | some f =>
    cases hafter : after[i]? with
    | none => rw [hbefore, hafter] at hroot; cases hroot
    | some g =>
      have hp := hnode p
      rw [hbefore, hafter, Option.bind_some, Option.bind_some] at hp
      rw [Option.getD_some, Option.getD_some, hp, Option.map_map, Option.map_map, Option.map_map]
      congr 1
      funext x
      exact Event.lasting_attributesAfter _ _ _ _

theorem lasting_attributes_recorded (t : Target) :
    ((s.recorded events).attributes t).lasting = (s.attributes t).lasting := by
  have hlasting : ∀ x : Option Attributes,
      (x.map Attributes.lasting).getD {} = (x.getD {}).lasting := by
    intro x
    cases x with
    | none => rfl
    | some a => rfl
  have h := congrArg (·.getD {}) (s.lasting_recorded events t.frame t.path)
  simp only [hlasting] at h
  exact h

theorem attributes_recorded {t : Target} (h : (Frame.node? s.frames t).isSome) :
    (s.recorded events).attributes t =
      Event.attributesAfter s.dispatcherFrame t (s.attributes t) events := by
  rcases Option.isSome_iff_exists.mp h with ⟨x, hx⟩
  rw [attributes_eq_node?, attributes_eq_node?, recorded, Event.node?_replay, hx]
  rfl

end Session

/-! ## 2. What steps look at -/

/-- No filter of the selector is for the value. -/
def Selector.IgnoresValue (sel : Selector) : Prop :=
  ∀ s ∈ sel.steps, ∀ f ∈ s.filters, Text.lower f.key ≠ "value"

theorem Attributes.text?_lasting {x : Attribute} (h : x ≠ .value) (a : Attributes) :
    a.lasting.text? x = a.text? x := by
  cases x with
  | value => exact absurd rfl h
  | _ => rfl

namespace Selector

theorem attributeOf?_ne_value {key : String} (h : Text.lower key ≠ "value") :
    attributeOf? key ≠ some .value := by
  unfold attributeOf?
  split
  case h_5 hvalue => exact absurd hvalue h
  all_goals exact nofun

theorem Filter.holds_lasting {f : Filter} (h : Text.lower f.key ≠ "value") (a : Attributes) :
    f.holds a.lasting = f.holds a := by
  have hne := attributeOf?_ne_value h
  rw [Filter.holds, Filter.holds, Filter.attribute?]
  cases hx : attributeOf? f.key with
  | none => rfl
  | some x =>
    have hvalue : x ≠ .value := by
      rintro rfl
      exact hne hx
    rw [Option.bind_some, Option.bind_some, Attributes.text?_lasting hvalue]

theorem Step.holds_lasting {s : Step} (h : ∀ f ∈ s.filters, Text.lower f.key ≠ "value")
    (a : Attributes) : s.holds a.lasting = s.holds a := by
  have hfilters : s.filters.all (·.holds a.lasting) = s.filters.all (·.holds a) := by
    rw [Bool.eq_iff_iff, List.all_eq_true, List.all_eq_true]
    exact forall₂_congr fun f hf => by rw [Filter.holds_lasting (h f hf)]
  rw [Step.holds, hfilters]
  rfl

theorem Step.holdsAt_eq_lasting {s : Step} (h : ∀ f ∈ s.filters, Text.lower f.key ≠ "value")
    (e : Element) (p : Path) :
    s.holdsAt e p = ((e.attributes? p).map Attributes.lasting).any s.holds := by
  rw [Step.holdsAt]
  cases e.attributes? p with
  | none => rfl
  | some a => exact (Step.holds_lasting h a).symm

end Selector

/-! ## 3. What selectors find -/

variable {sel : Selector} {s : Session}

theorem finds_recorded (hsel : sel.IgnoresValue) (s : Session) (events : List Event) (i : ℕ) :
    finds sel (s.recorded events) i = finds sel s i := by
  -- both trees meet the steps at the same paths
  have hpaths := map_path_find_congr (s := sel) (e := (s.frame i).tree)
    (f := ((s.recorded events).frame i).tree) fun t ht p => by
      rw [Step.holdsAt_eq_lasting (hsel t ht), Step.holdsAt_eq_lasting (hsel t ht),
        s.lasting_recorded events i p]
  have htargets := congrArg (List.map fun p => ({ frame := i, path := p } : Target)) hpaths
  rw [List.map_map, List.map_map] at htargets
  exact htargets

theorem finds_of_reaches (hsel : sel.IgnoresValue) (hs : s.HomeReadable) {u : Session}
    (h : s.Reaches u) (i : ℕ) : finds sel u i = finds sel s i := by
  rcases h.exists_events hs with ⟨events, hwork⟩
  have hframes : u.frames = (s.recorded events).frames := congrArg (·.1) hwork
  have hframe : u.frame i = (s.recorded events).frame i := by
    rw [frame, hframes, frame]
  rw [← finds_recorded hsel s events i, finds, hframe, finds]

theorem find_empty (hsteps : sel.steps ≠ []) : sel.find .empty = [] := by
  have hpaths := map_path_find sel .empty
  rcases List.exists_cons_of_ne_nil hsteps with ⟨step, steps, hcons⟩
  have hbelow : step.pathsBelow .empty [] = [] := rfl
  rw [hcons, pathChains, hbelow, List.flatMap_nil, List.map_nil] at hpaths
  exact List.map_eq_nil_iff.mp hpaths

/-- What is found stands in one of the frames. -/
theorem isSome_node?_of_mem_finds (hsteps : sel.steps ≠ []) {i : ℕ} {t : Target}
    (ht : t ∈ finds sel s i) : (Frame.node? s.frames t).isSome := by
  rcases List.mem_map.mp ht with ⟨n, hn, rfl⟩
  rw [Frame.node?]
  cases hframe : s.frames[i]? with
  | none =>
    -- nothing is found in a frame that is not there
    rw [frame, hframe] at hn
    have hempty : n ∈ sel.find .empty := hn
    rw [find_empty hsteps] at hempty
    cases hempty
  | some f =>
    rw [frame, hframe] at hn
    have hget : f.tree.get? n.path = some n.element :=
      Element.within_root_iff.mp ((mem_find hsteps).mp hn).within
    rw [Option.bind_some, Element.node?, hget]
    rfl

/-! ## 4. Texts typed one after the other -/

/-- Makes the value empty, types the texts one after the other and reads the value. -/
def Locator.retype (l : Locator) (texts : List String) : Effect (Option String) := do
  l.act .clear ""
  texts.forM (l.act .type)
  l.getValue

namespace Event

def clearing (t : Target) : Event := { action := .clear, target := t, argument := .none }

def typing (t : Target) (text : String) : Event :=
  { action := .type, target := t, argument := .text text }

theorem foldl_onValue_typing (t : Target) (value : String) (texts : List String) :
    (texts.map (typing t)).foldl (fun value e => e.onValue value) (some value) =
      some (value ++ String.join texts) := by
  induction texts generalizing value with
  | nil => simp
  | cons text texts ih =>
    rw [List.map_cons, List.foldl_cons, String.join_cons, ← String.append_assoc, ← ih]
    rfl

/-- Whatever value an element had, it has the texts after they were typed anew. -/
theorem valueAfter_retype (t : Target) (value : Option String) (texts : List String) :
    valueAfter t value (clearing t :: texts.map (typing t)) = some (String.join texts) := by
  have hall : ∀ e ∈ clearing t :: texts.map (typing t), decide (e.target = t) = true := by
    simp [clearing, typing]
  have htyped := foldl_onValue_typing t "" texts
  rw [String.empty_append] at htyped
  rw [valueAfter, List.filter_eq_self.mpr hall, List.foldl_cons, ← htyped]
  rfl

end Event

/-! ## 5. A locator and its first match -/

namespace Session

/-- The session after events were recorded, with the notes given. -/
def recordedWith (s : Session) (events : List Event) (notes : List Record) : Session :=
  { s.recorded events with notes }

theorem recordedWith_recordedWith (s : Session) (events more : List Event)
    (notes others : List Record) :
    (s.recordedWith events notes).recordedWith more others =
      s.recordedWith (events ++ more) others := by
  show { (s.recorded events).recorded more with notes := others } = _
  rw [recorded_recorded, recordedWith]

/-- The selector finds an element of the static tree first, and that element is enabled. -/
structure Offers (s : Session) (sel : Selector) (t : Target) : Prop where
  static : s.Static
  first : (finds sel s 0).head? = some t
  enabled : (s.attributes t).enabled = true

namespace Offers

variable {t : Target} (h : s.Offers sel t)
include h

/-- Whatever was done, the same element is offered. -/
theorem recordedWith (hsel : sel.IgnoresValue) (events : List Event) (notes : List Record) :
    (s.recordedWith events notes).Offers sel t where
  static :=
    { live := h.static.live
      outages := (Event.outages_replay _ _ _ 0).trans h.static.outages
      home := h.static.home
      failing := h.static.failing }
  first := (congrArg List.head? (finds_recorded hsel s events 0)).trans h.first
  enabled := by
    have hlasting := congrArg AttributesOf.enabled (s.lasting_attributes_recorded events t)
    exact hlasting.trans h.enabled

theorem exists_findFirst? {l : Locator} (hparse : Selector.parse l.selector = .ok sel) :
    ∃ n, sel.findFirst? (s.frame 0).tree = some n ∧ t = { frame := 0, path := n.path } ∧
      s.attributes t = n.attributes := by
  have hfirst := h.first
  rw [head?_finds] at hfirst
  rcases Option.map_eq_some_iff.mp hfirst with ⟨n, hn, rfl⟩
  exact ⟨n, hn, rfl, attributes_of_findFirst? hparse hn⟩

variable {l : Locator} (hparse : Selector.parse l.selector = .ok sel) (htimeout : 0 < l.timeout)
include hparse htimeout

/-- An action is done to the element offered. -/
theorem exec_act (a : Action) (text : String) (htext : a.badText? text = none) :
    ∃ notes, s.exec (l.act a text) = (.ok (), s.recordedWith (a.events t text) notes) := by
  rcases h.exists_findFirst? hparse with ⟨n, hn, rfl, hattributes⟩
  have henabled := h.enabled
  rw [hattributes] at henabled
  have hfit : (sel.findFirst? (s.frame 0).tree).filter ((needed a).1.holds ·.attributes) =
      some n :=
    Option.filter_eq_some_iff.mpr ⟨hn, (needed_holds a _).mpr (.inr henabled)⟩
  have hact := h.static.exec_act_of_some hparse a text htimeout hfit
  rw [htext] at hact
  exact hact

theorem exec_getValue :
    ∃ notes, s.exec l.getValue =
      (.ok (s.attributes t).value, { s with notes := s.notes ++ notes }) := by
  rcases h.exists_findFirst? hparse with ⟨n, hn, -, hattributes⟩
  rw [hattributes]
  exact h.static.exec_read hparse htimeout hn [.value] (·.value)

/-- By induction on the texts: when one of them was typed, the same element is offered for the
others. -/
theorem exec_forM_type (hsel : sel.IgnoresValue) (texts : List String) :
    ∃ notes, s.exec (texts.forM (l.act .type)) =
      (.ok (), s.recordedWith (texts.map (Event.typing t)) notes) := by
  induction texts generalizing s with
  | nil =>
    refine ⟨s.notes, ?_⟩
    rw [Session.recordedWith, recorded, List.map_nil, List.append_nil]
    rfl
  | cons text texts ih =>
    rcases h.exec_act hparse htimeout .type text rfl with ⟨notes, htyped⟩
    rcases ih (h.recordedWith hsel [Event.typing t text] notes) with ⟨others, hrest⟩
    rw [recordedWith_recordedWith, List.singleton_append, ← List.map_cons] at hrest
    exact ⟨others, exec_bind_eq_ok.mpr ⟨(), _, htyped, hrest⟩⟩

/-- Texts that are typed anew are all there is of the value. -/
theorem exec_retype (hsel : sel.IgnoresValue) (texts : List String) :
    ∃ notes, s.exec (l.retype texts) = (.ok (some (String.join texts)),
      s.recordedWith (Event.clearing t :: texts.map (Event.typing t)) notes) := by
  let events := Event.clearing t :: texts.map (Event.typing t)
  -- every call begins anew with a search, and comes to the same element
  rcases h.exec_act hparse htimeout .clear "" rfl with ⟨notes, hcleared⟩
  have hempty := h.recordedWith hsel [Event.clearing t] notes
  rcases hempty.exec_forM_type hparse htimeout hsel texts with ⟨others, htyped⟩
  rw [recordedWith_recordedWith, List.singleton_append] at htyped
  have hfull := h.recordedWith hsel events others
  rcases hfull.exec_getValue hparse htimeout with ⟨last, hread⟩
  -- the value that is read at the end is the one that the events leave
  have hvalue : ((s.recordedWith events others).attributes t).value =
      some (String.join texts) := by
    have hnode := isSome_node?_of_mem_finds (Grammar.steps_ne_nil_of_parse hparse)
      (List.mem_of_head? h.first)
    have hattributes : (s.recordedWith events others).attributes t = _ :=
      s.attributes_recorded events hnode
    rw [hattributes, Event.value_attributesAfter, Event.valueAfter_retype]
  rw [hvalue] at hread
  exact ⟨others ++ last,
    exec_bind_eq_ok.mpr ⟨(), _, hcleared, exec_bind_eq_ok.mpr ⟨(), _, htyped, hread⟩⟩⟩

end Offers

end Session

/-- **Actions do not move the target of a locator.**  Whatever actions are done, directly or by
locators, a selector that does not look at values finds the same elements after them.  So a locator
whose first match is enabled makes that element empty, types all texts to it, and then reads their
concatenation; nothing else is recorded, and no time passes. -/
theorem actions_keep_targets (l : Locator) (sel : Selector) (s : Session) (hs : s.Static)
    (hparse : Selector.parse l.selector = .ok sel) (hsel : sel.IgnoresValue) :
    (∀ u, s.Reaches u → finds sel u 0 = finds sel s 0) ∧
    ∀ t, (finds sel s 0).head? = some t → (s.attributes t).enabled = true → 0 < l.timeout →
      ∀ texts, ∃ u, s.exec (l.retype texts) = (.ok (some (String.join texts)), u) ∧
        u.history = s.history ++ Event.clearing t :: texts.map (Event.typing t) ∧
        u.clock = s.clock := by
  constructor
  · exact fun u h => finds_of_reaches hsel hs.homeReadable h 0
  · intro t ht henabled htimeout texts
    have hoffers : s.Offers sel t := ⟨hs, ht, henabled⟩
    rcases hoffers.exec_retype hparse htimeout hsel texts with ⟨notes, hexec⟩
    exact ⟨_, hexec, rfl, rfl⟩

/-! ### Two fields with one label -/

/-- A field with a name in it, and one without a value. -/
def twoNames : Session :=
  { frames := [{ tree := .node {} [
      .node { role := some "AXTextField", label := some "Name", value := some "Bob" } [],
      .node { role := some "AXTextField", label := some "Last name", enabled := false } []] }]
    live := false, dispatcherFrame := some 0, timeout := 200, interval := 100 }

def firstName : Target := { frame := 0, path := [0] }

def lastName : Target := { frame := 0, path := [1] }

def nameLocator : Locator :=
  { selector := "textfield[Label~=NAME]", timeout := 200, interval := 100 }

def nameSelector : Selector :=
  { steps := [{
      role := some "textfield"
      filters := [{ key := "Label", value := "NAME", op := .contains }] }]
    raw := "textfield[Label~=NAME]" }

/-- The focus is moved to the field that is not enabled, and the other one gets a text. -/
def visiting : List Call :=
  [{ manner := .direct lastName, action := .focus },
    { manner := .located nameLocator, action := .type, text := "by" },
    { manner := .direct lastName, action := .clear }]

/-- A filter for the value loses the field as soon as its value is written. -/
example :
    let sel : Selector :=
      { steps := [{ filters := [{ key := "VALUE", value := "Bob" }] }], raw := "[VALUE=Bob]" }
    finds sel twoNames 0 = [firstName] ∧
      finds sel (twoNames.recorded [Event.typing firstName "by"]) 0 = [] := by
  decide +kernel

theorem actions_keep_targets_twoNames :
    twoNames.Static ∧ Selector.parse nameLocator.selector = .ok nameSelector ∧
    nameSelector.IgnoresValue ∧ twoNames.Reaches (twoNames.after visiting) ∧
    finds nameSelector (twoNames.after visiting) 0 = [firstName, lastName] ∧
    (twoNames.attributes firstName).enabled = true ∧ 0 < nameLocator.timeout ∧
    ∃ u, twoNames.exec (nameLocator.retype ["Ada", " L."]) = (.ok (some "Ada L."), u) ∧
      u.history = [Event.clearing firstName, Event.typing firstName "Ada",
        Event.typing firstName " L."] := by
  have hstatic : twoNames.Static := ⟨rfl, rfl, rfl, rfl⟩
  have hparse : Selector.parse nameLocator.selector = .ok nameSelector :=
    Grammar.eq_ok_of_toOption (by decide +kernel)
  have hsel : nameSelector.IgnoresValue := by
    unfold Selector.IgnoresValue
    decide +kernel
  have hreach : twoNames.Reaches (twoNames.after visiting) := reaches_after twoNames visiting
  have hfound : finds nameSelector twoNames 0 = [firstName, lastName] := by decide +kernel
  have henabled : (twoNames.attributes firstName).enabled = true := by decide +kernel
  have htimeout : 0 < nameLocator.timeout := by decide
  rcases actions_keep_targets nameLocator nameSelector twoNames hstatic hparse hsel with
    ⟨hstays, hretype⟩
  have hfirst : (finds nameSelector twoNames 0).head? = some firstName := by
    rw [hfound]
    rfl
  rcases hretype firstName hfirst henabled htimeout ["Ada", " L."] with ⟨u, hexec, hhistory, -⟩
  exact ⟨hstatic, hparse, hsel, hreach, (hstays _ hreach).trans hfound, henabled, htimeout, u,
    hexec, hhistory⟩

end UiTree
