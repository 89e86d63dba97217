import UiTree.Proofs.Page.Containing
import UiTree.Proofs.Page.Waiting

/-!
# Expectations — checks of an element that may be absent

At every tick an expectation sees an element or none.  It sees none if nothing is found, and as
well if the tree cannot be read or searched, whatever that raises.  Only what the check itself
cannot read of the element counts as a failure.
-/

namespace UiTree

theorem Outage.exists_mem_of_first? {outages : List Outage} {readings : List Selector.Reading}
    {r : Raised} (h : Outage.first? outages readings = some r) :
    ∃ o ∈ outages, o.raised = r := by
  rcases List.exists_of_findSome?_eq_some h with ⟨reading, -, hr⟩
  rcases Option.map_eq_some_iff.mp hr with ⟨o, ho, hraised⟩
  exact ⟨o, List.mem_reverse.mp (List.mem_of_find?_eq_some ho), hraised⟩

namespace Check

/-- Only that there is no element holds of none. -/
theorem holds_none_iff (c : Check) : c.holds none = true ↔ c = .notExists := by
  cases c <;> simp [holds]

theorem holds_text_of_exactText {a : Option Attributes} {y : String}
    (h : (exactText y).holds a = true) : (text y).holds a = true :=
  (weakens_text_of_exactText List.infix_rfl).holds a h

theorem holds_containsValue_of_value {a : Option Attributes} {y : String}
    (h : (value y).holds a = true) : (containsValue y).holds a = true :=
  (weakens_containsValue_of_value List.infix_rfl).holds a h

end Check

namespace Session

/-- Neither the source nor an attribute raises an interrupt. -/
structure Uninterrupted (s : Session) : Prop where
  failing : ∀ f ∈ s.frames, ∀ i, f.failing ≠ some (.interrupt i)
  outages : ∀ f ∈ s.frames, ∀ o ∈ f.outages, ∀ i, o.raised ≠ .interrupt i

namespace Uninterrupted

variable {s : Session} (hs : s.Uninterrupted)
include hs

theorem sourceFailure?_ne (i : ℕ) (e : Interrupt) : s.sourceFailure? i ≠ some (.interrupt e) := by
  have hframe := frame_of_forall (P := fun f => f.failing ≠ some (.interrupt e))
    (fun f hf => hs.failing f hf e) (by simp) i
  unfold sourceFailure?
  cases s.live with
  | true => exact hframe
  | false => simp

theorem first?_ne (i : ℕ) (readings : List Selector.Reading) (e : Interrupt) :
    Outage.first? (s.frame i).outages readings ≠ some (.interrupt e) := by
  have hframe := frame_of_forall (P := fun f => ∀ o ∈ f.outages, o.raised ≠ .interrupt e)
    (fun f hf o ho => hs.outages f hf o ho e) (by simp) i
  intro h
  rcases Outage.exists_mem_of_first? h with ⟨o, ho, hraised⟩
  exact hframe o ho hraised

theorem trouble?_ne (sel : Selector) (i : ℕ) (e : Interrupt) :
    Locator.trouble? sel s i ≠ some (.interrupt e) := by
  intro h
  unfold Locator.trouble? at h
  cases hsource : s.sourceFailure? i with
  | some r =>
    rw [hsource] at h
    exact hs.sourceFailure?_ne i e (hsource.trans h)
  | none =>
    rw [hsource] at h
    exact hs.first?_ne i _ e h

end Uninterrupted

end Session

open Session Locator

/-! ## 1. What an expectation sees -/

namespace Expectation

/-- The target that an expectation sees when a frame answers. -/
def present (sel : Selector) (s : Session) (i : ℕ) : Option Target :=
  match trouble? sel s i with
  | some _ => none
  | none => (finds sel s i).head?

/-- What the check cannot read of an element. -/
def unreadable? (c : Check) (s : Session) (t : Target) : Option Raised :=
  Outage.first? (s.frame t.frame).outages (c.reads.map (t.path, ·))

/-- What an attempt to see the check pass comes to. -/
def judged (c : Check) (sel : Selector) (s : Session) (i : ℕ) : Except Raised (Option Unit) :=
  match present sel s i with
  | none => .ok (if c.holds none then some () else none)
  | some t =>
    match unreadable? c s t with
    | some r => .error r
    | none => .ok (if c.holds (some (s.attributes t)) then some () else none)

variable {e : Expectation} {c : Check} {sel : Selector} {s : Session}
variable (hparse : Selector.parse e.locator.selector = .ok sel)
include hparse

/-- Whatever failure keeps an element from being found, it is noted at most. -/
theorem exec_current (hs : ∀ i, trouble? sel s s.answerer ≠ some (.interrupt i)) :
    ∃ notes, s.exec e.current =
      (.ok (present sel s s.answerer), { s.answered with notes := s.notes ++ notes }) := by
  rw [current, exec_tryCatch, exec_tryResolve s hparse, tried, present, ← notes_answered]
  cases htrouble : trouble? sel s s.answerer with
  | none => exact ⟨[], by rw [List.append_nil]⟩
  | some r =>
    cases r with
    | interrupt i => exact absurd htrouble (hs i)
    | failure f =>
      cases f with
      | elementNotFound selector => exact ⟨[], by rw [List.append_nil]⟩
      | _ => exact ⟨[_], rfl⟩

theorem exec_attempt (hs : ∀ i, trouble? sel s s.answerer ≠ some (.interrupt i)) :
    ∃ notes, s.exec (e.attempt c) =
      (judged c sel s s.answerer, { s.answered with notes := s.notes ++ notes }) := by
  rcases exec_current hparse hs with ⟨notes, hcurrent⟩
  refine ⟨notes, ?_⟩
  let u : Session := { s.answered with notes := s.notes ++ notes }
  rw [attempt, exec_bind, hcurrent, judged]
  cases present sel s s.answerer with
  | none => rfl
  | some t =>
    -- the notes made so far do not change what can be read
    have hframe : u.frame t.frame = s.frame t.frame := s.frame_answered t.frame
    have hattributes : u.attributes t = s.attributes t := s.attributes_answered t
    have hlook := u.exec_look t c.reads
    rw [hframe, hattributes] at hlook
    simp only []
    rw [exec_bind, exec_map, hlook, unreadable?]
    cases Outage.first? (s.frame t.frame).outages (c.reads.map (t.path, ·)) with
    | some r => rfl
    | none => rfl

theorem glances_attempt (hs : ∀ u : Session, u.frames = s.frames → u.live = s.live →
      ∀ i, trouble? sel u u.answerer ≠ some (.interrupt i)) :
    s.Glances (e.attempt c) (judged c sel s) := by
  intro u hframes hlive
  have hjudged : judged c sel u = judged c sel s := by
    funext i
    simp only [judged, present, unreadable?, trouble?, finds, sourceFailure?, attributes, frame,
      hframes, hlive]
    rfl
  rw [← hjudged]
  exact exec_attempt hparse (hs u hframes hlive)

theorem exec_check (c : Check) (s : Session) :
    s.exec (e.check c) = s.exec (waitFor (e.wait c) (e.attempt c)) := by
  rw [check, Locator.parse, exec_bind, exec_ofParsed_eq_ok.mpr ⟨hparse, rfl⟩]

omit hparse

/-- A malformed selector fails before anything else is done. -/
theorem exec_check_of_parse_eq_error {f : Failure}
    (h : Selector.parse e.locator.selector = .error f) (c : Check) (s : Session) :
    s.exec (e.check c) = (.error (.failure f), s) := by
  rw [check, Locator.parse, h]
  rfl

/-! ## 2. When a check passes -/

open Classical in
/-- The element that an expectation sees when a frame answers: the earliest one that the selector
means, if the source answers and nothing that the search looks at is out. -/
noncomputable def shown (sel : Selector) (s : Session) (i : ℕ) : Option Located :=
  if s.sourceFailure? i = none ∧ Readable sel (s.frame i) then
    (s.frame i).tree.preorder.find? (sel.Means (s.frame i).tree ·)
  else none

/-- What reading the attributes that a check looks at raises. -/
def outage? (c : Check) (s : Session) (i : ℕ) (n : Located) : Option Raised :=
  Outage.first? (s.frame i).outages (c.reads.map (n.path, ·))

/-- The check passes when a frame answers: it holds of the element seen, which can be read, or of
none. -/
def Passes (c : Check) (sel : Selector) (s : Session) (i : ℕ) : Prop :=
  match shown sel s i with
  | none => c.holds none = true
  | some n => outage? c s i n = none ∧ c.holds (some n.attributes) = true

/-- The failure to read the element seen. -/
noncomputable def failure? (c : Check) (sel : Selector) (s : Session) (i : ℕ) : Option Failure :=
  match (shown sel s i).bind (outage? c s i) with
  | some (.failure f) => some f
  | _ => none

/-- The earliest element meant is the first one found. -/
theorem shown_eq (hparse : Selector.parse e.locator.selector = .ok sel) (s : Session) (i : ℕ) :
    shown sel s i = match trouble? sel s i with
      | some _ => none
      | none => sel.findFirst? (s.frame i).tree := by
  have hsteps := Selector.Grammar.steps_ne_nil_of_parse hparse
  rw [shown, trouble?, Selector.findFirst?_eq_find? sel _ hsteps, Readable]
  cases s.sourceFailure? i with
  | some r => rw [if_neg fun h => Option.some_ne_none r h.1]; rfl
  | none =>
    cases Outage.first? (s.frame i).outages (sel.readings (s.frame i).tree) with
    | some r => rw [if_neg fun h => Option.some_ne_none r h.2]; rfl
    | none => rw [if_pos ⟨rfl, rfl⟩]; rfl

theorem present_eq (hparse : Selector.parse e.locator.selector = .ok sel) (i : ℕ) :
    present sel s i = (shown sel s i).map fun n => { frame := i, path := n.path } := by
  rw [present, shown_eq hparse, head?_finds]
  cases trouble? sel s i with
  | some r => rfl
  | none => rfl

theorem attributes_of_shown (hparse : Selector.parse e.locator.selector = .ok sel) {i : ℕ}
    {n : Located} (hn : shown sel s i = some n) :
    s.attributes { frame := i, path := n.path } = n.attributes := by
  rw [shown_eq hparse] at hn
  cases htrouble : trouble? sel s i with
  | some r => rw [htrouble] at hn; cases hn
  | none =>
    rw [htrouble] at hn
    exact attributes_of_findFirst? hparse hn

section

variable (hparse : Selector.parse e.locator.selector = .ok sel)
include hparse

theorem judged_eq (c : Check) (s : Session) (i : ℕ) :
    judged c sel s i = match shown sel s i with
      | none => .ok (if c.holds none then some () else none)
      | some n =>
        match outage? c s i n with
        | some r => .error r
        | none => .ok (if c.holds (some n.attributes) then some () else none) := by
  rw [judged, present_eq hparse]
  cases hn : shown sel s i with
  | none => rfl
  | some n =>
    simp only [Option.map_some, attributes_of_shown hparse hn]
    rfl

theorem ending_judged_of_passes {c : Check} {i : ℕ} (h : Passes c sel s i) :
    (Reply.ofResult (judged c sel s i)).ending = some (.ok ()) := by
  unfold Passes at h
  rw [judged_eq hparse]
  cases hn : shown sel s i with
  | none =>
    rw [hn] at h
    simp only [if_pos h]
    rfl
  | some n =>
    rw [hn] at h
    simp only [h.1, if_pos h.2]
    rfl

/-- Nothing but that the check passes ends the wait. -/
theorem ending_judged_of_not_passes (hs : s.Uninterrupted) {c : Check} {i : ℕ}
    (h : ¬ Passes c sel s i) : (Reply.ofResult (judged c sel s i)).ending = none := by
  unfold Passes at h
  rw [judged_eq hparse]
  cases hn : shown sel s i with
  | none =>
    rw [hn] at h
    simp only [if_neg h]
    rfl
  | some n =>
    rw [hn] at h
    simp only []
    cases hout : outage? c s i n with
    | none => simp only [if_neg fun hholds => h ⟨hout, hholds⟩]; rfl
    | some r =>
      cases r with
      | interrupt e => exact absurd hout (hs.first?_ne i _ e)
      | failure f => rfl

theorem failure?_judged (c : Check) (s : Session) (i : ℕ) :
    (Reply.ofResult (judged c sel s i)).failure? = failure? c sel s i := by
  have hgoes : ∀ b : Bool,
      (Reply.ofResult (.ok (if b then some () else none))).failure? = none := by
    intro b
    cases b <;> rfl
  rw [judged_eq hparse, failure?]
  cases shown sel s i with
  | none => exact hgoes _
  | some n =>
    rw [Option.bind_some]
    simp only []
    cases outage? c s i n with
    | some r => cases r <;> rfl
    | none => exact hgoes _

end

/-- **A check passes at the first tick at which it holds.**  The tree is read once at every tick of
the interval.  Let `n` be the first number whose tick has reached the deadline.  At the first tick
before it at which the check holds of the element seen, or of none, it passes.  If there is no such
tick, it fails: with the last failure to read the element seen, if there was one, else with a
timeout.  Trees and history stay as they are.  If no element is seen, because there is none or it
cannot be resolved, only the check that there is none passes. -/
theorem check_passes_at_first_tick (e : Expectation) (c : Check) (sel : Selector) (s : Session)
    (hparse : Selector.parse e.locator.selector = .ok sel) (hinterval : 1 ≤ e.interval)
    (hs : s.Uninterrupted) :
    ∃ n, IsLeast {i : ℕ | s.clock + max 0 e.timeout ≤ s.clock + i * e.interval} n ∧
      (∀ k < n, Passes c sel s (s.answererAt e.interval k) →
        (∀ i < k, ¬ Passes c sel s (s.answererAt e.interval i)) →
        ∃ notes, s.exec (e.check c) =
          (.ok (), { s.visited e.interval (k + 1) (s.clock + k * e.interval) with
            notes := s.notes ++ notes })) ∧
      ((∀ i < n, ¬ Passes c sel s (s.answererAt e.interval i)) →
        ∃ notes, s.exec (e.check c) =
          (.error (.failure (((List.range n).filterMap fun i =>
              failure? c sel s (s.answererAt e.interval i)).getLast?.getD
            (.waitTimeout e.locator.selector e.timeout (some c.description)))),
            { s.visited e.interval n (s.clock + n * e.interval) with
              notes := s.notes ++ notes })) ∧
      ∀ i, shown sel s i = none → (Passes c sel s i ↔ c = .notExists) := by
  have hpause : (e.wait c).pause = e.interval := max_eq_right hinterval
  have hcheck := exec_check hparse c s
  have hbody : s.Glances (e.attempt c) (judged c sel s) := by
    refine glances_attempt hparse fun u hframes _ => ?_
    have hu : u.Uninterrupted := ⟨hframes ▸ hs.failing, hframes ▸ hs.outages⟩
    exact hu.trouble?_ne sel u.answerer
  rcases s.exists_isLeast_late (max 0 e.timeout) hinterval with ⟨n, hn⟩
  refine ⟨n, hn, ?_, ?_, ?_⟩
  · -- the tick is early, and its reading is the first one that ends the wait
    intro k hkn hk hfirst
    have hleast : IsLeast
        {i | (s.glances (e.wait c).pause (judged c sel s) i).reply.ending ≠ none} k := by
      rw [hpause]
      constructor
      · change Reply.ending _ ≠ none
        rw [glances, ending_judged_of_passes hparse hk]
        exact Option.some_ne_none _
      · intro i hi
        by_contra hik
        exact hi (ending_judged_of_not_passes hparse hs (hfirst i (not_le.mp hik)))
    have hearly : s.clock + k * (e.wait c).pause < s.clock + max 0 e.timeout := by
      rw [hpause]
      by_contra hlate
      exact absurd (hn.2 (not_lt.mp hlate)) (not_le.mpr hkn)
    have hwait := exec_waitFor_of_ending hbody (e.wait c) hleast (r := .ok ()) ?_ hearly
    · rwa [hpause, ← hcheck] at hwait
    · rw [hpause]
      exact ending_judged_of_passes hparse hk
  · intro hnone
    have hwait := exec_waitFor_of_deadline hbody (e.wait c) (n := n)
    rw [hpause] at hwait
    rw [hcheck]
    rcases hwait hn fun i hi => ending_judged_of_not_passes hparse hs (hnone i hi) with
      ⟨notes, hlast⟩
    have hfailures : Outcome.failures (s.glances e.interval (judged c sel s)) n =
        (List.range n).filterMap fun i => failure? c sel s (s.answererAt e.interval i) := by
      simp only [Outcome.failures, glances, failure?_judged hparse]
    rw [hfailures] at hlast
    exact ⟨notes, hlast⟩
  · intro i hi
    rw [Passes, hi]
    exact c.holds_none_iff

/-! ### A button that comes to be readable -/

/-- The source fails at first, then it cannot be read whether the button is enabled. -/
def failingButton : Session :=
  { frames := [
      { failing := some (.failure (.foreign "OSError" [])), untilRead := some 1 },
      { tree := saveButton true, untilRead := some 2
        outages := [
          { reading := ([0], .enabled), raised := .failure (.foreign "ValueError" []) }] },
      { tree := saveButton true }]
    live := true, dispatcherFrame := none, timeout := 1000, interval := 100 }

def expectSave (timeout : Int) : Expectation := { locator := save, timeout, interval := 100 }

theorem uninterrupted_failingButton : failingButton.Uninterrupted := by
  constructor
  · simp [failingButton]
  · simp [failingButton]

theorem shown_failingButton :
    shown saveSelector failingButton 0 = none ∧
    ∀ i, i = 1 ∨ i = 2 → shown saveSelector failingButton i =
      some { path := [0], element := .node { identifier := some "save" } [] } := by
  have hparse : Selector.parse (expectSave 0).locator.selector = .ok saveSelector := parse_save
  refine ⟨shown_eq hparse failingButton 0, ?_⟩
  intro i hi
  rw [shown_eq hparse]
  rcases hi with rfl | rfl <;> cbv

/-- Only at the third tick the button is seen and read. -/
theorem passes_failingButton :
    (∀ i < 2, ¬ Passes .enabled saveSelector failingButton (failingButton.answererAt 100 i)) ∧
    Passes .enabled saveSelector failingButton (failingButton.answererAt 100 2) := by
  rcases shown_failingButton with ⟨hfails, hshown⟩
  constructor
  · intro i hi
    unfold Passes
    obtain rfl | rfl : i = 0 ∨ i = 1 := by omega
    · have hframe : failingButton.answererAt 100 0 = 0 := by decide
      rw [hframe, hfails]
      decide
    · have hframe : failingButton.answererAt 100 1 = 1 := by decide
      rw [hframe, hshown 1 (.inl rfl)]
      exact fun h => nomatch h.1
  · have hframe : failingButton.answererAt 100 2 = 2 := by decide
    rw [Passes, hframe, hshown 2 (.inr rfl)]
    exact ⟨rfl, rfl⟩

theorem failures_failingButton :
    ((List.range 2).filterMap fun i =>
      failure? .enabled saveSelector failingButton (failingButton.answererAt 100 i)) =
        [.foreign "ValueError" []] := by
  rcases shown_failingButton with ⟨hfails, hshown⟩
  have hfirst : failure? .enabled saveSelector failingButton 0 = none := by
    rw [failure?, hfails]
    rfl
  have hsecond : failure? .enabled saveSelector failingButton 1 =
      some (.foreign "ValueError" []) := by
    rw [failure?, hshown 1 (.inl rfl)]
    rfl
  have hframes : (List.range 2).map (failingButton.answererAt 100) = [0, 1] := by decide
  rw [← Function.comp_def, ← List.filterMap_map, hframes, List.filterMap_cons_none hfirst,
    List.filterMap_cons_some hsecond, List.filterMap_nil]

theorem check_passes_at_first_tick_failingButton :
    Selector.parse save.selector = .ok saveSelector ∧ failingButton.Uninterrupted ∧
    (∃ notes, failingButton.exec ((expectSave 1000).check .enabled) =
      (.ok (), { failingButton with clock := 200, readings := [0, 100, 200], notes })) ∧
    ∃ notes, failingButton.exec ((expectSave 200).check .enabled) =
      (.error (.failure (.foreign "ValueError" [])),
        { failingButton with clock := 200, readings := [0, 100], notes }) := by
  rcases passes_failingButton with ⟨hbefore, hpasses⟩
  refine ⟨parse_save, uninterrupted_failingButton, ?_, ?_⟩
  · rcases check_passes_at_first_tick (expectSave 1000) .enabled saveSelector failingButton
      parse_save (by decide) uninterrupted_failingButton with ⟨n, hn, hfirst, -, -⟩
    have hlate : 2 < n := by
      by_contra hle
      have hle' : (0 : Int) + max 0 1000 ≤ 0 + n * 100 := hn.1
      omega
    exact hfirst 2 hlate hpasses hbefore
  · rcases check_passes_at_first_tick (expectSave 200) .enabled saveSelector failingButton
      parse_save (by decide) uninterrupted_failingButton with ⟨n, hn, -, hnone, -⟩
    have htwo : n = 2 := by
      have hle : (0 : Int) + max 0 200 ≤ 0 + n * 100 := hn.1
      have htick : (0 : Int) + max 0 200 ≤ 0 + (2 : ℕ) * 100 := by decide
      have hleast := hn.2 htick
      omega
    subst htwo
    rcases hnone hbefore with ⟨notes, hexec⟩
    refine ⟨notes, hexec.trans ?_⟩
    have hinterval : (expectSave 200).interval = 100 := rfl
    rw [hinterval, failures_failingButton]
    rfl

end Expectation

end UiTree
