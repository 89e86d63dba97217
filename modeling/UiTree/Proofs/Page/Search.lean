import UiTree.Proofs.Page.Glance
import UiTree.Proofs.Page.Resolution

/-!
# Searches — what a locator comes to when a frame answers

A search reads the tree once.  What it raises or finds is settled by the frame that answers, whether
the source is a fixed tree or asked anew, and whatever of the tree cannot be read.
-/

namespace UiTree

namespace Session

/-- What holds of all frames, and of one that is not there, holds of the frame with any number. -/
theorem frame_of_forall {s : Session} {P : Frame → Prop} (h : ∀ f ∈ s.frames, P f)
    (hnone : P {}) (i : ℕ) : P (s.frame i) := by
  unfold frame
  cases hi : s.frames[i]? with
  | none => exact hnone
  | some f => exact h f (List.mem_of_getElem? hi)

variable (s : Session)

theorem frame_answered (i : ℕ) : s.answered.frame i = s.frame i := by
  unfold answered
  cases s.live with
  | true => rfl
  | false => rfl

theorem notes_answered : s.answered.notes = s.notes := by
  unfold answered
  cases s.live with
  | true => rfl
  | false => rfl

theorem attributes_answered (t : Target) : s.answered.attributes t = s.attributes t := by
  rw [attributes, frame_answered, attributes]

end Session

namespace Locator

open Session

/-- What a search raises when a frame answers: what the source raises, or what cannot be read. -/
def trouble? (sel : Selector) (s : Session) (i : ℕ) : Option Raised :=
  (s.sourceFailure? i).or (Outage.first? (s.frame i).outages (sel.readings (s.frame i).tree))

/-- What there is to be found when a frame answers. -/
def finds (sel : Selector) (s : Session) (i : ℕ) : List Target :=
  (sel.find (s.frame i).tree).map fun n => { frame := i, path := n.path }

/-- What an attempt to find an element comes to; that there is none may be raised as well. -/
def tried (sel : Selector) (s : Session) (i : ℕ) : Except Raised (Option Target) :=
  match trouble? sel s i with
  | some (.failure (.elementNotFound _)) => .ok none
  | some r => .error r
  | none => .ok (finds sel s i).head?

/-- What a look for an element that meets a condition comes to. -/
def sighted (sel : Selector) (c : Condition) (s : Session) (i : ℕ) :
    Except Raised (Option Target) :=
  match tried sel s i with
  | .error r => .error r
  | .ok none => .ok none
  | .ok (some t) =>
    match Outage.first? (s.frame t.frame).outages (c.reads.map (t.path, ·)) with
    | some r => .error r
    | none => .ok (if c.holds (s.attributes t) then some t else none)

/-- The attributes of an element found are those it was found with. -/
theorem attributes_of_findFirst? {l : Locator} {sel : Selector} {s : Session}
    (hparse : Selector.parse l.selector = .ok sel) {i : ℕ} {n : Located}
    (hn : sel.findFirst? (s.frame i).tree = some n) :
    s.attributes { frame := i, path := n.path } = n.attributes := by
  have hmeans := (Selector.mem_find (Selector.Grammar.steps_ne_nil_of_parse hparse)).mp
    (List.mem_of_head? hn)
  rcases hmeans.within with ⟨path, hpath, hget⟩
  have hpath' : n.path = path := hpath
  have hget' : (s.frame i).tree.get? path = some n.element := hget
  simp only [attributes, hpath', hget', Option.map_some, Option.getD_some]
  rfl

theorem head?_finds (sel : Selector) (s : Session) (i : ℕ) :
    (finds sel s i).head? =
      (sel.findFirst? (s.frame i).tree).map fun n => { frame := i, path := n.path } := by
  rw [finds, List.head?_map, Selector.findFirst?]

section

variable {l : Locator} {sel : Selector} (s : Session)
variable (hparse : Selector.parse l.selector = .ok sel)
include hparse

theorem exec_search :
    s.exec l.search = s.answered.barring (trouble? sel s s.answerer)
      (.ok (finds sel s s.answerer), s.answered) := by
  rw [search, parse, exec_bind, exec_ofParsed_eq_ok.mpr ⟨hparse, rfl⟩]
  simp only []
  rw [exec_bind_of_barring s.exec_readSource_eq_barring, exec_get_bind,
    exec_bind_of_barring (s.answered.exec_check s.answerer _), trouble?, barring_or]
  simp only [frame_answered]
  rfl

theorem exec_resolve :
    s.exec l.resolve = s.answered.barring (trouble? sel s s.answerer)
      (match (finds sel s s.answerer).head? with
        | some t => .ok t
        | none => .error (.failure (.elementNotFound l.selector)), s.answered) := by
  rw [resolve, exec_bind_of_barring (exec_search s hparse)]
  congr 1
  cases finds sel s s.answerer with
  | nil => rfl
  | cons t ts => rfl

theorem exec_tryResolve : s.exec l.tryResolve = (tried sel s s.answerer, s.answered) := by
  rw [tryResolve, exec_tryCatch, exec_map, exec_resolve s hparse, tried]
  cases trouble? sel s s.answerer with
  | some r =>
    cases r with
    | interrupt i => rfl
    | failure f => cases f <;> rfl
  | none =>
    cases (finds sel s s.answerer).head? with
    | some t => rfl
    | none => rfl

theorem exec_attempt (c : Condition) :
    s.exec (l.attempt c) = (sighted sel c s s.answerer, s.answered) := by
  rw [attempt, attemptBy, exec_bind, exec_tryResolve s hparse, sighted]
  rcases tried sel s s.answerer with r | _ | t
  · rfl
  · rfl
  · simp only []
    rw [exec_bind, Condition.met, exec_bind_of_barring (s.answered.exec_look t _), frame_answered,
      attributes_answered]
    cases Outage.first? (s.frame t.frame).outages (c.reads.map (t.path, ·)) with
    | some r => rfl
    | none => rfl

/-- If nothing is out, the look at the condition sees the element as it was found. -/
theorem sighted_of_outages_eq_nil (c : Condition) {i : ℕ} (hout : (s.frame i).outages = []) :
    sighted sel c s i = match s.sourceFailure? i with
      | some (.failure (.elementNotFound _)) => .ok none
      | some r => .error r
      | none =>
        let found := (sel.findFirst? (s.frame i).tree).filter (c.holds ·.attributes)
        .ok (found.map fun n => { frame := i, path := n.path }) := by
  rw [sighted, tried, trouble?, hout, Outage.first?_nil, Option.or_none]
  cases s.sourceFailure? i with
  | some r =>
    cases r with
    | interrupt e => rfl
    | failure f => cases f <;> rfl
  | none =>
    simp only [head?_finds]
    cases hn : sel.findFirst? (s.frame i).tree with
    | none => rfl
    | some n =>
      simp only [Option.map_some, attributes_of_findFirst? hparse hn, hout, Outage.first?_nil,
        Option.filter_some]
      cases c.holds n.attributes with
      | true => rfl
      | false => rfl

/-- A look is a glance that makes no notes. -/
theorem glances_attempt (c : Condition) : s.Glances (l.attempt c) (sighted sel c s) := by
  intro u hframes hlive
  have hsighted : sighted sel c u = sighted sel c s := by
    funext i
    simp only [sighted, tried, trouble?, finds, sourceFailure?, attributes, frame, hframes, hlive]
    rfl
  refine ⟨[], ?_⟩
  rw [exec_attempt u hparse, hsighted, List.append_nil, ← notes_answered]

end

/-- A query that comes to a value needs no fallback. -/
theorem exec_singleShot_of_ok {α : Type} {s t : Session} {query : Effect α} {a : α} (l : Locator)
    (fallback : α) (h : s.exec query = (.ok a, t)) :
    s.exec (l.singleShot fallback query) = (.ok a, t) := by
  rw [singleShot, exec_tryCatch, h]

end Locator

end UiTree
