import UiTree.Proofs.Page.Expectation
import UiTree.Proofs.Page.Perform

/-!
# Single shots — queries that look once and never fail

A query that looks once has an answer for every failure.  All of them go by the same search, so they
agree on what there is: everything that is found, or nothing if anything fails on the way.
-/

namespace UiTree

namespace Session

/-- The session after a look: the source was asked at these clocks, and notes were made. -/
def afterLook (s : Session) (asked : List Int) (notes : List Record) : Session :=
  { s with readings := s.readings ++ asked, notes := s.notes ++ notes }

variable (s : Session)

theorem afterLook_nil : s.afterLook [] [] = s := by
  simp [afterLook]

theorem afterLook_note (asked : List Int) (r : Record) :
    { s.afterLook asked [] with notes := (s.afterLook asked []).notes ++ [r] } =
      s.afterLook asked [r] := by
  simp [afterLook]

theorem answered_eq_afterLook :
    s.answered = s.afterLook (if s.live then [s.clock] else []) [] := by
  unfold answered
  cases s.live with
  | true => simp [afterLook, asked]
  | false => simp [afterLook]

theorem Uninterrupted.outage?_ne {s : Session} (hs : s.Uninterrupted) (t : Target) (x : Attribute)
    (e : Interrupt) : s.outage? t x ≠ some (.interrupt e) := by
  have hfirst := hs.first?_ne t.frame [(t.path, x)] e
  rwa [Outage.first?, List.findSome?_singleton] at hfirst

end Session

namespace Locator

open Session

variable {α : Type} (l : Locator) (s : Session)

/-! ## 1. What there is to be seen -/

/-- The clocks at which a search asks the source: one at most, and none for a malformed selector. -/
def asks : List Int :=
  match Selector.parse l.selector with
  | .ok _ => if s.live then [s.clock] else []
  | .error _ => []

/-- What a search comes to. -/
def searched : Except Raised (List Target) :=
  match Selector.parse l.selector with
  | .error f => .error (.failure f)
  | .ok sel =>
    match trouble? sel s s.answerer with
    | some r => .error r
    | none => .ok (finds sel s s.answerer)

/-- Everything that a search finds, and nothing if it fails. -/
def seen : List Target := (l.searched s).toOption.getD []

/-- The first element seen can be read to be enabled. -/
def firstEnabled : Bool :=
  (l.seen s).head?.any fun t => (s.outage? t .enabled).isNone && (s.attributes t).enabled

theorem exec_search_eq : s.exec l.search = (l.searched s, s.afterLook (l.asks s) []) := by
  unfold searched asks
  cases hparse : Selector.parse l.selector with
  | error f =>
    rw [search, parse, hparse, afterLook_nil]
    rfl
  | ok sel =>
    rw [exec_search s hparse, answered_eq_afterLook]
    simp only []
    cases trouble? sel s s.answerer with
    | some r => rfl
    | none => rfl

theorem seen_of_parse_eq_error {f : Failure} (hparse : Selector.parse l.selector = .error f) :
    l.seen s = [] := by
  simp only [seen, searched, hparse]
  rfl

/-- Nothing is seen in part: what cannot be read hides all there is. -/
theorem seen_of_parse_eq_ok {sel : Selector} (hparse : Selector.parse l.selector = .ok sel) :
    l.seen s = if trouble? sel s s.answerer = none then finds sel s s.answerer else [] := by
  simp only [seen, searched, hparse]
  cases trouble? sel s s.answerer with
  | some r => rfl
  | none => rfl

theorem trouble?_eq_none_iff (sel : Selector) (i : ℕ) :
    trouble? sel s i = none ↔ s.sourceFailure? i = none ∧ Readable sel (s.frame i) := by
  rw [trouble?, Option.or_eq_none_iff, Readable]

variable {s}

theorem searched_cases (hs : s.Uninterrupted) :
    (∃ f, l.searched s = .error (.failure f) ∧ l.seen s = []) ∨
      l.searched s = .ok (l.seen s) := by
  unfold seen
  cases hsearched : l.searched s with
  | ok found => exact .inr rfl
  | error r =>
    cases r with
    | failure f => exact .inl ⟨f, rfl, rfl⟩
    | interrupt i =>
      -- neither the parser nor the session raises one
      unfold searched at hsearched
      cases hparse : Selector.parse l.selector with
      | error f =>
        rw [hparse] at hsearched
        cases hsearched
      | ok sel =>
        simp only [hparse] at hsearched
        cases htrouble : trouble? sel s s.answerer with
        | none =>
          rw [htrouble] at hsearched
          cases hsearched
        | some r =>
          rw [htrouble] at hsearched
          cases hsearched
          exact absurd htrouble (hs.trouble?_ne sel s.answerer i)

/-- Resolving goes by the same search, and it may be raised that there is no element. -/
theorem tryResolve_cases (hs : s.Uninterrupted) :
    (∃ f, s.exec l.tryResolve = (.error (.failure f), s.afterLook (l.asks s) []) ∧
      l.seen s = []) ∨
    s.exec l.tryResolve = (.ok (l.seen s).head?, s.afterLook (l.asks s) []) := by
  have hcases := l.searched_cases hs
  rw [tryResolve, exec_tryCatch, exec_map, resolve, exec_bind, exec_search_eq]
  obtain ⟨f, hsearched, hseen⟩ | hsearched := hcases
  · rw [hsearched, hseen]
    cases f with
    | elementNotFound selector => exact .inr rfl
    | _ => exact .inl ⟨_, rfl, rfl⟩
  · rw [hsearched]
    cases l.seen s with
    | nil => exact .inr rfl
    | cons t ts => exact .inr rfl

/-! ## 2. What the queries answer -/

/-- A failure is noted, and the fallback is the answer. -/
theorem exec_singleShot_of_failure {query : Effect α} {asked : List Int} (fallback : α)
    {f : Failure} (h : s.exec query = (.error (.failure f), s.afterLook asked [])) :
    ∃ notes, s.exec (l.singleShot fallback query) = (.ok fallback, s.afterLook asked notes) := by
  rw [singleShot, exec_tryCatch, h]
  exact ⟨_, congrArg (Prod.mk _) (s.afterLook_note asked _)⟩

theorem firstEnabled_eq_true_iff :
    l.firstEnabled s = true ↔ ∃ t, (l.seen s).head? = some t ∧ s.outage? t .enabled = none ∧
      (s.attributes t).enabled = true := by
  simp [firstEnabled, Option.any_eq_true]

section

variable (hs : s.Uninterrupted)
include hs

theorem exec_all : ∃ notes, s.exec l.all = (.ok (l.seen s), s.afterLook (l.asks s) notes) := by
  have hsearch := l.exec_search_eq s
  obtain ⟨f, hsearched, hseen⟩ | hsearched := l.searched_cases hs
  · rw [hsearched] at hsearch
    rw [hseen]
    exact l.exec_singleShot_of_failure [] hsearch
  · rw [hsearched] at hsearch
    exact ⟨[], l.exec_singleShot_of_ok [] hsearch⟩

theorem exec_count :
    ∃ notes, s.exec l.count = (.ok (l.seen s).length, s.afterLook (l.asks s) notes) := by
  obtain ⟨notes, hall⟩ := l.exec_all hs
  refine ⟨notes, ?_⟩
  rw [count, exec_bind, hall]
  rfl

theorem exec_isVisible :
    ∃ notes, s.exec l.isVisible =
      (.ok (decide (0 < (l.seen s).length)), s.afterLook (l.asks s) notes) := by
  unfold isVisible
  obtain ⟨f, htry, hseen⟩ | htry := l.tryResolve_cases hs
  · rw [hseen]
    apply l.exec_singleShot_of_failure false (f := f)
    rw [exec_bind, htry]
  · refine ⟨[], l.exec_singleShot_of_ok false ?_⟩
    rw [exec_bind, htry]
    cases l.seen s with
    | nil => rfl
    | cons t ts => rfl

theorem exec_isEnabled :
    ∃ notes, s.exec l.isEnabled = (.ok (l.firstEnabled s), s.afterLook (l.asks s) notes) := by
  unfold isEnabled firstEnabled
  obtain ⟨f, htry, hseen⟩ | htry := l.tryResolve_cases hs
  · rw [hseen]
    apply l.exec_singleShot_of_failure false (f := f)
    rw [exec_bind, htry]
  · cases hfirst : (l.seen s).head? with
    | none =>
      refine ⟨[], l.exec_singleShot_of_ok false ?_⟩
      rw [exec_bind, htry, hfirst]
      rfl
    | some t =>
      have hlook := (s.afterLook (l.asks s) []).exec_look_singleton t .enabled
      have hsame : (s.afterLook (l.asks s) []).outage? t .enabled = s.outage? t .enabled := rfl
      rw [hsame] at hlook
      rw [Option.any_some]
      cases hout : s.outage? t .enabled with
      | none =>
        rw [hout] at hlook
        refine ⟨[], l.exec_singleShot_of_ok false ?_⟩
        rw [exec_bind, htry, hfirst]
        simp only []
        rw [exec_bind, hlook]
        rfl
      | some r =>
        rw [hout] at hlook
        cases r with
        | interrupt i => exact absurd hout (hs.outage?_ne t .enabled i)
        | failure f =>
          apply l.exec_singleShot_of_failure false (f := f)
          rw [exec_bind, htry, hfirst]
          simp only []
          rw [exec_bind, hlook]
          rfl

end

/-- **Single shots never fail, and agree.**  Whatever the selector is, whatever the source and the
elements raise but interrupts, a query that looks once has an answer.  It takes no time, changes
nothing but notes, and asks the source at most once, for a malformed selector not at all.  All of
the queries go by the same list: it is everything there is to be found, or empty if the selector is
malformed, the source fails, or anything that the search looks at cannot be read.  The list is
counted, an element is visible if the list has one, and enabled if the first one can be seen to
be. -/
theorem single_shots_agree (l : Locator) (s : Session) (hs : s.Uninterrupted) :
    ∃ (found : List Target) (enabled : Bool) (asked : List Int),
      (∃ notes, s.exec l.all = (.ok found, s.afterLook asked notes)) ∧
      (∃ notes, s.exec l.count = (.ok found.length, s.afterLook asked notes)) ∧
      (∃ notes, s.exec l.isVisible = (.ok (decide (0 < found.length)), s.afterLook asked notes)) ∧
      (∃ notes, s.exec l.isEnabled = (.ok enabled, s.afterLook asked notes)) ∧
      (enabled = true ↔ ∃ t, found.head? = some t ∧ s.outage? t .enabled = none ∧
        (s.attributes t).enabled = true) ∧
      (enabled = true → 0 < found.length) ∧
      (∀ f, Selector.parse l.selector = .error f → found = [] ∧ asked = []) ∧
      ∀ sel, Selector.parse l.selector = .ok sel →
        let whole := s.sourceFailure? s.answerer = none ∧ Readable sel (s.frame s.answerer)
        (asked = if s.live then [s.clock] else []) ∧
          (whole → found = finds sel s s.answerer) ∧ (¬ whole → found = []) := by
  have hiff := l.firstEnabled_eq_true_iff (s := s)
  refine ⟨l.seen s, l.firstEnabled s, l.asks s, l.exec_all hs, l.exec_count hs,
    l.exec_isVisible hs, l.exec_isEnabled hs, hiff, ?_, ?_, ?_⟩
  · intro henabled
    obtain ⟨t, hfirst, -⟩ := hiff.mp henabled
    exact List.length_pos_of_mem (List.mem_of_head? hfirst)
  · intro f hparse
    refine ⟨l.seen_of_parse_eq_error s hparse, ?_⟩
    simp only [asks, hparse]
  · intro sel hparse
    rw [l.seen_of_parse_eq_ok s hparse, ← trouble?_eq_none_iff]
    refine ⟨?_, fun h => if_pos h, fun h => if_neg h⟩
    simp only [asks, hparse]

/-! ### A row that can be read in part -/

/-- Two buttons, and it cannot be read which the second one is. -/
def brokenRow : Session :=
  { frames := [
      { tree := .node {} [.node { identifier := some "save" } [], .node {} []]
        outages := [
          { reading := ([1], .identifier), raised := .failure (.foreign "OSError" []) }] }]
    live := true, dispatcherFrame := none, timeout := 1000, interval := 100 }

/-- The first button is not seen either, for it would be part of the answer. -/
theorem single_shots_agree_brokenRow :
    brokenRow.Uninterrupted ∧ finds saveSelector brokenRow 0 = [{ frame := 0, path := [0] }] ∧
    (∃ notes, brokenRow.exec save.all = (.ok [], brokenRow.afterLook [0] notes)) ∧
    (∃ notes, brokenRow.exec save.count = (.ok 0, brokenRow.afterLook [0] notes)) ∧
    (∃ notes, brokenRow.exec save.isVisible = (.ok false, brokenRow.afterLook [0] notes)) ∧
    ∃ notes, brokenRow.exec save.isEnabled = (.ok false, brokenRow.afterLook [0] notes) := by
  have huninterrupted : brokenRow.Uninterrupted := by
    constructor
    · simp [brokenRow]
    · simp [brokenRow]
  have hbroken : ¬ (brokenRow.sourceFailure? brokenRow.answerer = none ∧
      Readable saveSelector (brokenRow.frame brokenRow.answerer)) := by
    have hout : (Outage.first? (brokenRow.frame 0).outages
        (saveSelector.readings (brokenRow.frame 0).tree)).isNone = false := by
      decide +kernel
    rintro ⟨-, hreadable⟩
    have hnone : Outage.first? (brokenRow.frame 0).outages
        (saveSelector.readings (brokenRow.frame 0).tree) = none := hreadable
    rw [hnone] at hout
    cases hout
  refine ⟨huninterrupted, by decide +kernel, ?_⟩
  obtain ⟨found, enabled, asked, hall, hcount, hvisible, henabled, -, hpositive, -, hsel⟩ :=
    single_shots_agree save brokenRow huninterrupted
  obtain ⟨rfl, -, hempty⟩ := hsel saveSelector parse_save
  obtain rfl := hempty hbroken
  obtain rfl : enabled = false := by
    cases enabled with
    | false => rfl
    | true => exact absurd (hpositive rfl) (by decide)
  exact ⟨hall, hcount, hvisible, henabled⟩

end Locator

end UiTree
