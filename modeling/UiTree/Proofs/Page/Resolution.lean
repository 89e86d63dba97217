import UiTree.Proofs.Page.Effect
import UiTree.Proofs.Selector.FirstMatch
import UiTree.Proofs.Selector.Reading

/-!
# Resolution — the element a locator stands for

A locator resolves when its text is a selector, the source answers, nothing that the search looks at
is out, and something is found.  It stands for the first element found in the tree just read, which
is the earliest one in document order that the selector means.
-/

namespace UiTree.Locator

open Session

/-- Nothing that a selector looks at in a frame is out. -/
def Readable (s : Selector) (f : Frame) : Prop :=
  Outage.first? f.outages (s.readings f.tree) = none

theorem exec_search_eq_ok {l : Locator} {before after : Session} {targets : List Target} :
    before.exec l.search = (.ok targets, after) ↔ ∃ s i,
      Selector.parse l.selector = .ok s ∧ before.exec readSource = (.ok i, after) ∧
      Readable s (after.frame i) ∧
      targets = (s.find (after.frame i).tree).map fun n => { frame := i, path := n.path } := by
  rw [search, parse, exec_bind_eq_ok]
  constructor
  · -- each of the steps comes to a value, and the first and the last leave the session as it is
    rintro ⟨s, t, hparse, h⟩
    rcases exec_ofParsed_eq_ok.mp hparse with ⟨hs, rfl⟩
    rcases exec_bind_eq_ok.mp h with ⟨i, u, hread, h⟩
    rw [exec_get_bind] at h
    rcases exec_bind_eq_ok.mp h with ⟨⟨⟩, v, hcheck, h⟩
    rcases exec_check_eq_ok.mp hcheck with ⟨hout, rfl⟩
    rw [exec_pure, Prod.mk.injEq, Except.ok.injEq] at h
    rcases h with ⟨rfl, rfl⟩
    exact ⟨s, i, hs, hread, hout, rfl⟩
  · rintro ⟨s, i, hs, hread, hout, rfl⟩
    refine ⟨s, before, exec_ofParsed_eq_ok.mpr ⟨hs, rfl⟩, ?_⟩
    refine exec_bind_eq_ok.mpr ⟨i, after, hread, ?_⟩
    rw [exec_get_bind]
    exact exec_bind_eq_ok.mpr ⟨(), after, exec_check_eq_ok.mpr ⟨hout, rfl⟩, rfl⟩

theorem exec_resolve_eq_ok {l : Locator} {before after : Session} {t : Target} :
    before.exec l.resolve = (.ok t, after) ↔ ∃ s,
      Selector.parse l.selector = .ok s ∧ before.exec readSource = (.ok t.frame, after) ∧
      Readable s (after.frame t.frame) ∧
      (s.findFirst? (after.frame t.frame).tree).map (·.path) = some t.path := by
  rw [resolve, exec_bind_eq_ok]
  constructor
  · rintro ⟨targets, u, hsearch, h⟩
    rcases exec_search_eq_ok.mp hsearch with ⟨s, i, hs, hread, hout, rfl⟩
    cases hfind : s.find (u.frame i).tree with
    | nil =>
      rw [hfind] at h
      cases h
    | cons n ns =>
      rw [hfind] at h
      have htarget : ({ frame := i, path := n.path } : Target) = t ∧ u = after := by
        simpa [exec_pure] using h
      rcases htarget with ⟨rfl, rfl⟩
      exact ⟨s, hs, hread, hout, by rw [Selector.findFirst?, hfind]; rfl⟩
  · rintro ⟨s, hs, hread, hout, hfirst⟩
    -- something is found, so the first of it is the target
    refine ⟨_, after, exec_search_eq_ok.mpr ⟨s, t.frame, hs, hread, hout, rfl⟩, ?_⟩
    rw [Selector.findFirst?] at hfirst
    cases hfind : s.find (after.frame t.frame).tree with
    | nil =>
      rw [hfind] at hfirst
      cases hfirst
    | cons n ns =>
      rw [hfind, List.head?_cons, Option.map_some, Option.some.injEq] at hfirst
      rw [List.map_cons, hfirst]
      rfl

open Classical in
/-- **Matches come in document order.**  The first occurrences of what a search finds are the
elements that the selector means, in document order, though the search may repeat elements and leave
that order.  So the first element found is the earliest one meant, and a locator resolves to the
earliest element meant in the tree that it reads. -/
theorem first_matches_in_document_order :
    (∀ (s : Selector) (e : Element), s.steps ≠ [] →
      ((s.find e).map (·.path)).eraseDups = (e.preorder.filter (s.Means e ·)).map (·.path) ∧
      s.findFirst? e = e.preorder.find? (s.Means e ·)) ∧
    (∃ (s : Selector) (e : Element), s.steps ≠ [] ∧
      ¬ ((s.find e).map (·.path)).Nodup ∧ ¬ ((s.find e).map e.position).Pairwise (· ≤ ·)) ∧
    ∀ (l : Locator) (before after : Session) (t : Target),
      before.exec l.resolve = (.ok t, after) ↔ ∃ s,
        Selector.parse l.selector = .ok s ∧ before.exec readSource = (.ok t.frame, after) ∧
        Readable s (after.frame t.frame) ∧
        let e := (after.frame t.frame).tree
        (e.preorder.find? (s.Means e ·)).map (·.path) = some t.path := by
  refine ⟨?_, ?_, ?_⟩
  · intro s e hs
    exact ⟨Selector.eraseDups_find s e hs, Selector.findFirst?_eq_find? s e hs⟩
  · -- nested groups hold the same button
    refine ⟨Selector.groupButton, Selector.nestedGroups, by decide, ?_, ?_⟩
    · rw [Selector.groupButton_find_nestedGroups]
      decide
    · decide +kernel
  · intro l before after t
    rw [exec_resolve_eq_ok]
    apply exists_congr
    intro s
    apply and_congr_right
    intro hparse
    rw [Selector.findFirst?_eq_find? s _ (Selector.Grammar.steps_ne_nil_of_parse hparse)]

end UiTree.Locator
