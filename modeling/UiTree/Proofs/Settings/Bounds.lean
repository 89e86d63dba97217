import UiTree.Settings.Load

/-!
# Bounds — what settings that were checked can be relied on for

Whatever the caller, the environment and the variable file say, settings that pass their checks
have a timeout that is not negative and an interval that is positive.
-/

namespace UiTree.Settings

open Datum

structure Bounded (s : Settings) : Prop where
  waitTimeout : 0 ≤ s.waitTimeout
  pollInterval : 1 ≤ s.pollInterval

theorem le_of_checkAtLeast {least i : Int} {d : Datum} (h : d.checkAtLeast least = .ok i) :
    least ≤ i := by
  unfold checkAtLeast at h
  split at h
  · split at h
    · rename_i hle
      cases h
      exact hle
    · cases h
  · cases h

/-- A setting is its default, or a value that passed its check. -/
theorem checkKey_cases {α : Type} {given : List (String × Json)} {key : Key} {default a : α}
    {check : Json → Checked α} (h : checkKey given key default check = .ok a) :
    a = default ∨ ∃ v, check v = .ok a := by
  unfold checkKey at h
  split at h
  · rename_i v _
    refine .inr ⟨v, ?_⟩
    cases hv : check v with
    | ok b =>
      rw [hv] at h
      exact h
    | error issues =>
      rw [hv] at h
      cases h
  · cases h
    exact .inl rfl

theorem le_of_checkKey {given : List (String × Json)} {key : Key} {least default i : Int}
    (hdefault : least ≤ default)
    (h : checkKey given key default (fun v => checkAtLeast least (.ofJson v)) = .ok i) :
    least ≤ i := by
  rcases checkKey_cases h with rfl | ⟨v, hv⟩
  · exact hdefault
  · exact le_of_checkAtLeast hv

theorem bounded_of_decode {given : List (String × Json)} {s : Settings}
    (h : decode given = .ok s) : s.Bounded := by
  unfold decode at h
  simp only [] at h
  split at h
  · rename_i hwait hpoll _ _ _ _
    cases h
    exact ⟨le_of_checkKey (by decide) hwait, le_of_checkKey (by decide) hpoll⟩
  · cases h

theorem bounded_of_load {folder : Folder} {environment : Environment}
    {given : List (String × Json)} {s : Settings}
    (h : load folder environment given = .ok s) : s.Bounded := by
  unfold load at h
  simp only [] at h
  cases hfiled : fileVariables folder (Json.ofPairs environment) with
  | error f =>
    rw [hfiled] at h
    cases h
  | ok filed =>
    rw [hfiled] at h
    -- what was chosen is decoded, and only the issues get another name
    cases hdecode : decode (Key.all.filterMap fun key =>
        (choose given (caseless (Json.ofPairs environment)) filed key).map (key.name, ·)) with
    | error issues =>
      change (decode _).mapError _ = _ at h
      rw [hdecode] at h
      cases h
    | ok decoded =>
      change (decode _).mapError _ = _ at h
      rw [hdecode] at h
      cases h
      exact bounded_of_decode hdecode

end UiTree.Settings
