import UiTree.Proofs.KeyChord.Reading
import UiTree.Proofs.Page.Look
import UiTree.Proofs.Page.Perform

/-!
# Disabled elements — what the dispatcher refuses to do to them

Clicks and writes look at the element before their first effect, so that a disabled one is refused
and nothing has changed.  Keys do not look: they reach the element by way of the focus, which any
element may take.
-/

namespace UiTree.Session

/-- The dispatcher is not told to fail, and the trees are plain data. -/
structure Unhindered (s : Session) : Prop where
  failing : s.failing = []
  outages : ∀ f ∈ s.frames, f.outages = []

/-- The target is an element of its tree, and a disabled one. -/
def Disabled (s : Session) (t : Target) : Prop :=
  ∃ e, (s.frame t.frame).tree.get? t.path = some e ∧ e.attributes.enabled = false

namespace Unhindered

variable {s : Session} (hs : s.Unhindered)
include hs

theorem outages_frame (i : ℕ) : (s.frame i).outages = [] :=
  frame_of_forall hs.outages rfl i

theorem homeReadable : s.HomeReadable := fun i _ => hs.outages_frame i

/-- The one thing that is wrong with a disabled element. -/
theorem unfit?_of_disabled {t : Target} (ht : s.Disabled t) (a : Action) :
    s.unfit? a t = some (.failure (.actionFailed a.name "element is disabled")) := by
  rcases ht with ⟨e, he, hdisabled⟩
  have hread : s.outage? t .enabled = none := by
    rw [outage?, hs.outages_frame]
    rfl
  have hattributes : (s.attributes t).enabled = false := by
    rw [attributes, he]
    exact hdisabled
  rw [unfit?, hread, hattributes]
  rfl

/-- Every action that looks at the element is refused for it, before anything else. -/
theorem refusal?_of_disabled {t : Target} (ht : s.Disabled t) {a : Action} (hfocus : a ≠ .focus)
    (hkeys : a ≠ .pressKey) (text : String) :
    s.refusal? a t text = some (.failure (.actionFailed a.name "element is disabled")) := by
  have hunfit := hs.unfit?_of_disabled ht a
  cases a with
  | focus => exact absurd rfl hfocus
  | pressKey => exact absurd rfl hkeys
  | type =>
    rw [refusal?, hs.failing, hunfit]
    rfl
  | _ =>
    rw [refusal?, hs.failing]
    exact hunfit

/-- Keys that are a chord are refused to no element. -/
theorem refusal?_of_chord (t : Target) {keys : String} {chord : KeyChord}
    (hparse : KeyChord.parse keys = .ok chord) : s.refusal? .pressKey t keys = none := by
  rw [refusal?, hs.failing, hparse]
  rfl

end Unhindered

/-- **A disabled element is refused, save for keys.**  Clicks and writes fail for the element, under
their own name, and leave the session as it was: its history, and every element with all that it
has.  Keys that are a chord are done to a disabled element like to any other: it takes the focus,
and both events are recorded. -/
theorem disabled_refused_save_for_keys {s : Session} {t : Target} (hs : s.Unhindered)
    (ht : s.Disabled t) :
    (∀ a, a ≠ .focus → a ≠ .pressKey → ∀ text, s.exec (perform a t text) =
      (.error (.failure (.actionFailed a.name "element is disabled")), s)) ∧
    ∀ keys chord, KeyChord.parse keys = .ok chord →
      s.exec (perform .pressKey t keys) = (.ok (.chord chord), s.recorded
        [{ action := .focus, target := t, argument := .none },
          { action := .pressKey, target := t, argument := .chord chord }]) := by
  constructor
  · intro a hfocus hkeys text
    rw [exec_perform a t hs.homeReadable, hs.refusal?_of_disabled ht hfocus hkeys]
    rfl
  · intro keys chord hparse
    rw [exec_perform .pressKey t hs.homeReadable, hs.refusal?_of_chord t hparse]
    simp only [barring, answer, Action.events, hparse]

/-! ### A disabled button -/

/-- A field that has the focus, and a button that is disabled. -/
def disabledButton : Session :=
  { frames := [{ tree := .node {} [
      .node { role := some "AXTextField", value := some "on", focused := true } [],
      .node { role := some "AXButton", enabled := false } []] }]
    live := false, dispatcherFrame := some 0, timeout := 1000, interval := 100 }

theorem unhindered_disabledButton : disabledButton.Unhindered where
  failing := rfl
  outages := by simp [disabledButton]

theorem disabled_disabledButton : disabledButton.Disabled { frame := 0, path := [1] } :=
  ⟨_, rfl, rfl⟩

theorem parse_return : KeyChord.parse "Return" = .ok { key := "return", modifiers := [] } :=
  KeyChord.parse_of_ofParts (by decide +kernel)

/-- Typing is refused, and keys take the focus from the field. -/
theorem disabled_refused_save_for_keys_button :
    disabledButton.Unhindered ∧ disabledButton.Disabled { frame := 0, path := [1] } ∧
    disabledButton.exec (perform .type { frame := 0, path := [1] } "x") =
      (.error (.failure (.actionFailed "type" "element is disabled")), disabledButton) ∧
    (disabledButton.exec (perform .pressKey { frame := 0, path := [1] } "Return")).2.history.map
      (·.action) = [.focus, .pressKey] := by
  rcases disabled_refused_save_for_keys unhindered_disabledButton disabled_disabledButton with
    ⟨hrefused, hkeys⟩
  refine ⟨unhindered_disabledButton, disabled_disabledButton, ?_, ?_⟩
  · exact hrefused .type nofun nofun "x"
  · rw [hkeys _ _ parse_return]
    rfl

/-- Keys are an action on an element, and no more refused for it than the focus. -/
theorem not_disabled_refused_of_return :
    ¬ ∀ (s : Session) (t : Target) (a : Action) (text : String), s.Unhindered → s.Disabled t →
      a ≠ .focus → (a = .pressKey → ∃ chord, KeyChord.parse text = .ok chord) →
      ∃ reason, s.exec (perform a t text) =
        (.error (.failure (.actionFailed a.name reason)), s) := by
  intro hall
  have hrefused := hall disabledButton { frame := 0, path := [1] } .pressKey "Return"
    unhindered_disabledButton disabled_disabledButton nofun fun _ => ⟨_, parse_return⟩
  rcases hrefused with ⟨reason, hrefused⟩
  -- the keys are no failure at all: the action comes to its chord
  rw [exec_perform .pressKey _ unhindered_disabledButton.homeReadable,
    unhindered_disabledButton.refusal?_of_chord _ parse_return] at hrefused
  cases hrefused

end UiTree.Session
