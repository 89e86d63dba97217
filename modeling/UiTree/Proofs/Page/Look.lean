import UiTree.Proofs.Page.Search

/-!
# Looks — what a source without faults answers with

If no attribute is out, what a look comes to is settled by the frame that answers: the first element
found there, none, or what the source raises.
-/

namespace UiTree

namespace Session

/-- The source is asked anew every time, it is not interrupted, and no attribute is out. -/
structure Faultless (s : Session) : Prop where
  live : s.live = true
  outages : ∀ f ∈ s.frames, f.outages = []
  failing : ∀ f ∈ s.frames, ∀ i, f.failing ≠ some (.interrupt i)

namespace Faultless

variable {s : Session}

theorem outages_frame (h : s.Faultless) (i : ℕ) : (s.frame i).outages = [] :=
  frame_of_forall h.outages rfl i

theorem failing_frame (h : s.Faultless) (i : ℕ) (e : Interrupt) :
    (s.frame i).failing ≠ some (.interrupt e) :=
  frame_of_forall (P := fun f => f.failing ≠ some (.interrupt e)) (fun f hf => h.failing f hf e)
    (by simp) i

end Faultless

end Session

namespace Locator

open Session

variable {l : Locator} {sel : Selector} {s : Session}

/-- What a look comes to if it is answered by a frame: an element that meets the condition, none,
or what the source raises, unless that says that there is no element. -/
def sight (sel : Selector) (c : Condition) (s : Session) (i : ℕ) :
    Except Raised (Option Target) :=
  match (s.frame i).failing with
  | some (.failure (.elementNotFound _)) => .ok none
  | some r => .error r
  | none =>
    let found := (sel.findFirst? (s.frame i).tree).filter (c.holds ·.attributes)
    .ok (found.map fun n => { frame := i, path := n.path })

/-- A look at a source without faults comes to what the answering frame settles. -/
theorem sighted_of_faultless (hs : s.Faultless) (hparse : Selector.parse l.selector = .ok sel)
    (c : Condition) : sighted sel c s = sight sel c s := by
  funext i
  rw [sighted_of_outages_eq_nil s hparse c (hs.outages_frame i), sourceFailure?, if_pos hs.live]
  rfl

end Locator

end UiTree
