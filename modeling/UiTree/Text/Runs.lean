/-!
# Runs — sets and maps of code points given by runs
-/

namespace UiTree.Text

/-- Membership in the set whose runs are listed upwards, each by its first point and the point
after its last one. -/
def inRuns : List Nat → Nat → Bool
  | first :: stop :: rest, n =>
    if n < first then false else if n < stop then true else inRuns rest n
  | _, _ => false

/-- The image of a point under the shift `(first, last, step, image)` that covers it. -/
def shiftIn : List (Nat × Nat × Nat × Nat) → Nat → Option Nat
  | [], _ => none
  | (first, last, step, image) :: rest, n =>
    if n < first then none
    else if n ≤ last && (n - first) % step == 0 then some (image + (n - first))
    else shiftIn rest n

end UiTree.Text
