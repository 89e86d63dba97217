/-!
# Issues — what is wrong with data, and where

Checking collects every issue in order.  Parts are checked each on its own, and a whole is sound
when all of its parts are.
-/

namespace UiTree

structure Issue where
  /-- Field names and indexes that lead to the datum. -/
  location : List String
  problem : String
  deriving DecidableEq, Repr

abbrev Checked (α : Type) := Except (List Issue) α

namespace Issue

def text (i : Issue) : String :=
  ".".intercalate i.location ++ ": " ++ i.problem

/-- The issue of a part, seen from the whole. -/
def under (part : String) (i : Issue) : Issue :=
  { i with location := part :: i.location }

/-- All issues on one line. -/
def summary (issues : List Issue) : String :=
  "; ".intercalate (issues.map text)

end Issue

namespace Checked

def issues {α : Type} : Checked α → List Issue
  | .ok _ => []
  | .error is => is

/-- A single issue with the datum itself. -/
def fail {α : Type} (problem : String) : Checked α :=
  .error [{ location := [], problem }]

def under {α : Type} (part : String) : Checked α → Checked α
  | .ok a => .ok a
  | .error is => .error (is.map (Issue.under part))

/-- Two parts together. -/
def both {α β : Type} (a : Checked α) (b : Checked β) : Checked (α × β) :=
  match a, b with
  | .ok x, .ok y => .ok (x, y)
  | a, b => .error (a.issues ++ b.issues)

/-- All parts together, each under its index from `i` on. -/
def allFrom {α : Type} (i : Nat) : List (Checked α) → Checked (List α)
  | [] => .ok []
  | a :: as => (both (a.under (toString i)) (allFrom (i + 1) as)).map fun (x, xs) => x :: xs

end Checked

end UiTree
