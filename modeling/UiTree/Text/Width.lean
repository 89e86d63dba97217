import UiTree.Text.Blank
import UiTree.Text.Runs
import UiTree.Text.Table.Width

/-!
# Width — how many cells a text takes on a terminal
-/

namespace UiTree.Text

def cellsOf (c : Char) : Nat :=
  if 0x20 ≤ c.toNat && c.toNat < 0x7f then 1
  else if inRuns Table.emptyRuns c.toNat then 0
  else if inRuns Table.wideRuns c.toNat then 2
  else 1

def cells : List Char → Nat
  | [] => 0
  | c :: cs => cellsOf c + cells cs

@[simp] theorem cells_nil : cells [] = 0 := rfl

@[simp] theorem cells_cons (c : Char) (cs : List Char) : cells (c :: cs) = cellsOf c + cells cs :=
  rfl

theorem cells_append (cs ds : List Char) : cells (cs ++ ds) = cells cs + cells ds := by
  induction cs with
  | nil => simp
  | cons c cs ih =>
    rw [List.cons_append, cells_cons, cells_cons, ih]
    omega

/-! ## Tabs -/

def tabSize : Nat := 8

/-- Blanks in place of tabs, up to the next stop; `at'` is the cell that the text begins at. -/
def expandTabs (at' : Nat) : List Char → List Char
  | [] => []
  | c :: cs =>
    if c == '\t' then
      let gap := tabSize - at' % tabSize
      List.replicate gap ' ' ++ expandTabs (at' + gap) cs
    else c :: expandTabs (at' + cellsOf c) cs

/-! ## Cropping -/

/-- A prefix of so many cells, found by halving the range it must end in.  Where a wide character
would go over the edge, a blank takes its place. -/
def cropWithin (cs : List Char) (total : Nat) : Nat → Nat → Nat → List Char
  | 0, _, stop => cs.take stop
  | tries + 1, start, stop =>
    let middle := (start + stop) / 2
    let before := cs.take (middle + 1)
    let size := cells before
    if size == total + 1 && before.getLast?.any (cellsOf · == 2) then before.dropLast ++ [' ']
    else if size == total then before
    else if total < size then cropWithin cs total tries start middle
    else cropWithin cs total tries middle stop

/-- The text, cut off if it takes more than so many cells. -/
def crop (total : Nat) (cs : List Char) : List Char :=
  if cells cs ≤ total then cs else cropWithin cs total (cs.length + 1) 0 cs.length

/-- Drops blanks at the end, as far as the text has more than so many characters. -/
def dropExcessBlanks (size : Nat) (cs : List Char) : List Char :=
  let kept := (trimEnd cs).length
  cs.take (max (min size cs.length) kept)

theorem crop_of_le {total : Nat} {cs : List Char} (h : cells cs ≤ total) : crop total cs = cs := by
  simp [crop, h]

end UiTree.Text
