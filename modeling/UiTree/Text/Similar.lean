/-!
# Similarity — names that may have been meant

Two texts are as alike as the share of characters in common pieces: the longest common piece first,
then those before and those behind it.
-/

namespace UiTree.Text

/-- The length of the common prefix. -/
def commonPrefix : List Char → List Char → Nat
  | a :: as, b :: bs => if a == b then commonPrefix as bs + 1 else 0
  | _, _ => 0

/-- The better of two pieces, the first one if they are equally long. -/
def longer (p q : Nat × Nat × Nat) : Nat × Nat × Nat :=
  if p.2.2 < q.2.2 then q else p

/-- The longest piece of `bs` that `as` begins with: where it begins and how long it is. -/
def longestIn (i : Nat) (as : List Char) : Nat → List Char → Nat × Nat × Nat
  | _, [] => (i, 0, 0)
  | j, b :: bs => longer (i, j, commonPrefix as (b :: bs)) (longestIn i as (j + 1) bs)

/-- The longest piece of two texts: where it begins in each, and how long it is. -/
def longestCommon (i : Nat) : List Char → List Char → Nat × Nat × Nat
  | [], _ => (i, 0, 0)
  | a :: as, bs => longer (longestIn i (a :: as) 0 bs) (longestCommon (i + 1) as bs)

/-- The number of characters in common pieces; `room` bounds the number of pieces. -/
def common : Nat → List Char → List Char → Nat
  | 0, _, _ => 0
  | room + 1, as, bs =>
    match longestCommon 0 as bs with
    | (_, _, 0) => 0
    | (i, j, n) =>
      n + common room (as.take i) (bs.take j) + common room (as.drop (i + n)) (bs.drop (j + n))

/-- Twice the characters in common, and the characters of both. -/
def likeness (as bs : List Char) : Nat × Nat :=
  (2 * common (as.length + 1) as bs, as.length + bs.length)

/-- At least three fifths alike. -/
def isSimilar (l : Nat × Nat) : Bool := 3 * l.2 ≤ 5 * l.1

/-- The first share is the greater one. -/
def isMoreAlike (l m : Nat × Nat) : Bool := m.1 * l.2 < l.1 * m.2

/-- At most three of the names, those that are most like the text. -/
def similarNames (s : String) (names : List String) : List String :=
  let rated := names.map fun n => (n, likeness n.toList s.toList)
  let near := rated.filter fun (_, l) => isSimilar l
  let before (p q : String × (Nat × Nat)) : Bool :=
    isMoreAlike p.2 q.2 || (!isMoreAlike q.2 p.2 && q.1 < p.1)
  ((near.mergeSort fun p q => !before q p).take 3).map (·.1)

end UiTree.Text
