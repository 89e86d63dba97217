import UiTree.Text.Search

/-!
# Pieces — texts joined by marks, and split at them

Pieces without marks come back from the text that joins them.  A piece that holds marks is split at
them in its place.
-/

namespace UiTree.Text

variable {mark : Char}

theorem splitAt_eq_splitOn (mark : Char) (cs : List Char) : splitAt mark cs = cs.splitOn mark := by
  induction cs with
  | nil => rfl
  | cons c cs ih =>
    change splitAt mark cs = List.splitOnP (· == mark) cs at ih
    change _ = List.splitOnP (· == mark) (c :: cs)
    rw [splitAt, ih, List.splitOnP_cons_eq_if_modifyHead]
    by_cases hc : (c == mark) = true
    · rw [if_pos hc, if_pos hc]
    · rw [if_neg hc, if_neg hc]
      cases hpieces : List.splitOnP (· == mark) cs with
      | nil => exact absurd hpieces (List.splitOnP_ne_nil _ _)
      | cons piece pieces => rfl

theorem splitAt_intercalate {pieces : List (List Char)} (hmark : ∀ piece ∈ pieces, mark ∉ piece)
    (hne : pieces ≠ []) : splitAt mark ([mark].intercalate pieces) = pieces := by
  rw [splitAt_eq_splitOn, List.splitOn_intercalate mark hmark hne]

/-- Every piece but the first stands behind a mark. -/
theorem intercalate_cons_eq_flatMap (mark piece : List Char) (pieces : List (List Char)) :
    mark.intercalate (piece :: pieces) = piece ++ pieces.flatMap (mark ++ ·) := by
  induction pieces generalizing piece with
  | nil => simp
  | cons next pieces ih =>
    rw [List.intercalate_cons_of_ne_nil (List.cons_ne_nil _ _), ih, List.flatMap_cons]
    simp only [List.append_assoc]

theorem intercalate_append {mark : List Char} {pieces more : List (List Char)} (hne : pieces ≠ [])
    (hmore : more ≠ []) :
    mark.intercalate (pieces ++ more) =
      mark.intercalate pieces ++ mark ++ mark.intercalate more := by
  induction pieces with
  | nil => exact absurd rfl hne
  | cons piece pieces ih =>
    by_cases hlast : pieces = []
    · subst hlast
      rw [List.singleton_append, List.intercalate_cons_of_ne_nil hmore, List.intercalate_singleton]
    · have hjoined : pieces ++ more ≠ [] := List.append_ne_nil_of_left_ne_nil hlast more
      rw [List.cons_append, List.intercalate_cons_of_ne_nil hjoined, ih hlast,
        List.intercalate_cons_of_ne_nil hlast]
      simp only [List.append_assoc]

theorem splitAt_append_cons (cs ds : List Char) :
    splitAt mark (cs ++ mark :: ds) = splitAt mark cs ++ splitAt mark ds := by
  simp only [splitAt_eq_splitOn, List.splitOn_append_cons_self]

theorem splitAt_of_not_mem {cs : List Char} (h : mark ∉ cs) : splitAt mark cs = [cs] := by
  have hpiece := splitAt_intercalate (List.forall_mem_singleton.mpr h) (List.cons_ne_nil cs [])
  rwa [List.intercalate_singleton] at hpiece

/-- Nothing is behind the last piece if every piece is closed by a mark. -/
theorem splitAt_flatMap_closed {pieces : List (List Char)}
    (hmark : ∀ piece ∈ pieces, mark ∉ piece) :
    splitAt mark (pieces.flatMap (· ++ [mark])) = pieces ++ [[]] := by
  induction pieces with
  | nil => rfl
  | cons piece pieces ih =>
    rw [List.forall_mem_cons] at hmark
    rw [List.flatMap_cons, List.append_assoc, List.singleton_append, splitAt_append_cons,
      splitAt_of_not_mem hmark.1, ih hmark.2, List.cons_append, List.nil_append,
      List.cons_append]

/-- Marks inside the pieces split them further. -/
theorem splitAt_intercalate_flatMap {pieces : List (List Char)} (hne : pieces ≠ []) :
    splitAt mark ([mark].intercalate pieces) = pieces.flatMap (splitAt mark) := by
  induction pieces with
  | nil => exact absurd rfl hne
  | cons piece pieces ih =>
    by_cases hlast : pieces = []
    · subst hlast
      rw [List.intercalate_singleton, List.flatMap_singleton]
    · rw [List.intercalate_cons_of_ne_nil hlast, List.append_assoc, List.singleton_append,
        splitAt_append_cons, ih hlast, List.flatMap_cons]

theorem length_splitAt (cs : List Char) : (splitAt mark cs).length = cs.count mark + 1 := by
  induction cs with
  | nil => rfl
  | cons c cs ih =>
    rw [splitAt, List.count_cons]
    by_cases hc : (c == mark) = true
    · rw [if_pos hc, if_pos hc, List.length_cons, ih]
    · rw [if_neg hc, if_neg hc, Nat.add_zero, ← ih]
      cases hpieces : splitAt mark cs with
      | nil =>
        rw [hpieces, List.length_nil] at ih
        omega
      | cons piece pieces => rfl

/-- Every mark inside a piece makes one piece more. -/
theorem length_flatMap_splitAt (pieces : List (List Char)) :
    (pieces.flatMap (splitAt mark)).length = pieces.flatten.count mark + pieces.length := by
  induction pieces with
  | nil => rfl
  | cons piece pieces ih =>
    rw [List.flatMap_cons, List.length_append, length_splitAt, ih, List.flatten_cons,
      List.count_append, List.length_cons]
    omega

/-- A character that is not of the mark is one of a piece. -/
theorem mem_intercalate {c : Char} {mark : List Char} (hc : c ∉ mark) {pieces : List (List Char)} :
    c ∈ mark.intercalate pieces ↔ ∃ piece ∈ pieces, c ∈ piece := by
  induction pieces with
  | nil => simp
  | cons piece pieces ih =>
    by_cases hlast : pieces = []
    · subst hlast
      simp
    · rw [List.intercalate_cons_of_ne_nil hlast, List.append_assoc, List.mem_append,
        List.mem_append, ih]
      simp [hc]

end UiTree.Text
