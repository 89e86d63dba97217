import Mathlib.Data.List.Basic
import UiTree.Text.Width

/-!
# Width — texts cut off at the edge of a page

Halving the range that a cut must fall in comes to an end where the text fills the cells, whatever
wide and empty characters it has: a wide one that would go over the edge is the only thing that can
be in the way, and a blank takes its place.
-/

namespace UiTree.Text

/-! ## 1. Cutting off -/

theorem cellsOf_le (c : Char) : cellsOf c ≤ 2 := by
  unfold cellsOf
  split <;> [decide; split] <;> [decide; split] <;> decide

theorem cells_take_succ {cs : List Char} {n : Nat} (h : n < cs.length) :
    cells (cs.take (n + 1)) = cells (cs.take n) + cellsOf cs[n] := by
  rw [List.take_succ_eq_append_getElem h, cells_append, cells_cons, cells_nil, Nat.add_zero]

theorem cells_le_of_sublist {cs ds : List Char} (h : cs.Sublist ds) : cells cs ≤ cells ds := by
  induction h with
  | slnil => exact Nat.le_refl _
  | cons c _ ih => exact Nat.le_trans ih (Nat.le_add_left _ _)
  | cons_cons c _ ih => exact Nat.add_le_add_left ih _

/-- One cell too many, the last two of them those of a wide character. -/
def Overhangs (total : Nat) (cs : List Char) : Prop :=
  cells cs = total + 1 ∧ cs.getLast?.any (cellsOf · == 2) = true

theorem overhangs_concat {total : Nat} {cs : List Char} {c : Char} :
    Overhangs total (cs ++ [c]) ↔ cells cs + 1 = total ∧ cellsOf c = 2 := by
  rw [Overhangs, cells_append, cells_cons, cells_nil, List.getLast?_concat, Option.any_some,
    beq_iff_eq]
  omega

/-- With a blank in place of the character that goes over the edge, the text fits. -/
theorem cells_dropLast_le {total : Nat} {cs : List Char} (h : Overhangs total cs) :
    cells (cs.dropLast ++ [' ']) ≤ total := by
  have hblank : cells [' '] = 1 := rfl
  rcases List.eq_nil_or_concat cs with rfl | ⟨ds, c, rfl⟩
  · exact absurd h.2 Bool.false_ne_true
  · rw [List.concat_eq_append] at h ⊢
    rw [List.dropLast_concat, cells_append, hblank]
    exact Nat.le_of_eq (overhangs_concat.mp h).1

/-- The range that a cut must fall in: the text up to `start` is too narrow, unless that is the
first character, and the text up to `stop` is too wide, and not by half of a character. -/
structure Between (cs : List Char) (total start stop : Nat) : Prop where
  lt : start < stop
  wide : total < cells (cs.take (stop + 1))
  clear : cs.length ≤ stop ∨ ¬ Overhangs total (cs.take (stop + 1))
  narrow : start = 0 ∨ cells (cs.take (start + 1)) < total

/-- A range of one character lies before a text that is neither too wide nor too narrow. -/
theorem Between.eq_of_succ {cs : List Char} {total start : Nat} (htotal : 0 < total)
    (h : Between cs total start (start + 1)) (hover : ¬ Overhangs total (cs.take (start + 1))) :
    cells (cs.take (start + 1)) = total := by
  rcases Nat.lt_trichotomy (cells (cs.take (start + 1))) total with hlt | heq | hgt
  · -- the next character would have to be one and a half cells wide
    exfalso
    by_cases hlength : start + 1 < cs.length
    · have hwide := h.wide
      have hlast := cellsOf_le cs[start + 1]
      rw [cells_take_succ hlength] at hwide
      have hclear := h.clear.resolve_left (Nat.not_le_of_lt hlength)
      rw [List.take_succ_eq_append_getElem hlength, overhangs_concat] at hclear
      omega
    · have hwide := h.wide
      rw [List.take_of_length_le (by omega)] at hwide hlt
      omega
  · exact heq
  · -- only the first character can be too wide, and it is not by more than one cell
    exfalso
    rcases h.narrow with rfl | hnarrow
    · have hlength : 0 < cs.length := by
        rcases cs with _ | ⟨c, cs⟩
        · exact absurd hgt (Nat.not_lt_zero _)
        · exact Nat.succ_pos _
      have hlast := cellsOf_le cs[0]
      rw [List.take_succ_eq_append_getElem hlength, List.take_zero] at hover hgt
      rw [overhangs_concat, cells_nil] at hover
      rw [cells_append, cells_cons, cells_nil] at hgt
      omega
    · exact Nat.lt_asymm hgt hnarrow

theorem cells_cropWithin_le {cs : List Char} {total tries start stop : Nat} (htotal : 0 < total)
    (h : Between cs total start stop) (htries : stop - start < tries) :
    cells (cropWithin cs total tries start stop) ≤ total := by
  -- a range that is not yet right is halved, and it is still one that the cut falls in
  induction tries generalizing start stop with
  | zero => exact absurd htries (Nat.not_lt_zero _)
  | succ tries ih =>
    rw [cropWithin]
    generalize hmiddle : (start + stop) / 2 = middle
    have hlt := h.lt
    by_cases hover : Overhangs total (cs.take (middle + 1))
    · rw [if_pos (by simpa [Overhangs] using hover)]
      exact cells_dropLast_le hover
    · rw [if_neg (by simpa [Overhangs] using hover)]
      by_cases hsize : cells (cs.take (middle + 1)) = total
      · rw [if_pos (beq_iff_eq.mpr hsize)]
        exact Nat.le_of_eq hsize
      · rw [if_neg (mt beq_iff_eq.mp hsize)]
        have hinside : start < middle := by
          by_contra hnot
          obtain rfl : stop = start + 1 := by omega
          obtain rfl : middle = start := by omega
          exact hsize (h.eq_of_succ htotal hover)
        split
        · rename_i hwide
          exact ih ⟨hinside, hwide, .inr hover, h.narrow⟩ (by omega)
        · rename_i hwide
          exact ih ⟨by omega, h.wide, h.clear, .inr (by omega)⟩ (by omega)

/-- A text that is cut off fits. -/
theorem cells_crop_le {total : Nat} (htotal : 0 < total) (cs : List Char) :
    cells (crop total cs) ≤ total := by
  rw [crop]
  split
  · assumption
  · rename_i hwide
    refine cells_cropWithin_le htotal ⟨?_, ?_, .inl (Nat.le_refl _), .inl rfl⟩ (by omega)
    · rcases cs with _ | ⟨c, cs⟩
      · exact absurd (Nat.zero_le total) hwide
      · exact Nat.succ_pos _
    · rwa [List.take_of_length_le (Nat.le_succ _), ← Nat.not_le]

/-- Nothing but blanks comes into a text when it is cut off. -/
theorem mem_cropWithin {cs : List Char} {total tries start stop : Nat} {c : Char}
    (h : c ∈ cropWithin cs total tries start stop) : c ∈ cs ∨ c = ' ' := by
  fun_induction cropWithin cs total tries start stop with
  | case1 => exact .inl (List.mem_of_mem_take h)
  | case2 =>
    rcases List.mem_append.mp h with h | h
    · exact .inl (List.mem_of_mem_take ((List.dropLast_sublist _).subset h))
    · exact .inr (List.mem_singleton.mp h)
  | case3 => exact .inl (List.mem_of_mem_take h)
  | case4 _ _ _ _ _ _ _ _ _ ih => exact ih h
  | case5 _ _ _ _ _ _ _ _ _ ih => exact ih h

theorem mem_crop {total : Nat} {cs : List Char} {c : Char} (h : c ∈ crop total cs) :
    c ∈ cs ∨ c = ' ' := by
  rw [crop] at h
  split at h
  · exact .inl h
  · exact mem_cropWithin h

/-! ## 2. Tabs and blanks at the end -/

theorem expandTabs_of_not_mem {cs : List Char} (h : '\t' ∉ cs) (at' : Nat) :
    expandTabs at' cs = cs := by
  induction cs generalizing at' with
  | nil => rfl
  | cons c cs ih =>
    rw [List.mem_cons, not_or] at h
    rw [expandTabs, if_neg (mt beq_iff_eq.mp (Ne.symm h.1)), ih h.2]

theorem dropExcessBlanks_of_getLast? {cs : List Char} {c : Char} (h : cs.getLast? = some c)
    (hc : isBlank c = false) (size : Nat) : dropExcessBlanks size cs = cs := by
  have htrim : trimEnd cs = cs := by
    rcases List.getLast?_eq_some_iff.mp h with ⟨ds, rfl⟩
    rw [trimEnd, List.reverse_append, List.reverse_singleton, List.singleton_append,
      List.dropWhile_cons_of_neg (by simp [hc]), List.reverse_cons, List.reverse_reverse]
  rw [dropExcessBlanks, htrim, List.take_of_length_le (Nat.le_max_right _ _)]

end UiTree.Text
