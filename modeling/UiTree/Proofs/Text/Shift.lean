import Mathlib.Data.Nat.ModEq
import UiTree.Text.Case
import UiTree.Text.Letter

/-!
# Shifts — tables that move runs of code points

A table of case maps is a list of rows, each of which moves evenly spaced points by one distance.
What a row moves and where to can be told from its ends, so that two rows, or a row and a run of
letters, are compared without going through their points.
-/

namespace UiTree.Text

/-- A row `(first, last, step, image)`. -/
abbrev Shift := Nat × Nat × Nat × Nat

namespace Shift

/-! ## 1. Rows -/

def first (r : Shift) : Nat := r.1

def last (r : Shift) : Nat := r.2.1

def step (r : Shift) : Nat := r.2.2.1

def image (r : Shift) : Nat := r.2.2.2

/-- The row moves the point. -/
def Covers (r : Shift) (n : Nat) : Prop :=
  r.first ≤ n ∧ n ≤ r.last ∧ (n - r.first) % r.step = 0

def move (r : Shift) (n : Nat) : Nat := r.image + (n - r.first)

/-- The greatest point that something is moved to. -/
def top (r : Shift) : Nat := r.image + (r.last - r.first)

/-- The distance of the points of a row, or nothing if there is one only. -/
def stride (r : Shift) : Nat := if r.first = r.last then 0 else r.step

variable {r q : Shift} {n : Nat}

theorem Covers.image_le_move (r : Shift) (n : Nat) : r.image ≤ r.move n := Nat.le_add_right _ _

theorem Covers.move_le_top (h : r.Covers n) : r.move n ≤ r.top :=
  Nat.add_le_add_left (Nat.sub_le_sub_right h.2.1 _) _

theorem Covers.stride_dvd (h : r.Covers n) : r.stride ∣ n - r.first := by
  unfold stride
  split
  · rename_i hone
    have hn : n - r.first = 0 := by
      have hfirst := h.1
      have hlast := h.2.1
      omega
    rw [hn]
  · exact Nat.dvd_of_mod_eq_zero h.2.2

/-- Nothing that `r` moves gets to a point of `q`: it gets to a side of them all, or in between. -/
def clears (r q : Shift) : Bool :=
  bif q.first.ble r.top then
    bif r.image.ble q.last then
      !(r.image % r.stride.gcd q.stride == q.first % r.stride.gcd q.stride)
    else true
  else true

theorem Covers.not_covers_move (h : r.Covers n) (hclears : r.clears q = true) :
    ¬ q.Covers (r.move n) := by
  intro hq
  have htop : q.first.ble r.top = true := Nat.ble_eq.mpr (hq.1.trans h.move_le_top)
  have himage : r.image.ble q.last = true :=
    Nat.ble_eq.mpr ((Covers.image_le_move r n).trans hq.2.1)
  rw [clears, htop, himage, cond_true, cond_true, Bool.not_eq_true', beq_eq_false_iff_ne] at hclears
  apply hclears
  -- the moved point is a multiple of the strides away from the starts of both rows
  have hr : r.move n ≡ r.image [MOD r.stride.gcd q.stride] := by
    have hdvd : r.stride.gcd q.stride ∣ n - r.first :=
      (Nat.gcd_dvd_left _ _).trans h.stride_dvd
    have hmove := (Nat.modEq_zero_iff_dvd.mpr hdvd).add_left r.image
    rwa [Nat.add_zero] at hmove
  have hq' : r.move n ≡ q.first [MOD r.stride.gcd q.stride] := by
    have hdvd : r.stride.gcd q.stride ∣ r.move n - q.first :=
      (Nat.gcd_dvd_right _ _).trans hq.stride_dvd
    exact ((Nat.modEq_iff_dvd' hq.1).mpr hdvd).symm
  exact hr.symm.trans hq'

end Shift

/-! ## 2. Tables of rows -/

section

variable {shifts : List Shift} {expansions : List (Nat × List Nat)} {n m : Nat}

theorem exists_covers_of_shiftIn (h : shiftIn shifts n = some m) :
    ∃ r ∈ shifts, r.Covers n ∧ m = r.move n := by
  induction shifts with
  | nil => cases h
  | cons r shifts ih =>
    rcases r with ⟨first, last, step, image⟩
    rw [shiftIn] at h
    split at h
    · cases h
    rename_i hfirst
    split at h
    · rename_i hlast
      rw [Bool.and_eq_true, decide_eq_true_eq, beq_iff_eq] at hlast
      exact ⟨_, List.mem_cons_self, ⟨Nat.le_of_not_lt hfirst, hlast.1, hlast.2⟩,
        (Option.some.inj h).symm⟩
    · obtain ⟨q, hq, hcovers, hm⟩ := ih h
      exact ⟨q, List.mem_cons_of_mem _ hq, hcovers, hm⟩

theorem shiftIn_eq_none (h : ∀ r ∈ shifts, ¬ r.Covers n) : shiftIn shifts n = none := by
  cases hm : shiftIn shifts n with
  | none => rfl
  | some m =>
    obtain ⟨r, hr, hcovers, -⟩ := exists_covers_of_shiftIn hm
    exact absurd hcovers (h r hr)

/-- Each row ends before the next one begins. -/
def rising : List Shift → Bool
  | r :: q :: rest => r.first.ble r.last && r.last.blt q.first && rising (q :: rest)
  | _ => true

theorem rising_cons {r q : Shift} {rest : List Shift} :
    rising (r :: q :: rest) = true ↔
      r.first ≤ r.last ∧ r.last < q.first ∧ rising (q :: rest) = true := by
  rw [rising, Bool.and_eq_true, Bool.and_eq_true, Nat.ble_eq, Nat.blt_eq, and_assoc]

theorem last_lt_first_of_rising {r : Shift} {rest : List Shift} (h : rising (r :: rest) = true) :
    ∀ q ∈ rest, r.first ≤ r.last ∧ r.last < q.first := by
  induction rest generalizing r with
  | nil => intro q hq; cases hq
  | cons p rest ih =>
    obtain ⟨hr, hp, hrest⟩ := rising_cons.mp h
    intro q hq
    rcases List.mem_cons.mp hq with rfl | hq
    · exact ⟨hr, hp⟩
    · have := ih hrest q hq
      exact ⟨hr, by omega⟩

/-- In a rising table no row stands in the way of another. -/
theorem shiftIn_of_covers {r : Shift} (hrising : rising shifts = true) (hr : r ∈ shifts)
    (hn : r.Covers n) : shiftIn shifts n = some (r.move n) := by
  induction shifts with
  | nil => cases hr
  | cons q shifts ih =>
    rcases q with ⟨first, last, step, image⟩
    rw [shiftIn]
    rcases List.mem_cons.mp hr with rfl | hmem
    · have hcovers : (decide (n ≤ last) && (n - first) % step == 0) = true := by
        rw [Bool.and_eq_true, decide_eq_true_eq, beq_iff_eq]
        exact hn.2
      have hfirst : ¬ n < first := Nat.not_lt.mpr hn.1
      rw [if_neg hfirst, if_pos hcovers]
      rfl
    · have hlt : first ≤ last ∧ last < r.first := last_lt_first_of_rising hrising r hmem
      have hrest : rising shifts = true := by
        cases shifts with
        | nil => cases hmem
        | cons p rest => exact (rising_cons.mp hrising).2.2
      have hfirst := hn.1
      have hpast : ¬ (decide (n ≤ last) && (n - first) % step == 0) = true := by
        rw [Bool.and_eq_true, decide_eq_true_eq]
        omega
      rw [if_neg (by omega), if_neg hpast]
      exact ih hrest hmem

/-- The image of a point beyond ASCII under two tables, as points. -/
def mapPoint (shifts : List Shift) (expansions : List (Nat × List Nat)) (n : Nat) : List Nat :=
  match shiftIn shifts n with
  | some m => [m]
  | none => (expansions.lookup n).getD [n]

theorem mapChar_eq_map {c : Char} (hc : 0x80 ≤ c.toNat) :
    mapChar shifts expansions c = (mapPoint shifts expansions c.toNat).map Char.ofNat := by
  rw [mapChar, if_neg (Nat.not_lt.mpr hc), mapPoint]
  cases shiftIn shifts c.toNat with
  | some m => rfl
  | none =>
    cases expansions.lookup c.toNat with
    | some ns => rfl
    | none => exact congrArg (fun d => [d]) (Char.ofNat_toNat c).symm

theorem mapPoint_of_covers {r : Shift} (hrising : rising shifts = true) (hr : r ∈ shifts)
    (hn : r.Covers n) : mapPoint shifts expansions n = [r.move n] := by
  rw [mapPoint, shiftIn_of_covers hrising hr hn]

/-- All that the two tables move, a point that expands as a row of its own. -/
def rows (shifts : List Shift) (expansions : List (Nat × List Nat)) : List Shift :=
  shifts ++ expansions.map fun p => (p.1, p.1, 1, p.1)

theorem mapPoint_of_not_covers (h : ∀ r ∈ rows shifts expansions, ¬ r.Covers n) :
    mapPoint shifts expansions n = [n] := by
  have hshift : shiftIn shifts n = none :=
    shiftIn_eq_none fun r hr => h r (List.mem_append_left _ hr)
  have hlookup : expansions.lookup n = none := by
    rw [List.lookup_eq_none_iff]
    intro p hp
    rw [bne_iff_ne]
    rintro rfl
    refine h (p.1, p.1, 1, p.1) (List.mem_append_right _ (List.mem_map_of_mem hp)) ?_
    exact ⟨Nat.le_refl _, Nat.le_refl _, Nat.mod_one _⟩
  rw [mapPoint, hshift, hlookup, Option.getD_none]

theorem mapPoint_cases (shifts : List Shift) (expansions : List (Nat × List Nat)) (n : Nat) :
    (∃ r ∈ shifts, r.Covers n ∧ mapPoint shifts expansions n = [r.move n]) ∨
    (∃ p ∈ expansions, p.1 = n ∧ mapPoint shifts expansions n = p.2) ∨
    mapPoint shifts expansions n = [n] := by
  unfold mapPoint
  split
  · rename_i m hm
    obtain ⟨r, hr, hcovers, rfl⟩ := exists_covers_of_shiftIn hm
    exact .inl ⟨r, hr, hcovers, rfl⟩
  · cases hns : expansions.lookup n with
    | none => exact .inr (.inr rfl)
    | some ns =>
      obtain ⟨before, after, rfl, -⟩ := List.lookup_eq_some_iff.mp hns
      exact .inr (.inl ⟨(n, ns), List.mem_append_right _ List.mem_cons_self, rfl, rfl⟩)

end

/-! ## 3. Runs of points -/

/-- The points from `lo` to `hi` are all in one run. -/
def within (lo hi : Nat) : List Nat → Bool
  | first :: stop :: rest =>
    first.ble lo && bif stop.ble lo then within lo hi rest else hi.blt stop
  | _ => false

/-- None of the points from `lo` to `hi` is in a run. -/
def beside (lo hi : Nat) : List Nat → Bool
  | first :: stop :: rest => bif stop.ble lo then beside lo hi rest else hi.blt first
  | _ => true

section

variable {runs : List Nat} {lo hi n : Nat}

theorem inRuns_of_within (h : within lo hi runs = true) (hlo : lo ≤ n) (hhi : n ≤ hi) :
    inRuns runs n = true := by
  fun_induction within lo hi runs with
  | case1 first stop rest ih =>
    rw [Bool.and_eq_true, Nat.ble_eq] at h
    rw [inRuns, if_neg (by omega)]
    cases hstop : stop.ble lo with
    | true =>
      rw [hstop, cond_true] at h
      rw [Nat.ble_eq] at hstop
      rw [if_neg (by omega)]
      exact ih h.2
    | false =>
      rw [hstop, cond_false, Nat.blt_eq] at h
      rw [if_pos (by omega)]
  | case2 => cases h

theorem inRuns_of_beside (h : beside lo hi runs = true) (hlo : lo ≤ n) (hhi : n ≤ hi) :
    inRuns runs n = false := by
  fun_induction beside lo hi runs with
  | case1 first stop rest hstop ih =>
    rw [Nat.ble_eq] at hstop
    rw [inRuns]
    split
    · rfl
    · rw [if_neg (by omega)]
      exact ih h
  | case2 first stop rest hstop =>
    rw [Nat.blt_eq] at h
    rw [inRuns, if_pos (by omega)]
  | case3 runs hruns =>
    unfold inRuns
    split
    · exact absurd rfl (hruns _ _ _)
    · rfl

end

end UiTree.Text
