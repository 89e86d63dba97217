import UiTree.Proofs.Text.Casing
import UiTree.Proofs.Text.Classes
import UiTree.Text.Printable

/-!
# Appearance — lower case of what can be seen

Lower case makes nothing unprintable of a printable character, and no white space of anything else.
-/

namespace UiTree.Text

open Table

variable {c d : Char} {before after cs : List Char}

/-! ## 1. Printable characters -/

/-- No row of lower case leads to an unprintable point. -/
theorem unprintable_of_mem_lowerShifts {r : Shift} (hr : r ∈ lowerShifts) :
    beside r.image r.top unprintableRuns = true := by
  have hall : (lowerShifts.all fun r : Shift => beside r.image r.top unprintableRuns) = true := by
    decide +kernel
  exact List.all_eq_true.mp hall r hr

theorem isPrintable_of_move {r : Shift} (hr : r ∈ lowerShifts) (hn : r.Covers c.toNat)
    (hd : d.toNat = r.move c.toNat) : isPrintable d = true := by
  rcases eq_or_le_of_move hr hn hd with rfl | ⟨hle, -⟩
  · decide
  · rw [isPrintable, if_neg (Nat.not_lt.mpr hle), hd, Bool.not_eq_true']
    exact inRuns_of_beside (unprintable_of_mem_lowerShifts hr) (Shift.Covers.image_le_move r _)
      hn.move_le_top

/-- ASCII characters look in lower case as they did. -/
theorem appearance_of_lt (hc : c.toNat < 0x80) :
    isPrintable c.toLower = isPrintable c ∧ isBlank c.toLower = isBlank c := by
  apply of_toNat_lt ?_ hc
  decide +kernel

/-- The characters that lower case makes of others that do not look like them. -/
theorem appearance_of_mem (hd : d ∈ ['i', '\u0307', 'ς', 'σ']) :
    isPrintable d = true ∧ isBlank d = false := by
  have hall : (['i', '\u0307', 'ς', 'σ'].all fun d =>
      decide (isPrintable d = true ∧ isBlank d = false)) = true := by decide +kernel
  exact of_decide_eq_true (List.all_eq_true.mp hall d hd)

/-- Lower case keeps what is printable printable. -/
theorem isPrintable_of_mem_lowerChar (hc : isPrintable c = true) (hd : d ∈ lowerChar c) :
    isPrintable d = true := by
  rcases lowerChar_cases c with ⟨hlt, hlower⟩ | ⟨-, r, hr, hn, e, he, hlower⟩ | rfl | ⟨-, hlower⟩
  · obtain rfl : d = c.toLower := List.mem_singleton.mp (hlower ▸ hd)
    rw [(appearance_of_lt hlt).1, hc]
  · obtain rfl : d = e := List.mem_singleton.mp (hlower ▸ hd)
    exact isPrintable_of_move hr hn he
  · rw [lowerChar_dotted.1] at hd
    have hmem : d ∈ ['i', '\u0307', 'ς', 'σ'] := List.mem_append_left ['ς', 'σ'] hd
    exact (appearance_of_mem hmem).1
  · obtain rfl : d = c := List.mem_singleton.mp (hlower ▸ hd)
    exact hc

/-! ## 2. White space -/

/-- Of white space only the space itself is printable. -/
theorem eq_space_of_isBlank (hprintable : isPrintable c = true) (hblank : isBlank c = true) :
    c = ' ' := by
  have hall : (blanks.all fun b => !isPrintable b || b == ' ') = true := by decide +kernel
  have hc := List.all_eq_true.mp hall c (mem_blanks_of_isBlank hblank)
  rw [hprintable, Bool.not_true, Bool.false_or, beq_iff_eq] at hc
  exact hc

/-- Lower case makes no white space. -/
theorem isBlank_of_mem_lowerChar (hc : isBlank c = false) (hd : d ∈ lowerChar c) :
    isBlank d = false := by
  rcases lowerChar_cases c with ⟨hlt, hlower⟩ | ⟨-, r, hr, hn, e, he, hlower⟩ | rfl | ⟨-, hlower⟩
  · obtain rfl : d = c.toLower := List.mem_singleton.mp (hlower ▸ hd)
    rw [(appearance_of_lt hlt).2, hc]
  · obtain rfl : d = e := List.mem_singleton.mp (hlower ▸ hd)
    by_contra hblank
    rw [Bool.not_eq_false] at hblank
    -- it would be the space, which no row leads to
    obtain rfl := eq_space_of_isBlank (isPrintable_of_move hr hn he) hblank
    rcases eq_or_le_of_move hr hn he with hk | ⟨hle, -⟩
    · revert hk
      decide
    · revert hle
      decide
  · rw [lowerChar_dotted.1] at hd
    have hmem : d ∈ ['i', '\u0307', 'ς', 'σ'] := List.mem_append_left ['ς', 'σ'] hd
    exact (appearance_of_mem hmem).2
  · obtain rfl : d = c := List.mem_singleton.mp (hlower ▸ hd)
    exact hc

/-! ## 3. Between neighbours -/

theorem isPrintable_of_mem_lowerAt (hc : isPrintable c = true) (hd : d ∈ lowerAt before c after) :
    isPrintable d = true := by
  rcases lowerAt_cases before c after with ⟨-, e, he, hat⟩ | hat
  · obtain rfl : d = e := List.mem_singleton.mp (hat ▸ hd)
    have hmem : d ∈ ['i', '\u0307', 'ς', 'σ'] := List.mem_append_right ['i', '\u0307'] he
    exact (appearance_of_mem hmem).1
  · exact isPrintable_of_mem_lowerChar hc (hat ▸ hd)

theorem isBlank_of_mem_lowerAt (hc : isBlank c = false) (hd : d ∈ lowerAt before c after) :
    isBlank d = false := by
  rcases lowerAt_cases before c after with ⟨-, e, he, hat⟩ | hat
  · obtain rfl : d = e := List.mem_singleton.mp (hat ▸ hd)
    have hmem : d ∈ ['i', '\u0307', 'ς', 'σ'] := List.mem_append_right ['i', '\u0307'] he
    exact (appearance_of_mem hmem).2
  · exact isBlank_of_mem_lowerChar hc (hat ▸ hd)

/-- Save for the dotted capital, one character becomes one character. -/
theorem exists_lowerAt_eq_singleton (hc : c ≠ 'İ') (before after : List Char) :
    ∃ d, lowerAt before c after = [d] := by
  rcases lowerAt_cases before c after with ⟨-, e, -, hat⟩ | hat
  · exact ⟨e, hat⟩
  · rw [hat]
    rcases lowerChar_cases c with ⟨-, hlower⟩ | ⟨-, r, -, -, e, -, hlower⟩ | rfl | ⟨-, hlower⟩
    · exact ⟨_, hlower⟩
    · exact ⟨_, hlower⟩
    · exact absurd rfl hc
    · exact ⟨_, hlower⟩

/-- A text of ASCII characters is put into lower case one by one. -/
theorem lowerFrom_of_lt (h : ∀ c ∈ cs, c.toNat < 0x80) :
    lowerFrom before cs = cs.map Char.toLower := by
  induction cs generalizing before with
  | nil => rfl
  | cons c cs ih =>
    have hc : c.toNat < 0x80 := h c List.mem_cons_self
    have hat : lowerAt before c cs = [c.toLower] := by
      rcases lowerAt_cases before c cs with ⟨rfl, -⟩ | hat
      · exact absurd hc (by decide)
      · rw [hat, lowerChar_of_lt hc]
    rw [lowerFrom_cons, hat, ih fun d hd => h d (List.mem_cons_of_mem c hd), List.map_cons,
      List.singleton_append]

end UiTree.Text
