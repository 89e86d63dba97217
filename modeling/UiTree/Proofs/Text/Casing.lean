import UiTree.Proofs.Text.Shift

/-!
# Casing — lower case and folding together

Lower case changes nothing that it has made, and folding does not see whether a text was put into
lower case before.  Both are read off the tables of case maps; a capital sigma, whose lower case
depends on its neighbours, folds like both of its small forms.  The lower case of a letter is a
letter, save for one letter whose lower case is a letter and a combining dot.
-/

namespace UiTree.Text

open Table

/-! ## 1. What the tables say -/

def foldPoint (n : Nat) : List Nat := mapPoint foldShifts foldExpansions n

/-- The row that moves everything back. -/
def Shift.inverse (r : Shift) : Shift := (r.image, r.top, r.step, r.first)

theorem Shift.Covers.inverse {r : Shift} {n : Nat} (h : r.Covers n) :
    r.inverse.Covers (r.move n) ∧ r.inverse.move (r.move n) = n := by
  have hfirst := h.1
  refine ⟨⟨Shift.Covers.image_le_move r n, h.move_le_top, ?_⟩, ?_⟩
  · show (r.image + (n - r.first) - r.image) % r.step = 0
    rw [Nat.add_sub_cancel_left]
    exact h.2.2
  · show r.first + (r.image + (n - r.first) - r.image) = n
    omega

/-- The starts of the rows of lower case that are no rows of folding: Cherokee, which folds to its
capitals, and letters that fold to two. -/
def refolded : List Nat :=
  [0x13A0, 0x13F0, 0x1E9E, 0x1F88, 0x1F98, 0x1FA8, 0x1FBC, 0x1FCC, 0x1FFC]

/-- No row of a map leads to a point that the map moves or expands. -/
def settles (shifts : List Shift) (expansions : List (Nat × List Nat)) : Bool :=
  shifts.all fun r => (rows shifts expansions).all (Shift.clears r)

theorem clears_of_settles {shifts : List Shift} {expansions : List (Nat × List Nat)} {r q : Shift}
    (h : settles shifts expansions = true) (hr : r ∈ shifts) (hq : q ∈ rows shifts expansions) :
    r.clears q = true :=
  List.all_eq_true.mp (List.all_eq_true.mp h r hr) q hq

theorem settles_iff {shifts : List Shift} {expansions : List (Nat × List Nat)} :
    settles shifts expansions = true ↔
      (shifts.all fun r => shifts.all (Shift.clears r)) = true ∧
      (shifts.all fun r => expansions.all fun p => Shift.clears r (p.1, p.1, 1, p.1)) = true := by
  simp only [settles, rows, List.all_eq_true, List.forall_mem_append, List.forall_mem_map]
  exact forall₂_and

/-- The tables are gone through one at a time, which keeps each computation small. -/
theorem maps_settle : rising foldShifts = true ∧ settles foldShifts foldExpansions = true ∧
    settles lowerShifts lowerExpansions = true := by
  have hrising : rising foldShifts = true := by decide +kernel
  have hfoldShifts : (foldShifts.all fun r => foldShifts.all (Shift.clears r)) = true := by
    decide +kernel
  have hfoldExpansions : (foldShifts.all fun r =>
      foldExpansions.all fun p => Shift.clears r (p.1, p.1, 1, p.1)) = true := by
    decide +kernel
  have hlowerShifts : (lowerShifts.all fun r => lowerShifts.all (Shift.clears r)) = true := by
    decide +kernel
  have hlowerExpansions : (lowerShifts.all fun r =>
      lowerExpansions.all fun p => Shift.clears r (p.1, p.1, 1, p.1)) = true := by
    decide +kernel
  exact ⟨hrising, settles_iff.mpr ⟨hfoldShifts, hfoldExpansions⟩,
    settles_iff.mpr ⟨hlowerShifts, hlowerExpansions⟩⟩

/-- Folding shares a row of lower case, or takes it back, or expands both of its sides alike. -/
theorem folded_of_mem_lowerShifts {r : Shift} (hr : r ∈ lowerShifts) :
    r ∈ foldShifts ∨ r.inverse ∈ foldShifts ∨
      ∀ i < r.last - r.first + 1, foldPoint (r.first + i) = foldPoint (r.image + i) := by
  by_cases hfirst : refolded.contains r.first = true
  · have hall : ((lowerShifts.filter fun r : Shift => refolded.contains r.first).all
        fun r : Shift => foldShifts.contains r.inverse ||
          (List.range (r.last - r.first + 1)).all fun i =>
            foldPoint (r.first + i) == foldPoint (r.image + i)) = true := by decide +kernel
    have hrow := List.all_eq_true.mp hall r (List.mem_filter.mpr ⟨hr, hfirst⟩)
    rw [Bool.or_eq_true, List.contains_iff_mem] at hrow
    right
    rcases hrow with hinverse | hexpanded
    · exact .inl hinverse
    · right
      intro i hi
      exact beq_iff_eq.mp (List.all_eq_true.mp hexpanded i (List.mem_range.mpr hi))
  · have hshared : (lowerShifts.filter fun r : Shift => !refolded.contains r.first).isSublist
        foldShifts = true := by decide +kernel
    have hmem : r ∈ lowerShifts.filter fun r : Shift => !refolded.contains r.first :=
      List.mem_filter.mpr ⟨hr, by simpa using hfirst⟩
    exact .inl ((List.isSublist_iff_sublist.mp hshared).subset hmem)

/-- A row of lower case leads to characters, to letters if it starts at characters of a word, and
beyond ASCII if it is not that of the Kelvin sign. -/
theorem image_of_mem_lowerShifts {r : Shift} (hr : r ∈ lowerShifts) :
    (r.top < 0xD800 ∨ (0xDFFF < r.image ∧ r.top < 0x110000)) ∧
    (r = (0x212A, 0x212A, 1, 0x6B) ∨ 0x80 ≤ r.image ∧
      (within r.image r.top letterRuns = true ∨
        (beside r.first r.last letterRuns = true ∧ beside r.first r.last digitRuns = true))) := by
  have hall : (lowerShifts.all fun r : Shift =>
      (r.top.blt 0xD800 || (Nat.blt 0xDFFF r.image && r.top.blt 0x110000)) &&
      (r == ((0x212A, 0x212A, 1, 0x6B) : Shift) || (Nat.ble 0x80 r.image &&
        (within r.image r.top letterRuns ||
          (beside r.first r.last letterRuns && beside r.first r.last digitRuns))))) = true := by
    decide +kernel
  have hrow := List.all_eq_true.mp hall r hr
  simpa only [Bool.and_eq_true, Bool.or_eq_true, Nat.blt_eq, Nat.ble_eq, beq_iff_eq] using hrow

theorem isValidChar_of_mem_lowerShifts {r : Shift} (hr : r ∈ lowerShifts) {n : Nat}
    (hn : r.Covers n) : (r.move n).isValidChar := by
  have hrow := (image_of_mem_lowerShifts hr).1
  have htop := hn.move_le_top
  have himage := Shift.Covers.image_le_move r n
  unfold Nat.isValidChar
  omega

/-! ## 2. One character -/

/-- Lower case of a character, whatever stands beside it. -/
def lowerChar (c : Char) : List Char := mapChar lowerShifts lowerExpansions c

variable {c d : Char}

theorem lowerChar_of_lt (hc : c.toNat < 0x80) : lowerChar c = [c.toLower] := if_pos hc

theorem foldChar_of_lt (hc : c.toNat < 0x80) : foldChar c = [c.toLower] := if_pos hc

theorem foldChar_eq_map (hc : 0x80 ≤ c.toNat) :
    foldChar c = (foldPoint c.toNat).map Char.ofNat :=
  mapChar_eq_map hc

theorem foldChars_singleton (c : Char) : foldChars [c] = foldChar c := by
  rw [foldChars, List.flatMap_singleton]

/-- What holds of the characters with the first code points, one by one. -/
theorem of_toNat_lt {P : Char → Prop} {bound : Nat} (h : ∀ n < bound, P (Char.ofNat n))
    (hc : c.toNat < bound) : P c := by
  have hof := h c.toNat hc
  rwa [Char.ofNat_toNat] at hof

theorem toLower_of_lt (hc : c.toNat < 0x80) :
    c.toLower.toNat < 0x80 ∧ c.toLower.toLower = c.toLower ∧
      isWordChar c.toLower = isWordChar c ∧ isLetter c.toLower = isLetter c := by
  apply of_toNat_lt ?_ hc
  decide +kernel

/-- What becomes of the dotted capital stays as it is, and folds like it. -/
theorem lowerChar_dotted : lowerChar 'İ' = ['i', '\u0307'] ∧
    (∀ d ∈ ['i', '\u0307'], lowerChar d = [d]) ∧ foldChars ['i', '\u0307'] = foldChar 'İ' := by
  have hall : (['i', '\u0307'].all fun d => lowerChar d == [d]) = true := by rfl
  exact ⟨rfl, fun d hd => beq_iff_eq.mp (List.all_eq_true.mp hall d hd), rfl⟩

/-- The two small forms of sigma, of which this map knows one only. -/
theorem lowerChar_sigma : lowerChar 'Σ' = ['σ'] ∧
    ∀ d ∈ ['ς', 'σ'], lowerChar d = [d] ∧ foldChars [d] = foldChar 'Σ' ∧ isLetter d = true := by
  have hall : (['ς', 'σ'].all fun d =>
      decide (lowerChar d = [d] ∧ foldChars [d] = foldChar 'Σ' ∧ isLetter d = true)) = true := by
    rfl
  exact ⟨rfl, fun d hd => of_decide_eq_true (List.all_eq_true.mp hall d hd)⟩

theorem toNat_ofNat {n : Nat} (h : n.isValidChar) : (Char.ofNat n).toNat = n := by
  rw [Char.ofNat, dif_pos h]
  exact UInt32.toNat_ofNatLT ..

/-- Lower case takes an ASCII character as core does, moves it by a row of its table, makes two
characters of the dotted capital, or leaves it as it is. -/
theorem lowerChar_cases (c : Char) :
    (c.toNat < 0x80 ∧ lowerChar c = [c.toLower]) ∨
    (0x80 ≤ c.toNat ∧ ∃ r ∈ lowerShifts, Shift.Covers r c.toNat ∧
      ∃ d : Char, d.toNat = Shift.move r c.toNat ∧ lowerChar c = [d]) ∨
    c = 'İ' ∨ (0x80 ≤ c.toNat ∧ lowerChar c = [c]) := by
  by_cases hc : c.toNat < 0x80
  · exact .inl ⟨hc, lowerChar_of_lt hc⟩
  right
  have hc : 0x80 ≤ c.toNat := Nat.le_of_not_lt hc
  have hmap : lowerChar c = (mapPoint lowerShifts lowerExpansions c.toNat).map Char.ofNat :=
    mapChar_eq_map hc
  rcases mapPoint_cases lowerShifts lowerExpansions c.toNat with
    ⟨r, hr, hn, hpoint⟩ | ⟨p, hp, hn, -⟩ | hpoint
  · refine .inl ⟨hc, r, hr, hn, Char.ofNat (Shift.move r c.toNat), ?_, ?_⟩
    · exact toNat_ofNat (isValidChar_of_mem_lowerShifts hr hn)
    · rw [hmap, hpoint, List.map_singleton]
  · right
    left
    obtain rfl : p = (0x130, [0x69, 0x307]) := List.mem_singleton.mp hp
    rw [← Char.ofNat_toNat c, ← hn]
  · refine .inr (.inr ⟨hc, ?_⟩)
    rw [hmap, hpoint]
    exact congrArg (fun d => [d]) (Char.ofNat_toNat c)

/-- What a row leads to is the `k` of the Kelvin sign, or beyond ASCII. -/
theorem eq_or_le_of_move {r : Shift} (hr : r ∈ lowerShifts) (hn : r.Covers c.toNat)
    (hd : d.toNat = r.move c.toNat) :
    d = 'k' ∨ 0x80 ≤ d.toNat ∧ (within r.image r.top letterRuns = true ∨
      (beside r.first r.last letterRuns = true ∧ beside r.first r.last digitRuns = true)) := by
  rcases (image_of_mem_lowerShifts hr).2 with rfl | ⟨himage, hletters⟩
  · left
    have hmove : Shift.move (0x212A, 0x212A, 1, 0x6B) c.toNat = 0x6B := by
      have hfirst : 0x212A ≤ c.toNat := hn.1
      have hlast : c.toNat ≤ 0x212A := hn.2.1
      show 0x6B + (c.toNat - 0x212A) = 0x6B
      omega
    rw [← Char.ofNat_toNat d, hd, hmove]
  · refine .inr ⟨?_, hletters⟩
    rw [hd]
    exact himage.trans (Shift.Covers.image_le_move r _)

/-- Lower case leaves its own results as they are. -/
theorem lowerChar_of_mem_lowerChar (hd : d ∈ lowerChar c) : lowerChar d = [d] := by
  rcases lowerChar_cases c with ⟨hc, hlower⟩ | ⟨hc, r, hr, hn, e, he, hlower⟩ | rfl | ⟨-, hlower⟩
  · obtain rfl : d = c.toLower := List.mem_singleton.mp (hlower ▸ hd)
    obtain ⟨hlt, htwice, -⟩ := toLower_of_lt hc
    rw [lowerChar_of_lt hlt, htwice]
  · obtain rfl : d = e := List.mem_singleton.mp (hlower ▸ hd)
    rcases eq_or_le_of_move hr hn he with rfl | ⟨hd, -⟩
    · exact lowerChar_of_lt (by decide)
    · -- no row covers what another one leads to
      have hpoint : mapPoint lowerShifts lowerExpansions d.toNat = [d.toNat] := by
        apply mapPoint_of_not_covers
        intro q hq
        rw [he]
        exact hn.not_covers_move (clears_of_settles maps_settle.2.2 hr hq)
      rw [lowerChar, mapChar_eq_map hd, hpoint]
      exact congrArg (fun d => [d]) (Char.ofNat_toNat d)
  · obtain ⟨hlower, hsmall, -⟩ := lowerChar_dotted
    exact hsmall d (hlower ▸ hd)
  · obtain rfl : d = c := List.mem_singleton.mp (hlower ▸ hd)
    exact hlower

/-- A row of folding moves a point once. -/
theorem foldPoint_of_covers {r : Shift} (hr : r ∈ foldShifts) {n : Nat} (hn : r.Covers n) :
    foldPoint n = [r.move n] ∧ foldPoint (r.move n) = [r.move n] := by
  obtain ⟨hrising, hsettle, -⟩ := maps_settle
  refine ⟨mapPoint_of_covers hrising hr hn, mapPoint_of_not_covers fun q hq => ?_⟩
  exact hn.not_covers_move (clears_of_settles hsettle hr hq)

/-- Folding does not tell a point from where a row of lower case moves it to. -/
theorem foldPoint_move {r : Shift} (hr : r ∈ lowerShifts) {n : Nat} (hn : r.Covers n) :
    foldPoint (r.move n) = foldPoint n := by
  -- folding moves the one of the two to the other, or expands both
  rcases folded_of_mem_lowerShifts hr with hshared | hinverse | hexpanded
  · obtain ⟨hfold, htwice⟩ := foldPoint_of_covers hshared hn
    rw [hfold, htwice]
  · obtain ⟨hcovers, hback⟩ := hn.inverse
    obtain ⟨hfold, htwice⟩ := foldPoint_of_covers hinverse hcovers
    rw [hback] at hfold htwice
    rw [hfold, htwice]
  · have hfirst := hn.1
    have hlast := hn.2.1
    have hequal := hexpanded (n - r.first) (by omega)
    rw [Nat.add_sub_cancel' hfirst] at hequal
    exact hequal.symm

/-- Folding does not see that a character was put into lower case. -/
theorem foldChars_lowerChar (c : Char) : foldChars (lowerChar c) = foldChar c := by
  rcases lowerChar_cases c with ⟨hc, hlower⟩ | ⟨hc, r, hr, hn, d, hd, hlower⟩ | rfl | ⟨-, hlower⟩
  · obtain ⟨hlt, htwice, -⟩ := toLower_of_lt hc
    rw [hlower, foldChars_singleton, foldChar_of_lt hlt, htwice, foldChar_of_lt hc]
  · have hpoint : foldPoint d.toNat = foldPoint c.toNat := by
      rw [hd]
      exact foldPoint_move hr hn
    rw [hlower, foldChars_singleton, foldChar_eq_map hc, ← hpoint]
    rcases eq_or_le_of_move hr hn hd with rfl | ⟨hd, -⟩
    · rfl
    · exact foldChar_eq_map hd
  · obtain ⟨hlower, -, hfold⟩ := lowerChar_dotted
    rw [hlower, hfold]
  · rw [hlower, foldChars_singleton]

/-- A row of lower case leads from a character of a word to a letter. -/
theorem isLetter_of_move {r : Shift} (hr : r ∈ lowerShifts) (hc : 0x80 ≤ c.toNat)
    (hn : r.Covers c.toNat) (hd : d.toNat = r.move c.toNat) (hw : isWordChar c = true) :
    isLetter d = true := by
  rcases eq_or_le_of_move hr hn hd with rfl | ⟨hle, hletters | ⟨hnoLetter, hnoDigit⟩⟩
  · decide
  · rw [isLetter, if_neg (Nat.not_lt.mpr hle), hd]
    exact inRuns_of_within hletters (Shift.Covers.image_le_move r _) hn.move_le_top
  · -- the row covers neither letters nor digits, so that the character is no part of a word
    exfalso
    have hletter : isLetter c = false := by
      rw [isLetter, if_neg (Nat.not_lt.mpr hc)]
      exact inRuns_of_beside hnoLetter hn.1 hn.2.1
    have hdigit : isDigit c = false := by
      rw [isDigit, if_neg (Nat.not_lt.mpr hc)]
      exact inRuns_of_beside hnoDigit hn.1 hn.2.1
    rw [isWordChar, hletter, hdigit, Bool.false_or, Bool.false_or, Bool.or_eq_true, beq_iff_eq,
      beq_iff_eq] at hw
    rcases hw with rfl | rfl <;> revert hc <;> decide

/-- The dotted capital apart, lower case keeps words words and letters letters. -/
theorem isWordChar_of_mem_lowerChar (hc : c ≠ 'İ') (hw : isWordChar c = true)
    (hd : d ∈ lowerChar c) :
    isWordChar d = true ∧ (isLetter c = true → isLetter d = true) := by
  rcases lowerChar_cases c with ⟨hlt, hlower⟩ | ⟨hle, r, hr, hn, e, he, hlower⟩ | rfl | ⟨-, hlower⟩
  · obtain rfl : d = c.toLower := List.mem_singleton.mp (hlower ▸ hd)
    obtain ⟨-, -, hword, hletter⟩ := toLower_of_lt hlt
    rw [hword, hletter]
    exact ⟨hw, id⟩
  · obtain rfl : d = e := List.mem_singleton.mp (hlower ▸ hd)
    have hletter := isLetter_of_move hr hle hn he hw
    exact ⟨isWordChar_of_isLetter hletter, fun _ => hletter⟩
  · exact absurd rfl hc
  · obtain rfl : d = c := List.mem_singleton.mp (hlower ▸ hd)
    exact ⟨hw, id⟩

theorem lowerChar_ne_nil (c : Char) : lowerChar c ≠ [] := by
  rcases lowerChar_cases c with ⟨-, hlower⟩ | ⟨-, r, -, -, d, -, hlower⟩ | rfl | ⟨-, hlower⟩
  · rw [hlower]
    exact List.cons_ne_nil _ _
  · rw [hlower]
    exact List.cons_ne_nil _ _
  · rw [lowerChar_dotted.1]
    exact List.cons_ne_nil _ _
  · rw [hlower]
    exact List.cons_ne_nil _ _

theorem foldChar_ne_nil (c : Char) : foldChar c ≠ [] := by
  by_cases hc : c.toNat < 0x80
  · rw [foldChar_of_lt hc]
    exact List.cons_ne_nil _ _
  · rw [foldChar_eq_map (Nat.le_of_not_lt hc), ne_eq, List.map_eq_nil_iff, foldPoint]
    rcases mapPoint_cases foldShifts foldExpansions c.toNat with
      ⟨r, -, -, hpoint⟩ | ⟨p, hp, -, hpoint⟩ | hpoint
    · rw [hpoint]
      exact List.cons_ne_nil _ _
    · have hall : (foldExpansions.all fun p => !p.2.isEmpty) = true := by rfl
      rw [hpoint]
      simpa using List.all_eq_true.mp hall p hp
    · rw [hpoint]
      exact List.cons_ne_nil _ _

/-! ## 3. Whole texts -/

/-- What becomes of a character between its neighbours. -/
def lowerAt (before : List Char) (c : Char) (after : List Char) : List Char :=
  if c == 'Σ' then [lowerSigma before after] else lowerChar c

variable {before after cs : List Char}

theorem lowerFrom_cons (before : List Char) (c : Char) (cs : List Char) :
    lowerFrom before (c :: cs) = lowerAt before c cs ++ lowerFrom (c :: before) cs := rfl

theorem lowerSigma_mem (before after : List Char) : lowerSigma before after ∈ ['ς', 'σ'] := by
  unfold lowerSigma
  split
  · exact List.mem_cons_self
  · exact List.mem_cons_of_mem _ List.mem_cons_self

/-- A capital sigma becomes one of its small forms, and any other character what it becomes
everywhere. -/
theorem lowerAt_cases (before : List Char) (c : Char) (after : List Char) :
    (c = 'Σ' ∧ ∃ d ∈ ['ς', 'σ'], lowerAt before c after = [d]) ∨
    lowerAt before c after = lowerChar c := by
  unfold lowerAt
  split
  · rename_i hc
    exact .inl ⟨beq_iff_eq.mp hc, _, lowerSigma_mem before after, rfl⟩
  · exact .inr rfl

theorem lowerChar_of_mem_lowerAt (hd : d ∈ lowerAt before c after) : lowerChar d = [d] := by
  rcases lowerAt_cases before c after with ⟨-, e, he, hat⟩ | hat
  · obtain rfl : d = e := List.mem_singleton.mp (hat ▸ hd)
    exact (lowerChar_sigma.2 d he).1
  · rw [hat] at hd
    exact lowerChar_of_mem_lowerChar hd

theorem foldChars_lowerAt (before : List Char) (c : Char) (after : List Char) :
    foldChars (lowerAt before c after) = foldChar c := by
  rcases lowerAt_cases before c after with ⟨rfl, e, he, hat⟩ | hat
  · rw [hat]
    exact (lowerChar_sigma.2 e he).2.1
  · rw [hat]
    exact foldChars_lowerChar c

theorem isWordChar_of_mem_lowerAt (hc : c ≠ 'İ') (hw : isWordChar c = true)
    (hd : d ∈ lowerAt before c after) :
    isWordChar d = true ∧ (isLetter c = true → isLetter d = true) := by
  rcases lowerAt_cases before c after with ⟨-, e, he, hat⟩ | hat
  · obtain rfl : d = e := List.mem_singleton.mp (hat ▸ hd)
    have hletter : isLetter d = true := (lowerChar_sigma.2 d he).2.2
    exact ⟨isWordChar_of_isLetter hletter, fun _ => hletter⟩
  · rw [hat] at hd
    exact isWordChar_of_mem_lowerChar hc hw hd

theorem lowerAt_ne_nil (before : List Char) (c : Char) (after : List Char) :
    lowerAt before c after ≠ [] := by
  rcases lowerAt_cases before c after with ⟨-, e, -, hat⟩ | hat
  · rw [hat]
    exact List.cons_ne_nil _ _
  · rw [hat]
    exact lowerChar_ne_nil c

theorem exists_mem_lowerAt_of_mem_lowerFrom (hd : d ∈ lowerFrom before cs) :
    ∃ c ∈ cs, ∃ before after, d ∈ lowerAt before c after := by
  induction cs generalizing before with
  | nil => cases hd
  | cons c cs ih =>
    rw [lowerFrom_cons, List.mem_append] at hd
    rcases hd with hhead | htail
    · exact ⟨c, List.mem_cons_self, before, cs, hhead⟩
    · obtain ⟨b, hb, hat⟩ := ih htail
      exact ⟨b, List.mem_cons_of_mem c hb, hat⟩

theorem lowerFrom_of_small (h : ∀ d ∈ cs, lowerChar d = [d]) : lowerFrom before cs = cs := by
  induction cs generalizing before with
  | nil => rfl
  | cons c cs ih =>
    have hc : lowerChar c = [c] := h c List.mem_cons_self
    have hsigma : (c == 'Σ') = false := by
      rw [beq_eq_false_iff_ne]
      rintro rfl
      rw [lowerChar_sigma.1] at hc
      revert hc
      decide
    rw [lowerFrom_cons, lowerAt, hsigma, if_neg Bool.false_ne_true, hc,
      ih fun d hd => h d (List.mem_cons_of_mem c hd), List.singleton_append]

/-- **Lower case is reached in one go.** -/
theorem lowerChars_lowerChars (cs : List Char) : lowerChars (lowerChars cs) = lowerChars cs := by
  apply lowerFrom_of_small
  intro d hd
  obtain ⟨c, -, before, after, hat⟩ := exists_mem_lowerAt_of_mem_lowerFrom hd
  exact lowerChar_of_mem_lowerAt hat

theorem lower_lower (s : String) : lower (lower s) = lower s := by
  rw [lower, toList_lower, lowerChars_lowerChars, lower]

theorem foldChars_lowerFrom (before cs : List Char) :
    foldChars (lowerFrom before cs) = foldChars cs := by
  induction cs generalizing before with
  | nil => rfl
  | cons c cs ih =>
    rw [lowerFrom_cons, foldChars_append, foldChars_lowerAt, ih, foldChars, foldChars,
      List.flatMap_cons]

/-- **Folding does not see lower case.** -/
theorem fold_lower (s : String) : fold (lower s) = fold s := by
  rw [fold, toList_lower, lowerChars, foldChars_lowerFrom, fold]

theorem fold_ne_empty {s : String} (h : s ≠ "") : fold s ≠ "" := by
  intro hfold
  have hnil : foldChars s.toList = [] := by rw [← toList_fold, hfold]; rfl
  rcases List.exists_cons_of_ne_nil (fun hs => h (String.toList_eq_nil_iff.mp hs)) with ⟨c, cs, hs⟩
  rw [hs, foldChars, List.flatMap_cons, List.append_eq_nil_iff] at hnil
  exact foldChar_ne_nil c hnil.1

end UiTree.Text
