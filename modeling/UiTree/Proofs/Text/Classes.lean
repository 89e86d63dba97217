import UiTree.Text.Blank
import UiTree.Text.Letter

/-!
# Character classes — white space is no part of a word

White space and the characters of a selector word have nothing in common, so a word ends where a
gap begins.  What `trim` leaves is characterized by what stands around it.
-/

namespace UiTree.Text

/-! ## 1. White space against words -/

/-- The ASCII tests of `isBlank` name the first ten members of `blanks`. -/
theorem mem_blanks_of_isBlank {c : Char} (h : isBlank c = true) : c ∈ blanks := by
  unfold isBlank at h
  split at h
  · have hc : c.toNat = 9 ∨ c.toNat = 10 ∨ c.toNat = 11 ∨ c.toNat = 12 ∨ c.toNat = 13 ∨
        c.toNat = 28 ∨ c.toNat = 29 ∨ c.toNat = 30 ∨ c.toNat = 31 ∨ c.toNat = 32 := by
      simp only [Bool.or_eq_true, Bool.and_eq_true, decide_eq_true_eq, beq_iff_eq] at h
      rcases h with (rfl | h) | h
      · decide
      · omega
      · omega
    have hof : c = Char.ofNat c.toNat := (Char.ofNat_toNat c).symm
    rcases hc with hc | hc | hc | hc | hc | hc | hc | hc | hc | hc <;> rw [hc] at hof <;>
      rw [hof] <;> decide
  · exact List.contains_iff_mem.mp h

theorem isWordChar_of_isBlank {c : Char} (h : isBlank c = true) : isWordChar c = false := by
  have hall : blanks.all (fun b => !isWordChar b) = true := by decide +kernel
  have hc : (!isWordChar c) = true := List.all_eq_true.mp hall c (mem_blanks_of_isBlank h)
  rwa [Bool.not_eq_true'] at hc

theorem isBlank_of_isWordChar {c : Char} (h : isWordChar c = true) : isBlank c = false := by
  cases hb : isBlank c with
  | false => rfl
  | true =>
    rw [isWordChar_of_isBlank hb] at h
    exact absurd h Bool.false_ne_true

theorem ne_of_isBlank {c d : Char} (h : isBlank c = true) (hd : isBlank d = false) : c ≠ d := by
  intro he
  rw [he, hd] at h
  exact Bool.false_ne_true h

/-! ## 2. Runs of a class -/

variable {p : Char → Bool}

/-- The text does not go on with a character of the class. -/
def Stops (p : Char → Bool) (cs : List Char) : Prop :=
  ∀ c ∈ cs.head?, p c = false

theorem stops_nil : Stops p [] := by
  intro c hc
  simp at hc

theorem stops_cons {c : Char} {cs : List Char} : Stops p (c :: cs) ↔ p c = false := by
  simp [Stops]

theorem takeWhile_append_stops {run rest : List Char} (h : ∀ c ∈ run, p c = true)
    (hr : Stops p rest) : (run ++ rest).takeWhile p = run := by
  rw [List.takeWhile_append_of_pos h]
  cases rest with
  | nil => simp
  | cons c rest => rw [List.takeWhile_cons_of_neg (by simp [stops_cons.mp hr]), List.append_nil]

theorem dropWhile_append_stops {run rest : List Char} (h : ∀ c ∈ run, p c = true)
    (hr : Stops p rest) : (run ++ rest).dropWhile p = rest := by
  rw [List.dropWhile_append_of_pos h]
  cases rest with
  | nil => rfl
  | cons c rest => rw [List.dropWhile_cons_of_neg (by simp [stops_cons.mp hr])]

theorem stops_dropWhile (cs : List Char) : Stops p (cs.dropWhile p) := by
  intro c hc
  have hnot := List.head?_dropWhile_not p cs
  rw [Option.mem_def] at hc
  rw [hc] at hnot
  simpa using hnot

/-! ## 3. Trimming -/

/-- `text` is `raw` without the white space at its ends. -/
structure Stripped (raw text : List Char) : Prop where
  split : ∃ lead trail, raw = lead ++ text ++ trail ∧
    (∀ c ∈ lead, isBlank c = true) ∧ (∀ c ∈ trail, isBlank c = true)
  head : Stops isBlank text
  last : Stops isBlank text.reverse

theorem trimStart_append {lead cs : List Char} (hl : ∀ c ∈ lead, isBlank c = true)
    (h : Stops isBlank cs) : trimStart (lead ++ cs) = cs :=
  dropWhile_append_stops hl h

theorem trimEnd_append {cs trail : List Char} (ht : ∀ c ∈ trail, isBlank c = true)
    (h : Stops isBlank cs.reverse) : trimEnd (cs ++ trail) = cs := by
  unfold trimEnd
  rw [List.reverse_append, dropWhile_append_stops (by simpa using ht) h, List.reverse_reverse]

theorem stops_append {cs ds : List Char} (h : Stops p cs) (hne : cs ≠ []) : Stops p (cs ++ ds) := by
  rcases List.exists_cons_of_ne_nil hne with ⟨c, cs, rfl⟩
  rw [List.cons_append, stops_cons]
  exact stops_cons.mp h

theorem stops_of_append {cs ds : List Char} (h : Stops p (cs ++ ds)) : Stops p cs := by
  cases cs with
  | nil => exact stops_nil
  | cons c cs =>
    rw [List.cons_append, stops_cons] at h
    exact stops_cons.mpr h

/-- Trimming at the end gives a text back in two parts, the second one blank. -/
theorem trimEnd_append_blanks (cs : List Char) :
    trimEnd cs ++ (cs.reverse.takeWhile isBlank).reverse = cs := by
  unfold trimEnd
  rw [← List.reverse_append, List.takeWhile_append_dropWhile, List.reverse_reverse]

theorem stripped_trim (raw : List Char) : Stripped raw (trim raw) where
  split := by
    refine ⟨raw.takeWhile isBlank, ((trimStart raw).reverse.takeWhile isBlank).reverse, ?_, ?_, ?_⟩
    · rw [List.append_assoc, trim, trimEnd_append_blanks, trimStart,
        List.takeWhile_append_dropWhile]
    · exact List.all_eq_true.mp List.all_takeWhile
    · intro c hc
      exact List.all_eq_true.mp List.all_takeWhile c (List.mem_reverse.mp hc)
  head := by
    have h : Stops isBlank (trimStart raw) := stops_dropWhile raw
    rw [← trimEnd_append_blanks (trimStart raw)] at h
    exact stops_of_append h
  last := by
    rw [trim, trimEnd, List.reverse_reverse]
    exact stops_dropWhile _

theorem trim_eq_of_stripped {raw text : List Char} (h : Stripped raw text) : trim raw = text := by
  rcases h with ⟨⟨lead, trail, rfl, hl, ht⟩, hhead, hlast⟩
  by_cases hne : text = []
  · -- then all of it is white space, and goes at the start
    have hall : ∀ c ∈ lead ++ trail, isBlank c = true := by
      intro c hc
      exact (List.mem_append.mp hc).elim (hl c) (ht c)
    rw [hne, List.append_nil, trim, ← List.append_nil (lead ++ trail),
      trimStart_append hall stops_nil, trimEnd_nil]
  · rw [List.append_assoc, trim, trimStart_append hl (stops_append hhead hne),
      trimEnd_append ht hlast]

theorem stripped_iff {raw text : List Char} : Stripped raw text ↔ text = trim raw := by
  constructor
  · intro h
    exact (trim_eq_of_stripped h).symm
  · intro h
    rw [h]
    exact stripped_trim raw

end UiTree.Text
