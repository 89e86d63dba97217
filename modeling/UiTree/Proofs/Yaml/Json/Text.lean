import UiTree.Json.Writer
import UiTree.Proofs.Text.Classes
import UiTree.Yaml.Scalar

/-!
# Texts of JSON — how a quoted text reads as a scalar

A text that is written for JSON, every character beyond ASCII escaped, is read as the same text by
the reader of double quotes, with one exception: a character above `U+FFFF` is written as two
escapes, and each of them reads as a half of it.
-/

namespace UiTree.Yaml

open UiTree.Text UiTree.Json

/-! ## 1. Code points in hexadecimal -/

theorem hexValue?_hexDigit {n : Nat} (h : n < 16) : hexValue? (hexDigit n) = some n := by
  have hall : ∀ n < 16, hexValue? (hexDigit n) = some n := by decide
  exact hall n h

theorem hexNumber?_hexDigits {n : Nat} (h : n < 0x10000) (cs : List Char) :
    hexNumber? 4 0 (hexDigits 4 n ++ cs) = some (n, cs) := by
  simp only [hexDigits, List.nil_append, List.cons_append, hexNumber?]
  have hdigit : ∀ m, hexValue? (hexDigit (m % 16)) = some (m % 16) :=
    fun m => hexValue?_hexDigit (Nat.mod_lt m (by decide))
  simp only [hdigit]
  congr 2
  omega

/-! ## 2. Characters -/

/-- The code of the first half of a character above `U+FFFF`. -/
def highCode (c : Char) : Nat := 0xd800 + (c.toNat - 0x10000) / 0x400

/-- The code of the second half. -/
def lowCode (c : Char) : Nat := 0xdc00 + (c.toNat - 0x10000) % 0x400

theorem highCode_bounds (c : Char) : 0xd800 ≤ highCode c ∧ highCode c < 0xe000 := by
  have hvalid : c.toNat < 0xd800 ∨ 0xdfff < c.toNat ∧ c.toNat < 0x110000 := c.valid
  unfold highCode
  omega

theorem lowCode_bounds (c : Char) : 0xd800 ≤ lowCode c ∧ lowCode c < 0xe000 := by
  unfold lowCode
  omega

/-- A half by its code. -/
def half (n : Nat) : Ragged := { points := [.ofHalfCode n] }

/-- What a written character reads as: a character above `U+FFFF` as its two halves. -/
def readBack (c : Char) : Ragged :=
  if c.toNat < 0x10000 then .ofChars [c] else half (highCode c) ++ half (lowCode c)

theorem readBack_of_lt {c : Char} (h : c.toNat < 0x10000) : readBack c = .ofChars [c] := if_pos h

theorem readBack_of_not_lt {c : Char} (h : ¬ c.toNat < 0x10000) :
    readBack c = half (highCode c) ++ half (lowCode c) := if_neg h

theorem escaped_letter {l c : Char} (h : escape? l = some c) (cs : List Char) :
    escaped (l :: cs) = .ok (.ofChars [c], cs) := by
  unfold escaped
  simp only [h]

theorem escaped_unicode {n : Nat} (h : n < 0x10000) (cs : List Char) :
    escaped ('u' :: (hexDigits 4 n ++ cs)) = (codePoint n).map (·, cs) := by
  have hletter : escape? 'u' = none ∧ escapeWidth? 'u' = some 4 := ⟨rfl, rfl⟩
  rw [escaped, hletter.1, hletter.2]
  simp only [hexNumber?_hexDigits h]
  cases codePoint n <;> rfl

/-- A code point that is a character stands for it. -/
theorem codePoint_toNat (c : Char) : codePoint c.toNat = .ok (.ofChars [c]) := by
  have hvalid : c.toNat < 0xd800 ∨ 0xdfff < c.toNat ∧ c.toNat < 0x110000 := c.valid
  rw [codePoint, if_neg (by omega), if_neg (by omega), if_neg (by simp; omega), Char.ofNat_toNat]

theorem codePoint_surrogate {n : Nat} (hlow : 0xd800 ≤ n) (hhigh : n < 0xe000) :
    codePoint n = .ok (half n) := by
  rw [codePoint, if_neg (by omega), if_neg (by omega), if_pos (by simp; omega)]
  rfl

/-! ## 3. Quoted texts -/

section

variable (room : Nat) (cs : List Char)

/-- The rest of a quoted text, behind a piece of it. -/
def behind (piece : Ragged) (x : Except Fault (Ragged × List Char)) :
    Except Fault (Ragged × List Char) := do
  let (t, rest) ← x
  return (piece ++ t, rest)

theorem behind_behind (piece other : Ragged) (x : Except Fault (Ragged × List Char)) :
    behind piece (behind other x) = behind (piece ++ other) x := by
  cases x with
  | error f => rfl
  | ok r =>
    change Except.ok (piece ++ (other ++ r.1), r.2) = Except.ok (piece ++ other ++ r.1, r.2)
    rw [Ragged.append_assoc]

theorem doubleQuoted_quote : doubleQuoted (room + 1) ('"' :: cs) = .ok (.ofChars [], cs) := by
  rw [doubleQuoted]
  rfl

theorem doubleQuoted_escape {piece : Ragged} {after : List Char}
    (h : escaped cs = .ok (piece, after)) :
    doubleQuoted (room + 1) ('\\' :: cs) = behind piece (doubleQuoted room after) := by
  rw [doubleQuoted, h]
  rfl

theorem doubleQuoted_self {c : Char} (hquote : c ≠ '"') (hescape : c ≠ '\\')
    (hgap : isGap c = false) :
    doubleQuoted (room + 1) (c :: cs) = behind (.ofChars [c]) (doubleQuoted room cs) := by
  rw [doubleQuoted]
  simp only [beq_iff_eq, hquote, hescape, hgap, if_false, Bool.false_eq_true]
  rfl

theorem takeBreak?_eq_none {c : Char} (h : isBreak c = false) : takeBreak? (c :: cs) = none := by
  simp only [isBreak, Bool.or_eq_false_iff, beq_eq_false_iff_ne] at h
  unfold takeBreak?
  split
  · rename_i hcs
    exact absurd (List.cons.inj hcs).1 h.1.1.1.2
  · rename_i hcs
    cases hcs
    simp [isBreak, h]
  · rfl

/-- What can be seen of ASCII, or is a blank. -/
def Visible (c : Char) : Prop := 0x20 ≤ c.toNat ∧ c.toNat < 0x7f

instance (c : Char) : Decidable (Visible c) := instDecidableAnd

theorem isGap_of_visible {c : Char} (h : Visible c) (hc : c ≠ ' ') : isGap c = false := by
  unfold Visible at h
  simp only [isGap, isBreak, Bool.or_eq_false_iff, beq_eq_false_iff_ne]
  refine ⟨⟨hc, ?_⟩, ⟨⟨⟨?_, ?_⟩, ?_⟩, ?_⟩, ?_⟩
  all_goals
    rintro rfl
    revert h
    decide

theorem isBreak_of_isGap {c : Char} (h : isGap c = false) : isBreak c = false := by
  rw [isGap, Bool.or_eq_false_iff] at h
  exact h.2

theorem quotedSpace_blanks {c : Char} {blanks : List Char} (hblanks : ∀ b ∈ blanks, b = ' ')
    (hc : isGap c = false) :
    quotedSpace (blanks ++ c :: cs) = .ok (blanks, c :: cs) := by
  have hrun : ∀ b ∈ blanks, (b == ' ' || b == '\t') = true := by
    intro b hb
    rw [hblanks b hb]
    rfl
  have hstops : Stops (fun b => b == ' ' || b == '\t') (c :: cs) := by
    rw [stops_cons]
    rw [isGap, Bool.or_eq_false_iff] at hc
    exact hc.1
  unfold quotedSpace
  dsimp only
  rw [takeWhile_append_stops hrun hstops, dropWhile_append_stops hrun hstops]
  simp only [takeBreak?_eq_none cs (isBreak_of_isGap hc)]

/-- Blanks within a line are kept. -/
theorem doubleQuoted_blanks {c : Char} {blanks : List Char}
    (hblanks : ∀ b ∈ ' ' :: blanks, b = ' ') (hc : isGap c = false) :
    doubleQuoted (room + 1) (' ' :: (blanks ++ c :: cs)) =
      behind (.ofChars (' ' :: blanks)) (doubleQuoted room (c :: cs)) := by
  have hspace : quotedSpace (' ' :: (blanks ++ c :: cs)) = .ok (' ' :: blanks, c :: cs) :=
    quotedSpace_blanks cs hblanks hc
  rw [doubleQuoted, hspace]
  rfl

end

/-! ## 4. Written characters -/

/-- The forms of a written character: an escape by a letter or by codes, or the character itself. -/
inductive Written (c : Char) : List Char → Prop
  | letter {l : Char} (h : escape? l = some c) (hl : Visible l)
      (hc : c.toNat < 0x10000) : Written c ['\\', l]
  | self (hquote : c ≠ '"') (hescape : c ≠ '\\') (hc : 0x20 ≤ c.toNat ∧ c.toNat < 0x7f) :
      Written c [c]
  | code (hc : c.toNat < 0x10000) : Written c (unicodeEscape c.toNat)
  | halves (hc : ¬ c.toNat < 0x10000) :
      Written c (unicodeEscape (highCode c) ++ unicodeEscape (lowCode c))

theorem written_letter {c d l : Char} (h : (c == d) = true) (hescape : escape? l = some d)
    (hl : Visible l) (hd : d.toNat < 0x10000) : Written c ['\\', l] := by
  rw [beq_iff_eq.mp h]
  exact .letter hescape hl hd

theorem written_writeChar (c : Char) : Written c (writeChar true c) := by
  fun_cases writeChar true c with
  | case1 h => exact written_letter h rfl (by decide) (by decide)
  | case2 _ h => exact written_letter h rfl (by decide) (by decide)
  | case3 _ _ h => exact written_letter h rfl (by decide) (by decide)
  | case4 _ _ _ h => exact written_letter h rfl (by decide) (by decide)
  | case5 _ _ _ _ h => exact written_letter h rfl (by decide) (by decide)
  | case6 _ _ _ _ _ h => exact written_letter h rfl (by decide) (by decide)
  | case7 _ _ _ _ _ _ h => exact written_letter h rfl (by decide) (by decide)
  | case8 => exact .code (by omega)
  | case9 =>
    rw [escapeCode]
    split
    · exact .code (by assumption)
    · exact .halves (by assumption)
  | case10 hquote hescape _ _ _ _ _ hlow hhigh =>
    refine .self (by simpa using hquote) (by simpa using hescape) ?_
    simp only [Bool.true_and, decide_eq_true_eq] at hhigh
    exact ⟨Nat.le_of_not_lt hlow, Nat.lt_of_not_le hhigh⟩

theorem visible_unicodeEscape (n : Nat) : ∀ d ∈ unicodeEscape n, Visible d := by
  have hdigit : ∀ m, Visible (hexDigit (m % 16)) := by
    intro m
    have hall : ∀ k < 16, Visible (hexDigit k) := by decide
    exact hall _ (Nat.mod_lt m (by decide))
  simp only [unicodeEscape, hexDigits, List.nil_append, List.cons_append, List.forall_mem_cons]
  exact ⟨by decide, by decide, hdigit _, hdigit _, hdigit _, hdigit _, List.forall_mem_nil _⟩

namespace Written

variable {c : Char} {text : List Char} (h : Written c text)
include h

/-- All that is written can be seen. -/
theorem visible : ∀ d ∈ text, Visible d := by
  cases h with
  | letter _ hl => simpa using ⟨by decide, hl⟩
  | self _ _ hc => exact List.forall_mem_singleton.mpr hc
  | code => exact visible_unicodeEscape _
  | halves =>
    rw [List.forall_mem_append]
    exact ⟨visible_unicodeEscape _, visible_unicodeEscape _⟩

/-- Only a blank starts with a blank. -/
theorem exists_eq_cons : ∃ d ds, text = d :: ds ∧ (d = ' ' → c = ' ') := by
  cases h with
  | letter => exact ⟨_, _, rfl, nofun⟩
  | self => exact ⟨_, _, rfl, id⟩
  | code => exact ⟨_, _, rfl, nofun⟩
  | halves => exact ⟨_, _, rfl, nofun⟩

end Written

/-- How many pieces a written character is read in. -/
def pieces (c : Char) : Nat := if c.toNat < 0x10000 then 1 else 2

theorem doubleQuoted_written {c : Char} {text : List Char} (h : Written c text) (hc : c ≠ ' ')
    (room : Nat) (cs : List Char) :
    doubleQuoted (room + pieces c) (text ++ cs) = behind (readBack c) (doubleQuoted room cs) := by
  have hcode : ∀ {n : Nat} {piece : Ragged} (room : Nat) (cs : List Char), n < 0x10000 →
      codePoint n = .ok piece → doubleQuoted (room + 1) (unicodeEscape n ++ cs) =
        behind piece (doubleQuoted room cs) := by
    intro n piece room cs hn hpiece
    apply doubleQuoted_escape
    rw [List.append_eq, List.cons_append, escaped_unicode hn, hpiece]
    rfl
  cases h with
  | letter hescape _ hnarrow =>
    rw [pieces, if_pos hnarrow, readBack_of_lt hnarrow]
    exact doubleQuoted_escape _ _ (escaped_letter hescape cs)
  | self hquote hescape hvisible =>
    have hnarrow : c.toNat < 0x10000 := Nat.lt_trans hvisible.2 (by decide)
    rw [pieces, if_pos hnarrow, readBack_of_lt hnarrow]
    exact doubleQuoted_self _ _ hquote hescape (isGap_of_visible hvisible hc)
  | code hnarrow =>
    rw [pieces, if_pos hnarrow, readBack_of_lt hnarrow]
    exact hcode room cs hnarrow (codePoint_toNat c)
  | halves hwide =>
    have hhigh := highCode_bounds c
    have hlow := lowCode_bounds c
    rw [pieces, if_neg hwide, readBack_of_not_lt hwide, List.append_assoc,
      hcode (room + 1) _ (by omega) (codePoint_surrogate hhigh.1 hhigh.2),
      hcode room _ (by omega) (codePoint_surrogate hlow.1 hlow.2), behind_behind]

theorem pieces_le {c : Char} {text : List Char} (h : Written c text) : pieces c ≤ text.length := by
  have hpieces : pieces c ≤ 2 := by
    rw [pieces]
    split <;> decide
  cases h with
  | letter => exact hpieces
  | self _ _ hc =>
    rw [pieces, if_pos (Nat.lt_trans hc.2 (by decide))]
    exact Nat.le_refl 1
  | code =>
    exact Nat.le_trans hpieces (by simp [unicodeEscape])
  | halves => exact Nat.le_trans hpieces (by simp [unicodeEscape])

/-! ## 5. Written texts -/

/-- What a written text reads as. -/
def textOf (cs : List Char) : Ragged := { points := cs.flatMap fun c => (readBack c).points }

theorem textOf_cons (c : Char) (cs : List Char) : textOf (c :: cs) = readBack c ++ textOf cs := rfl

theorem textOf_append (cs ds : List Char) : textOf (cs ++ ds) = textOf cs ++ textOf ds := by
  rw [textOf, List.flatMap_append]
  rfl

/-- The text has no character above `U+FFFF`. -/
def Narrow (cs : List Char) : Prop := ∀ c ∈ cs, c.toNat < 0x10000

instance (cs : List Char) : Decidable (Narrow cs) := List.decidableBAll _ _

theorem textOf_of_narrow {cs : List Char} (h : Narrow cs) : textOf cs = .ofChars cs := by
  induction cs with
  | nil => rfl
  | cons c cs ih =>
    rcases List.forall_mem_cons.mp h with ⟨hc, hcs⟩
    rw [textOf_cons, ih hcs, readBack_of_lt hc]
    rfl

/-- A text comes back as it was just if all of its characters do. -/
theorem textOf_eq_ofChars_iff {cs : List Char} : textOf cs = .ofChars cs ↔ Narrow cs := by
  refine ⟨fun h c hc => Decidable.byContradiction fun hwide => ?_, textOf_of_narrow⟩
  have hhalf : Point.ofHalfCode (highCode c) ∈ (textOf cs).points := by
    refine List.mem_flatMap.mpr ⟨c, hc, ?_⟩
    rw [readBack_of_not_lt hwide]
    exact List.mem_cons_self
  rw [h, Ragged.points_ofChars] at hhalf
  rcases List.mem_map.mp hhalf with ⟨d, -, hd⟩
  cases hd

theorem flatMap_writeChar_blanks {blanks : List Char} (h : ∀ b ∈ blanks, b = ' ') :
    blanks.flatMap (writeChar true) = blanks := by
  induction blanks with
  | nil => rfl
  | cons b blanks ih =>
    rw [List.forall_mem_cons] at h
    rw [List.flatMap_cons, ih h.2, h.1]
    rfl

theorem visible_writeChars (cs : List Char) : ∀ d ∈ writeChars true cs, Visible d := by
  have hquote : Visible '"' := by decide
  rw [writeChars, List.forall_mem_cons, List.forall_mem_append, List.forall_mem_singleton]
  refine ⟨hquote, fun d hd => ?_, hquote⟩
  rcases List.mem_flatMap.mp hd with ⟨c, -, hd⟩
  exact (written_writeChar c).visible d hd

/-- After the blanks there is a character that is no gap: the closing quote, if nothing else. -/
theorem exists_next {cs : List Char} (h : Stops (· == ' ') cs) (more : List Char) :
    ∃ d ds, cs.flatMap (writeChar true) ++ '"' :: more = d :: ds ∧ isGap d = false := by
  cases cs with
  | nil => exact ⟨'"', more, rfl, rfl⟩
  | cons c cs =>
    rcases (written_writeChar c).exists_eq_cons with ⟨d, ds, htext, hblank⟩
    have hvisible := (written_writeChar c).visible d (by simp [htext])
    have hd : d ≠ ' ' := fun hd => by simpa [hblank hd] using stops_cons.mp h
    refine ⟨d, ds ++ cs.flatMap (writeChar true) ++ '"' :: more, ?_, isGap_of_visible hvisible hd⟩
    rw [List.flatMap_cons, htext]
    simp

/-- A text is the blanks that it starts with and what stands behind them. -/
theorem exists_blanks_append (cs : List Char) :
    ∃ blanks rest, cs = blanks ++ rest ∧ (∀ b ∈ blanks, b = ' ') ∧ Stops (· == ' ') rest := by
  refine ⟨cs.takeWhile (· == ' '), cs.dropWhile (· == ' '), ?_, ?_, stops_dropWhile cs⟩
  · rw [List.takeWhile_append_dropWhile]
  · intro b hb
    simpa using List.all_eq_true.mp List.all_takeWhile b hb

/-- **A written text reads back.**  Up to the closing quote the reader takes all that was written,
and nothing of what follows. -/
theorem doubleQuoted_writeChars (more : List Char) (cs : List Char) {room : Nat}
    (hroom : (cs.flatMap (writeChar true)).length < room) :
    doubleQuoted room (cs.flatMap (writeChar true) ++ '"' :: more) = .ok (textOf cs, more) := by
  -- a run of blanks is read at once, so that the induction is on the length
  match cs with
  | [] =>
    rcases Nat.exists_eq_succ_of_ne_zero (Nat.ne_of_gt hroom) with ⟨room, rfl⟩
    exact doubleQuoted_quote room more
  | c :: cs =>
    rw [List.flatMap_cons, List.length_append] at hroom
    by_cases hc : c = ' '
    · subst hc
      rcases exists_blanks_append cs with ⟨blanks, rest, hcs, hspaces, hstops⟩
      have hblanks : ∀ b ∈ ' ' :: blanks, b = ' ' := List.forall_mem_cons.mpr ⟨rfl, hspaces⟩
      have hlength : rest.length < (' ' :: cs).length := by
        rw [hcs, List.length_cons, List.length_append]
        omega
      have htext : (' ' :: cs).flatMap (writeChar true) =
          ' ' :: (blanks ++ rest.flatMap (writeChar true)) := by
        rw [hcs, ← List.cons_append, List.flatMap_append, flatMap_writeChar_blanks hblanks,
          List.cons_append]
      have hnarrow : Narrow (' ' :: blanks) := by
        intro b hb
        rw [hblanks b hb]
        decide
      rcases exists_next hstops more with ⟨d, ds, hnext, hd⟩
      rw [← List.length_append, ← List.flatMap_cons, htext, List.length_cons,
        List.length_append] at hroom
      have hrest : doubleQuoted (room - 1) (d :: ds) = .ok (textOf rest, more) := by
        rw [← hnext]
        exact doubleQuoted_writeChars more rest (by omega)
      have henough : room = room - 1 + 1 := by omega
      rw [htext, List.cons_append, List.append_assoc, hnext, henough,
        doubleQuoted_blanks _ _ hblanks hd, hrest, hcs, ← List.cons_append, textOf_append,
        textOf_of_narrow hnarrow]
      rfl
    · have hwritten := written_writeChar c
      have hpieces := pieces_le hwritten
      have hrest : doubleQuoted (room - pieces c) (cs.flatMap (writeChar true) ++ '"' :: more) =
          .ok (textOf cs, more) := doubleQuoted_writeChars more cs (by omega)
      have henough : room = room - pieces c + pieces c := by omega
      rw [List.flatMap_cons, List.append_assoc, henough, doubleQuoted_written hwritten hc, hrest]
      rfl
termination_by cs.length
decreasing_by
  · exact hlength
  · exact Nat.lt_succ_self _

end UiTree.Yaml
