import UiTree.Json.Reader
import UiTree.Json.Writer
import UiTree.Proofs.Text.Classes

/-!
# Texts and integers — what is written of them reads back

A text stands between quotes, and whatever it is made of, the reader takes just its characters, up
to the closing quote.  An integer is read up to the end of its digits.
-/

namespace UiTree.Json

open UiTree.Number UiTree.Text

/-! ## 1. Escapes -/

theorem hexValue?_hexDigit {n : Nat} (h : n < 16) : hexValue? (hexDigit n) = some n := by
  have hall : ∀ n < 16, hexValue? (hexDigit n) = some n := by decide
  exact hall n h

/-- The four digits of a code are read as the code. -/
theorem exists_hexDigits {n : Nat} (h : n < 0x10000) :
    ∃ a b c d, hexDigits 4 n = [a, b, c, d] ∧ hex4? a b c d = some n := by
  refine ⟨_, _, _, _, rfl, ?_⟩
  have hdigit : ∀ m, hexValue? (hexDigit (m % 16)) = some (m % 16) :=
    fun m => hexValue?_hexDigit (Nat.mod_lt m (by decide))
  simp only [hex4?, hdigit]
  change some _ = some n
  congr 1
  omega

/-- Half of a pair of codes that stands for one character. -/
def IsSurrogate (n : Nat) : Prop := 0xd800 ≤ n ∧ n < 0xe000

theorem not_isSurrogate_toNat (c : Char) : ¬ IsSurrogate c.toNat := by
  have hvalid : c.toNat < 0xd800 ∨ 0xdfff < c.toNat ∧ c.toNat < 0x110000 := c.valid
  unfold IsSurrogate
  omega

theorem readChar?_unicodeEscape {n : Nat} (h : n < 0x10000) (hn : ¬ IsSurrogate n)
    (cs : List Char) : readChar? (unicodeEscape n ++ cs) = some (Char.ofNat n, cs) := by
  rcases exists_hexDigits h with ⟨a, b, c, d, hdigits, hcode⟩
  have hwhole : (decide (0xd800 ≤ n) && decide (n < 0xe000)) = false := by
    simpa [IsSurrogate] using hn
  have hhigh : (decide (0xd800 ≤ n) && decide (n < 0xdc00)) = false := by
    simp only [IsSurrogate, not_and, Nat.not_lt] at hn
    simp only [Bool.and_eq_false_imp, decide_eq_true_eq, decide_eq_false_iff_not]
    omega
  rw [unicodeEscape, hdigits]
  change readChar? ('\\' :: 'u' :: a :: b :: c :: d :: cs) = _
  unfold readChar?
  -- another code that follows is not a second half, as this one is no first half
  split
  · rename_i heq
    simp only [List.cons.injEq, true_and] at heq
    rcases heq with ⟨rfl, rfl, rfl, rfl, rfl⟩
    simp only [hcode, hwhole, hhigh, Option.bind_eq_bind, Option.bind_some, Bool.false_and,
      Bool.false_eq_true, if_false]
    split <;> rfl
  · rename_i heq
    simp only [List.cons.injEq, true_and] at heq
    rcases heq with ⟨rfl, rfl, rfl, rfl, rfl⟩
    simp only [hcode, hwhole, Option.bind_eq_bind, Option.bind_some, Bool.false_eq_true, if_false]
    rfl
  · rename_i hnot heq
    simp only [List.cons.injEq, true_and] at heq
    rcases heq with ⟨rfl, rfl⟩
    exact absurd rfl (hnot _ _ _ _ _ rfl)
  · rename_i hnot heq
    rcases List.cons.inj heq with ⟨rfl, rfl⟩
    exact absurd rfl (hnot _ _ rfl)
  · rename_i heq
    cases heq

theorem readChar?_pair {high low : Nat} (hhigh : 0xd800 ≤ high ∧ high < 0xdc00)
    (hlow : 0xdc00 ≤ low ∧ low < 0xe000) (cs : List Char) :
    readChar? (unicodeEscape high ++ (unicodeEscape low ++ cs)) =
      some (Char.ofNat (0x10000 + (high - 0xd800) * 0x400 + (low - 0xdc00)), cs) := by
  rcases exists_hexDigits (n := high) (by omega) with ⟨a, b, c, d, hdigits, hcode⟩
  rcases exists_hexDigits (n := low) (by omega) with ⟨e, f, g, k, hdigits', hcode'⟩
  have hpair : (decide (0xd800 ≤ high) && decide (high < 0xdc00) && decide (0xdc00 ≤ low) &&
      decide (low < 0xe000)) = true := by
    simp [hhigh.1, hhigh.2, hlow.1, hlow.2]
  rw [unicodeEscape, unicodeEscape, hdigits, hdigits']
  change readChar?
    ('\\' :: 'u' :: a :: b :: c :: d :: '\\' :: 'u' :: e :: f :: g :: k :: cs) = _
  simp only [readChar?, hcode, hcode', hpair, Option.bind_eq_bind, Option.bind_some, if_true]
  rfl

theorem readChar?_letter {l c : Char} (hl : l ≠ 'u') (h : shortEscape? l = some c)
    (cs : List Char) : readChar? ('\\' :: l :: cs) = some (c, cs) := by
  unfold readChar?
  split
  · rename_i heq
    exact absurd (List.cons.inj (List.cons.inj heq).2).1 hl
  · rename_i heq
    exact absurd (List.cons.inj (List.cons.inj heq).2).1 hl
  · rename_i heq
    simp only [List.cons.injEq, true_and] at heq
    rcases heq with ⟨rfl, rfl⟩
    rw [h]
    rfl
  · rename_i hnot heq
    rcases List.cons.inj heq with ⟨rfl, rfl⟩
    exact absurd rfl (hnot _ _ rfl)
  · rename_i heq
    cases heq

theorem readChar?_self {c : Char} (hquote : c ≠ '"') (hescape : c ≠ '\\') (hc : 0x20 ≤ c.toNat)
    (cs : List Char) : readChar? (c :: cs) = some (c, cs) := by
  have hplain : (c == '"' || decide (c.toNat < 0x20)) = false := by
    simp [hquote, hc]
  unfold readChar?
  split
  · rename_i heq
    exact absurd (List.cons.inj heq).1 hescape
  · rename_i heq
    exact absurd (List.cons.inj heq).1 hescape
  · rename_i heq
    exact absurd (List.cons.inj heq).1 hescape
  · rename_i heq
    rcases List.cons.inj heq with ⟨rfl, rfl⟩
    rw [hplain, if_neg Bool.false_ne_true]
  · rename_i heq
    cases heq

/-! ## 2. Texts -/

variable {ascii : Bool}

theorem readChar?_writeChar (c : Char) (cs : List Char) :
    readChar? (writeChar ascii c ++ cs) = some (c, cs) := by
  have hletter : ∀ {d l : Char}, (c == d) = true → l ≠ 'u' → shortEscape? l = some d →
      readChar? (['\\', l] ++ cs) = some (c, cs) := by
    intro d l hd hl h
    rw [beq_iff_eq.mp hd]
    exact readChar?_letter hl h cs
  fun_cases writeChar ascii c with
  | case1 h | case2 _ h | case3 _ _ h | case4 _ _ _ h | case5 _ _ _ _ h | case6 _ _ _ _ _ h
  | case7 _ _ _ _ _ _ h => exact hletter h (by decide) rfl
  | case8 =>
    rw [readChar?_unicodeEscape (by omega) (not_isSurrogate_toNat c), Char.ofNat_toNat]
  | case9 =>
    rw [escapeCode]
    split
    · rename_i hnarrow
      rw [readChar?_unicodeEscape hnarrow (not_isSurrogate_toNat c), Char.ofNat_toNat]
    · have hvalid : c.toNat < 0xd800 ∨ 0xdfff < c.toNat ∧ c.toNat < 0x110000 := c.valid
      rw [List.append_assoc, readChar?_pair (by omega) (by omega)]
      have hcode : 0x10000 + (0xd800 + (c.toNat - 0x10000) / 0x400 - 0xd800) * 0x400 +
          (0xdc00 + (c.toNat - 0x10000) % 0x400 - 0xdc00) = c.toNat := by omega
      rw [hcode, Char.ofNat_toNat]
  | case10 hquote hescape _ _ _ _ _ hlow =>
    exact readChar?_self (by simpa using hquote) (by simpa using hescape) (Nat.le_of_not_lt hlow) cs

theorem readText_quote (acc rest : List Char) :
    readText acc ('"' :: rest) = some (acc.reverse, rest) := by
  rw [readText]

theorem readText_of_readChar? {cs rest : List Char} {c : Char} (h : readChar? cs = some (c, rest))
    (acc : List Char) : readText acc cs = readText (c :: acc) rest := by
  -- the closing quote is no character of a text
  have hquote : ∀ rest, cs ≠ '"' :: rest := by
    rintro rest rfl
    cases h
  rw [readText]
  · split
    · rename_i h'
      rw [h] at h'
      cases h'
      rfl
    · rename_i h'
      rw [h] at h'
      cases h'
  · exact hquote

theorem toList_writeString {ascii : Bool} (s : String) :
    (writeString ascii s).toList = writeChars ascii s.toList := by
  rw [writeString, String.toList_ofList]

/-- **A written text reads back**, and what follows its closing quote is left. -/
theorem readText_writeChars (cs acc rest : List Char) :
    readText acc (cs.flatMap (writeChar ascii) ++ '"' :: rest) =
      some (acc.reverse ++ cs, rest) := by
  induction cs generalizing acc with
  | nil => rw [List.flatMap_nil, List.nil_append, readText_quote, List.append_nil]
  | cons c cs ih =>
    rw [List.flatMap_cons, List.append_assoc,
      readText_of_readChar? (readChar?_writeChar c _), ih, List.reverse_cons, List.append_assoc]
    rfl

/-! ## 3. Integers -/

theorem isAsciiDigit_of_mem_toDigits {n : Nat} {c : Char} (h : c ∈ Nat.toDigits 10 n) :
    isAsciiDigit c = true := by
  have hdigit := Nat.isDigit_of_mem_toDigits (by decide) (by decide) h
  simpa [isAsciiDigit, Char.isDigit, Char.le_def] using hdigit

theorem natOf_toDigits (n : Nat) : natOf (Nat.toDigits 10 n) = n := by
  have hdigits := @Nat.ofDigitChars_ten_toDigits n
  simp only [Nat.ofDigitChars_eq_foldl, Nat.mul_comm 10] at hdigits
  exact hdigits

/-- No number but zero starts with a zero. -/
theorem head?_toDigits {n : Nat} (h : 0 < n) : (Nat.toDigits 10 n).head? ≠ some '0' := by
  induction n using Nat.strongRecOn with
  | ind n ih =>
    rw [Nat.toDigits_eq_if (by decide)]
    split
    · rw [List.head?_cons, Ne, Option.some.injEq, Nat.digitChar_eq_zero]
      omega
    · rw [List.head?_append, Option.or_of_isSome (by simp)]
      exact ih (n / 10) (by omega) (by omega)

/-- What follows cannot be part of a number. -/
def Closed (rest : List Char) : Prop := ∀ c ∈ rest.head?, c = ',' ∨ c = ']' ∨ c = '\x7d'

theorem closed_nil : Closed [] := nofun

theorem closed_cons {c : Char} (h : c = ',' ∨ c = ']' ∨ c = '\x7d') (cs : List Char) :
    Closed (c :: cs) := by
  intro d hd
  rw [List.head?_cons, Option.mem_some_iff] at hd
  rwa [← hd]

theorem Closed.stops {rest : List Char} (h : Closed rest) : Stops isAsciiDigit rest := by
  intro c hc
  rcases h c hc with rfl | rfl | rfl <;> decide

theorem Closed.readFraction {rest : List Char} (h : Closed rest) :
    Json.readFraction rest = ([], rest) := by
  unfold Json.readFraction
  split
  · exact absurd (h '.' rfl) (by decide)
  · rfl

theorem Closed.readExponent {rest : List Char} (h : Closed rest) :
    Json.readExponent rest = none := by
  unfold Json.readExponent
  split
  · rename_i e rest
    have he : (e == 'e' || e == 'E') = false := by
      rcases h e rfl with rfl | rfl | rfl <;> decide
    rw [he, if_neg Bool.false_ne_true]
  · rfl

theorem readMagnitude_toDigits (negative : Bool) (n : Nat) {rest : List Char} (h : Closed rest) :
    readMagnitude negative (Nat.toDigits 10 n ++ rest) =
      some (.int (if negative then -(n : Int) else n), rest) := by
  -- zero is read apart from other numbers, none of which starts with it
  rcases Nat.eq_zero_or_pos n with rfl | hn
  · rw [Nat.toDigits_zero, List.singleton_append, readMagnitude]
    simp only [List.isEmpty_cons, Bool.false_eq_true, if_false, List.length_singleton,
      List.drop_one, List.tail_cons, h.readFraction, h.readExponent]
    rfl
  · have hrun : ∀ c ∈ Nat.toDigits 10 n, isAsciiDigit c = true :=
      fun c hc => isAsciiDigit_of_mem_toDigits hc
    have hzero : ∀ cs, Nat.toDigits 10 n ++ rest ≠ '0' :: cs := by
      intro cs hcs
      have hhead := congrArg List.head? hcs
      rw [List.head?_append, Option.or_of_isSome (by simp)] at hhead
      exact head?_toDigits hn hhead
    unfold readMagnitude
    split
    · rename_i heq
      exact absurd heq (hzero _)
    · rw [takeWhile_append_stops hrun h.stops]
      simp only [List.isEmpty_iff, Nat.toDigits_ne_nil, if_false, List.drop_left, h.readFraction,
        h.readExponent, List.append_nil, natOf_toDigits]
      rfl

end UiTree.Json
