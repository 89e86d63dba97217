import UiTree.Json.Value

/-!
# Reader — JSON text to values

A recursive descent over the characters that are left.  Every reader gives back what it did not
use, together with the fact that it used something; the depth of nesting bounds the recursion.
-/

namespace UiTree.Json

open UiTree.Number UiTree.Text


def isSpace (c : Char) : Bool := c == ' ' || c == '\n' || c == '\r' || c == '\t'

def skipSpace (cs : List Char) : List Char := cs.dropWhile isSpace

/-! ## Texts -/

def hexValue? (c : Char) : Option Nat :=
  if '0' ≤ c && c ≤ '9' then some (c.toNat - 0x30)
  else if 'a' ≤ c && c ≤ 'f' then some (c.toNat - 0x61 + 10)
  else if 'A' ≤ c && c ≤ 'F' then some (c.toNat - 0x41 + 10)
  else none

def hex4? (a b c d : Char) : Option Nat := do
  let a ← hexValue? a
  let b ← hexValue? b
  let c ← hexValue? c
  let d ← hexValue? d
  return ((a * 16 + b) * 16 + c) * 16 + d

/-- The character a one-letter escape stands for. -/
def shortEscape? : Char → Option Char
  | '"' => some '"'
  | '\\' => some '\\'
  | '/' => some '/'
  | 'b' => some '\x08'
  | 'f' => some '\x0c'
  | 'n' => some '\n'
  | 'r' => some '\r'
  | 't' => some '\t'
  | _ => none

/-- One character of a text: itself, an escape, or two escapes that form a surrogate pair.  A
surrogate on its own becomes the replacement character. -/
def readChar? : List Char → Option (Char × List Char)
  | '\\' :: 'u' :: a :: b :: c :: d :: '\\' :: 'u' :: e :: f :: g :: h :: rest => do
    let high ← hex4? a b c d
    match hex4? e f g h with
    | some low =>
      if 0xd800 ≤ high && high < 0xdc00 && 0xdc00 ≤ low && low < 0xe000 then
        return (Char.ofNat (0x10000 + (high - 0xd800) * 0x400 + (low - 0xdc00)), rest)
      else return (if 0xd800 ≤ high && high < 0xe000 then '\ufffd' else Char.ofNat high,
        '\\' :: 'u' :: e :: f :: g :: h :: rest)
    | none => return (if 0xd800 ≤ high && high < 0xe000 then '\ufffd' else Char.ofNat high,
        '\\' :: 'u' :: e :: f :: g :: h :: rest)
  | '\\' :: 'u' :: a :: b :: c :: d :: rest => do
    let n ← hex4? a b c d
    return (if 0xd800 ≤ n && n < 0xe000 then '\ufffd' else Char.ofNat n, rest)
  | '\\' :: c :: rest => (shortEscape? c).map (·, rest)
  | c :: rest => if c == '"' || c.toNat < 0x20 then none else some (c, rest)
  | [] => none

theorem length_lt_of_readChar? {cs rest : List Char} {c : Char}
    (h : readChar? cs = some (c, rest)) : rest.length < cs.length := by
  unfold readChar? at h
  split at h
  · rename_i a b x d e f g k tail
    cases h1 : hex4? a b x d with
    | none => simp [h1] at h
    | some high =>
      simp only [h1, Option.bind_eq_bind, Option.bind_some] at h
      split at h
      · split at h <;> (simp only [Option.pure_def, Option.some.injEq, Prod.mk.injEq] at h)
        · obtain ⟨-, rfl⟩ := h; simp only [List.length_cons]; omega
        · obtain ⟨-, rfl⟩ := h; simp only [List.length_cons]; omega
      · simp only [Option.pure_def, Option.some.injEq, Prod.mk.injEq] at h
        obtain ⟨-, rfl⟩ := h; simp only [List.length_cons]; omega
  · rename_i a b x d tail _
    cases h1 : hex4? a b x d with
    | none => simp [h1] at h
    | some n =>
      simp only [h1, Option.bind_eq_bind, Option.bind_some, Option.pure_def, Option.some.injEq,
        Prod.mk.injEq] at h
      obtain ⟨-, rfl⟩ := h; simp only [List.length_cons]; omega
  · rename_i x tail _ _
    cases h1 : shortEscape? x with
    | none => simp [h1] at h
    | some y =>
      simp only [h1, Option.map_some, Option.some.injEq, Prod.mk.injEq] at h
      obtain ⟨-, rfl⟩ := h; simp only [List.length_cons]; omega
  · split at h
    · simp at h
    · simp only [Option.some.injEq, Prod.mk.injEq] at h
      obtain ⟨-, rfl⟩ := h; simp
  · simp at h

/-- The rest of a text after its opening quote, and what follows its closing one. -/
def readText (acc : List Char) (cs : List Char) : Option (List Char × List Char) :=
  match cs with
  | '"' :: rest => some (acc.reverse, rest)
  | cs =>
    match h : readChar? cs with
    | some (c, rest) =>
      have := length_lt_of_readChar? h
      readText (c :: acc) rest
    | none => none
termination_by cs.length

/-! ## Numbers -/

def isAsciiDigit (c : Char) : Bool := '0' ≤ c && c ≤ '9'

def natOf (ds : List Char) : Nat :=
  ds.foldl (fun n d => n * 10 + (d.toNat - 0x30)) 0

/-- The digits after a decimal point, if there are any. -/
def readFraction (cs : List Char) : List Char × List Char :=
  match cs with
  | '.' :: rest =>
    let ds := rest.takeWhile isAsciiDigit
    if ds.isEmpty then ([], cs) else (ds, rest.dropWhile isAsciiDigit)
  | _ => ([], cs)

/-- A decimal exponent, if there is one. -/
def readExponent (cs : List Char) : Option (Int × List Char) :=
  match cs with
  | e :: rest =>
    if e == 'e' || e == 'E' then
      let (negative, rest) := match rest with
        | '-' :: rest => (true, rest)
        | '+' :: rest => (false, rest)
        | rest => (false, rest)
      let ds := rest.takeWhile isAsciiDigit
      let n : Int := natOf ds
      if ds.isEmpty then none
      else some ((if negative then -n else n), rest.dropWhile isAsciiDigit)
    else none
  | [] => none

def readMagnitude (negative : Bool) (cs : List Char) : Option (Json × List Char) :=
  let whole := match cs with
    | '0' :: _ => ['0']
    | _ => cs.takeWhile isAsciiDigit
  if whole.isEmpty then none
  else
    let rest := cs.drop whole.length
    let (fraction, rest) := readFraction rest
    let digits := natOf (whole ++ fraction)
    match readExponent rest with
    | some (x, rest) => some (.real (.ofDecimal negative digits (x - fraction.length)), rest)
    | none =>
      if fraction.isEmpty then some (.int (if negative then -(digits : Int) else digits), rest)
      else some (.real (.ofDecimal negative digits (-(fraction.length : Int))), rest)

/-- A word or a number. -/
def readAtom (cs : List Char) : Option (Json × List Char) :=
  match cs with
  | 'n' :: 'u' :: 'l' :: 'l' :: rest => some (.null, rest)
  | 't' :: 'r' :: 'u' :: 'e' :: rest => some (.bool true, rest)
  | 'f' :: 'a' :: 'l' :: 's' :: 'e' :: rest => some (.bool false, rest)
  | '-' :: rest => readMagnitude true rest
  | cs => readMagnitude false cs

/-! ## Values -/

mutual

/-- A value at the head of the input, with at most `depth` further levels. -/
def readValue (depth : Nat) (cs : List Char) : Option (Json × List Char) :=
  match depth, skipSpace cs with
  | 0, _ => none
  | _ + 1, '"' :: rest => (readText [] rest).map fun (s, rest) => (.str (String.ofList s), rest)
  | depth + 1, '[' :: rest =>
    match skipSpace rest with
    | ']' :: rest => some (.arr [], rest)
    | rest => (readItems depth rest.length rest).map fun (items, rest) => (.arr items, rest)
  | depth + 1, '\x7b' :: rest =>
    match skipSpace rest with
    | '\x7d' :: rest => some (.obj [], rest)
    | rest => (readMembers depth rest.length rest).map fun (ms, rest) => (.obj (ofPairs ms), rest)
  | _ + 1, cs => readAtom cs
termination_by (depth, 0)

/-- Items up to the closing bracket. -/
def readItems (depth room : Nat) (cs : List Char) : Option (List Json × List Char) :=
  match room with
  | 0 => none
  | room + 1 =>
    match readValue depth cs with
    | none => none
    | some (v, rest) =>
      match skipSpace rest with
      | ',' :: rest => (readItems depth room rest).map fun (vs, rest) => (v :: vs, rest)
      | ']' :: rest => some ([v], rest)
      | _ => none
termination_by (depth, room + 1)

/-- Members up to the closing brace. -/
def readMembers (depth room : Nat) (cs : List Char) : Option (List (String × Json) × List Char) :=
  match room with
  | 0 => none
  | room + 1 =>
    match skipSpace cs with
    | '"' :: rest =>
      match readText [] rest with
      | none => none
      | some (key, rest) =>
        match skipSpace rest with
        | ':' :: rest =>
          match readValue depth rest with
          | none => none
          | some (v, rest) =>
            let member := (String.ofList key, v)
            match skipSpace rest with
            | ',' :: rest =>
              (readMembers depth room rest).map fun (ms, rest) => (member :: ms, rest)
            | '\x7d' :: rest => some ([member], rest)
            | _ => none
        | _ => none
    | _ => none
termination_by (depth, room + 1)

end

/-- The value a whole text spells. -/
def read? (s : String) : Option Json :=
  let cs := s.toList
  match readValue (cs.length + 1) cs with
  | some (v, rest) => if (skipSpace rest).isEmpty then some v else none
  | none => none

end UiTree.Json
