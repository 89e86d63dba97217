import UiTree.Number.Binary64
import UiTree.Number.Whole

/-!
# Decimal — reals read from texts
-/

namespace UiTree.Number

open UiTree.Text

/-- Digits of any script at the head of a text, as one number, and how many there are. -/
def digitRun (acc count : Nat) : List Char → Nat × Nat × List Char
  | [] => (acc, count, [])
  | c :: cs =>
    match decimalValue? c with
    | some d => digitRun (acc * 10 + d) (count + 1) cs
    | none => (acc, count, c :: cs)

/-- The exponent at the end of a decimal, zero if there is none. -/
def exponent? : List Char → Option Int
  | [] => some 0
  | e :: cs =>
    if e == 'e' || e == 'E' then
      let (negative, cs) := splitSign cs
      match digitRun 0 0 cs with
      | (n, _ + 1, []) => some (signed negative n)
      | _ => none
    else none

def infinityWords : List String := ["inf", "infinity"]

/-- A decimal number, blanks around it allowed, or a word for infinity or for no number. -/
def real? (cs : List Char) : Option Binary64 :=
  let (negative, body) := splitSign (trim cs)
  let word := String.ofList (body.map Char.toLower)
  if infinityWords.contains word then some (.infinite negative)
  else if word == "nan" then some .nan
  else
    let (whole, count, rest) := digitRun 0 0 body
    let (digits, places, rest) := match rest with
      | '.' :: rest => digitRun whole 0 rest
      | rest => (whole, 0, rest)
    if count + places == 0 then none
    else (exponent? rest).map fun x => .ofDecimal negative digits (x - places)

end UiTree.Number
