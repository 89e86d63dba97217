import UiTree.Number.Binary64

/-!
# Notation — numbers with a set number of digits

Digits are chosen on the exact fraction, a half to the even neighbour, and laid out afterwards:
positional, with an exponent, or whichever of the two suits the size of the number.
-/

namespace UiTree.Number

/-- How digits are laid out. -/
inductive Notation
  /-- So many places after the point. -/
  | fixed
  /-- One digit before the point, an exponent behind. -/
  | scientific
  /-- So many digits in all, without zeros at the end. -/
  | general
  deriving DecidableEq, Repr

namespace Notation

/-- Digits with the point before the last `places` of them; `pointed` keeps a point at the end. -/
def withPoint (pointed : Bool) (places : Nat) (ds : List Char) : List Char :=
  let ds := Binary64.zeros (places + 1 - ds.length) ++ ds
  let whole := ds.take (ds.length - places)
  if places == 0 then (if pointed then whole ++ ['.'] else whole)
  else whole ++ '.' :: ds.drop (ds.length - places)

def fixedText (pointed : Bool) (places num den : Nat) : List Char :=
  withPoint pointed places (Nat.toDigits 10 (Binary64.roundDiv (num * Nat.pow 10 places) den))

/-- `places + 1` digits of a fraction and the exponent of the first of them. -/
def leading (places num den : Nat) : Nat × Int :=
  if num == 0 then (0, 0)
  else
    let point := Binary64.decimalPoint num den
    let (n, d) := Binary64.shifted num den (places + 1 - point)
    let digits := Binary64.roundDiv n d
    if digits == Nat.pow 10 (places + 1) then (digits / 10, point) else (digits, point - 1)

/-- Digits with the point behind the first, and an exponent. -/
def withExponent (pointed : Bool) (ds : List Char) (exponent : Int) : List Char :=
  withPoint pointed (ds.length - 1) ds ++ 'e' :: Binary64.exponentText exponent

/-- The digits of a fraction, `places + 1` of them, and the exponent. -/
def leadingDigits (places num den : Nat) : List Char × Int :=
  let (digits, exponent) := leading places num den
  let ds := Nat.toDigits 10 digits
  (ds ++ Binary64.zeros (places + 1 - ds.length), exponent)

/-- `count` digits in all, with an exponent if the number is small or has more digits than that. -/
def generalText (pointed : Bool) (count num den : Nat) : List Char :=
  let (ds, exponent) := leadingDigits (count - 1) num den
  let ds := if pointed then ds else
    match Binary64.stripZeros ds with
    | [] => ['0']
    | ds => ds
  if exponent < -4 || (count : Int) ≤ exponent then withExponent pointed ds exponent
  else if exponent < 0 then
    withPoint pointed (ds.length + exponent.natAbs - 1) ds
  else
    let missing := exponent.toNat + 1 - ds.length
    withPoint pointed (ds.length - (exponent.toNat + 1)) (ds ++ Binary64.zeros missing)

/-- The magnitude of a number in a notation. -/
def magnitudeText (n : Notation) (pointed : Bool) (precision : Nat) : Binary64 → List Char
  | .nan => "nan".toList
  | .infinite _ => "inf".toList
  | .finite _ m e =>
    let (num, den) := Binary64.magnitude m e
    match n with
    | .fixed => fixedText pointed precision num den
    | .scientific =>
      let (ds, exponent) := leadingDigits precision num den
      withExponent pointed ds exponent
    | .general => generalText pointed (max 1 precision) num den

/-- A number in a notation, with a sign if it is negative. -/
def text (n : Notation) (pointed : Bool) (precision : Nat) (x : Binary64) : List Char :=
  if x.isNegative then '-' :: n.magnitudeText pointed precision x
  else n.magnitudeText pointed precision x

end Notation

end UiTree.Number
