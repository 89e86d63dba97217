/-!
# Binary64 — double precision numbers as exact fractions

A finite number is `mantissa * 2 ^ exponent`; rounding to the nearest one, and all digits, are
computed on natural numbers.
-/

namespace UiTree.Number

/-- A finite number has a mantissa below `2 ^ 53`, and below `2 ^ 52` only at the least exponent. -/
inductive Binary64
  | finite (negative : Bool) (mantissa : Nat) (exponent : Int)
  | infinite (negative : Bool)
  | nan
  deriving DecidableEq, Repr, Inhabited

namespace Binary64

def zero : Binary64 := .finite false 0 (-1074)

def one : Binary64 := .finite false (Nat.pow 2 52) (-52)

def isNegative : Binary64 → Bool
  | .finite negative _ _ => negative
  | .infinite negative => negative
  | .nan => false

def withSign (negative : Bool) : Binary64 → Binary64
  | .finite _ m e => .finite negative m e
  | .infinite _ => .infinite negative
  | .nan => .nan

/-! ## Rounding -/

/-- `num / den` to the nearest natural number, a half to the even neighbour. -/
def roundDiv (num den : Nat) : Nat :=
  let q := num / den
  let twice := 2 * (num % den)
  if twice < den then q else if den < twice then q + 1 else q + q % 2

/-- `num / den / 2 ^ exponent` as a fraction. -/
def scaled (num den : Nat) (exponent : Int) : Nat × Nat :=
  if exponent ≥ 0 then (num, den * Nat.pow 2 exponent.toNat)
  else (num * Nat.pow 2 (-exponent).toNat, den)

/-- The exponent at which `num / den` has a mantissa of 53 bits, or the least exponent. -/
def exponentFor (num den : Nat) : Int :=
  let guess : Int := (num.log2 : Int) - (den.log2 : Int) - 52
  let (n, d) := scaled num den guess
  max (-1074) (if n / d < Nat.pow 2 52 then guess - 1 else guess)

/-- The double nearest to `num / den`, a half to the even mantissa. -/
def ofRatio (negative : Bool) (num den : Nat) : Binary64 :=
  if num == 0 then .finite negative 0 (-1074)
  else
    let e := exponentFor num den
    let (n, d) := scaled num den e
    let m := roundDiv n d
    let (m, e) := if m == Nat.pow 2 53 then (Nat.pow 2 52, e + 1) else (m, e)
    if e > 971 then .infinite negative else .finite negative m e

/-- The double nearest to `digits * 10 ^ power`. -/
def ofDecimal (negative : Bool) (digits : Nat) (power : Int) : Binary64 :=
  if digits == 0 then .finite negative 0 (-1074)
  else if power > 400 then .infinite negative
  else if power ≥ 0 then ofRatio negative (digits * Nat.pow 10 power.toNat) 1
  else if (digits.log2 : Int) + 3 * power < -1200 then .finite negative 0 (-1074)
  else ofRatio negative digits (Nat.pow 10 (-power).toNat)

/-- The magnitude as a fraction. -/
def magnitude (mantissa : Nat) (exponent : Int) : Nat × Nat :=
  if exponent ≥ 0 then (mantissa * Nat.pow 2 exponent.toNat, 1)
  else (mantissa, Nat.pow 2 (-exponent).toNat)

/-- The integer that a double without a fractional part is. -/
def toInt? : Binary64 → Option Int
  | .finite negative m e =>
    let (n, d) := magnitude m e
    if n % d == 0 then some (if negative then -((n / d : Nat) : Int) else ((n / d : Nat) : Int))
    else none
  | _ => none

def add : Binary64 → Binary64 → Binary64
  | .finite s m e, .finite t k f =>
    let (n, d) := magnitude m e
    let (p, q) := magnitude k f
    let a : Int := (if s then -(n * q : Int) else (n * q : Int))
    let b : Int := (if t then -(p * d : Int) else (p * d : Int))
    let sum := a + b
    ofRatio (if sum == 0 then s && t else sum < 0) sum.natAbs (d * q)
  | .nan, _ => .nan
  | _, .nan => .nan
  | .infinite s, .infinite t => if s == t then .infinite s else .nan
  | .infinite s, _ => .infinite s
  | _, .infinite t => .infinite t

def mul : Binary64 → Binary64 → Binary64
  | .finite s m e, .finite t k f =>
    let (n, d) := magnitude m e
    let (p, q) := magnitude k f
    ofRatio (s != t) (n * p) (d * q)
  | .nan, _ => .nan
  | _, .nan => .nan
  | .infinite s, .finite t k _ => if k == 0 then .nan else .infinite (s != t)
  | .finite s m _, .infinite t => if m == 0 then .nan else .infinite (s != t)
  | .infinite s, .infinite t => .infinite (s != t)

/-! ## Digits -/

/-- The least `p` at or above `start` with `num / den < 10 ^ p`. -/
def pointFrom (num den : Nat) : Nat → Int → Int
  | 0, p => p
  | tries + 1, p =>
    let below :=
      if p ≥ 0 then num < den * Nat.pow 10 p.toNat else num * Nat.pow 10 (-p).toNat < den
    if below then p else pointFrom num den tries (p + 1)

/-- The place of the decimal point: `10 ^ (p - 1) ≤ num / den < 10 ^ p`. -/
def decimalPoint (num den : Nat) : Int :=
  let bits : Int := (num.log2 : Int) - (den.log2 : Int)
  pointFrom num den 4 ((bits - 1) * 30103 / 100000 - 1)

/-- `num / den * 10 ^ shift` as a fraction. -/
def shifted (num den : Nat) (shift : Int) : Nat × Nat :=
  if shift ≥ 0 then (num * Nat.pow 10 shift.toNat, den)
  else (num, den * Nat.pow 10 (-shift).toNat)

/-- The fewest digits, from `count` on, of which a neighbour of the number reads back. -/
def shortestFrom (m : Nat) (e : Int) (num den : Nat) (point : Int) : Nat → Nat → Nat × Int
  | 0, count =>
    let (n, d) := shifted num den (count - point)
    (roundDiv n d, point - count)
  | tries + 1, count =>
    let power := point - count
    let (n, d) := shifted num den (-power)
    let low := n / d
    let readsBack (digits : Nat) := ofDecimal false digits power == .finite false m e
    let nearest := roundDiv n d
    let other := if nearest == low then low + 1 else low
    if readsBack nearest then (nearest, power)
    else if readsBack other then (other, power)
    else shortestFrom m e num den point tries (count + 1)

/-- The fewest digits that read back as the number, the nearest of those, with the power of ten of
the last digit. -/
def shortest (m : Nat) (e : Int) : Nat × Int :=
  if m == 0 then (0, 0)
  else
    let (num, den) := magnitude m e
    shortestFrom m e num den (decimalPoint num den) 16 1

/-- Drops the zeros at the end of the digits. -/
def stripZeros : List Char → List Char :=
  fun ds => (ds.reverse.dropWhile (· == '0')).reverse

def zeros (n : Nat) : List Char := List.replicate n '0'

/-- Two digits at least, with a sign. -/
def exponentText (x : Int) : List Char :=
  let ds := Nat.toDigits 10 x.natAbs
  (if x < 0 then '-' else '+') :: (zeros (2 - ds.length) ++ ds)

/-- Digits with the decimal point after the first `point` of them: positional from `10 ^ -4` up to
`10 ^ 16`, with an exponent elsewhere. -/
def layout (ds : List Char) (point : Int) : List Char :=
  if -4 < point && point ≤ 16 then
    if point ≤ 0 then '0' :: '.' :: (zeros (-point).toNat ++ ds)
    else if ds.length ≤ point.toNat then ds ++ zeros (point.toNat - ds.length) ++ ['.', '0']
    else ds.take point.toNat ++ '.' :: ds.drop point.toNat
  else
    let fraction := ds.drop 1
    ds.take 1 ++ (if fraction.isEmpty then [] else '.' :: fraction)
      ++ 'e' :: exponentText (point - 1)

/-- The shortest text that reads back, with a point or an exponent to tell it from an integer. -/
def text : Binary64 → String
  | .nan => "nan"
  | .infinite negative => if negative then "-inf" else "inf"
  | .finite negative m e =>
    let body :=
      if m == 0 then ['0', '.', '0']
      else
        let (digits, power) := shortest m e
        let all := Nat.toDigits 10 digits
        layout (stripZeros all) (all.length + power)
    String.ofList (if negative then '-' :: body else body)

end Binary64

end UiTree.Number
