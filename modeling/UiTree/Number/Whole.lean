import UiTree.Text.Letter
import UiTree.Text.Blank

/-!
# Whole — integers read from texts

Two readers: `integer?` takes the digits of a base with single underscores between them, and
`plainInteger` the decimal form that configuration values have.
-/

namespace UiTree.Number

open UiTree.Text

/-- The value of a digit in bases up to 36. -/
def digitIn? (base : Nat) (c : Char) : Option Nat :=
  let value :=
    match decimalValue? c with
    | some v => some v
    | none =>
      if 'a' ≤ c && c ≤ 'z' then some (c.toNat - 0x61 + 10)
      else if 'A' ≤ c && c ≤ 'Z' then some (c.toNat - 0x41 + 10)
      else none
  value.filter (· < base)

/-- Digits after `acc`; an underscore must stand between two of them. -/
def digitsFrom (base acc : Nat) : List Char → Option Nat
  | [] => some acc
  | '_' :: c :: cs =>
    match digitIn? base c with
    | some d => digitsFrom base (acc * base + d) cs
    | none => none
  | c :: cs =>
    match digitIn? base c with
    | some d => digitsFrom base (acc * base + d) cs
    | none => none

def digits? (base : Nat) : List Char → Option Nat
  | [] => none
  | c :: cs =>
    match digitIn? base c with
    | some d => digitsFrom base d cs
    | none => none

/-- A sign, if there is one, and what follows it. -/
def splitSign : List Char → Bool × List Char
  | '-' :: cs => (true, cs)
  | '+' :: cs => (false, cs)
  | cs => (false, cs)

def signed (negative : Bool) (n : Nat) : Int :=
  if negative then -(n : Int) else n

/-- The letter that may follow a leading zero in a base. -/
def baseLetter? : Nat → Option Char
  | 2 => some 'b'
  | 8 => some 'o'
  | 16 => some 'x'
  | _ => none

/-- Drops a leading `0b`, `0o` or `0x` of the base at hand, and one underscore after it. -/
def dropBaseMark (base : Nat) (cs : List Char) : List Char :=
  match cs, baseLetter? base with
  | '0' :: mark :: rest, some letter =>
    if mark.toLower == letter then (match rest with | '_' :: rest => rest | rest => rest) else cs
  | _, _ => cs

/-- An integer in a base, blanks around it and underscores between its digits allowed. -/
def integer? (base : Nat) (cs : List Char) : Option Int :=
  let (negative, body) := splitSign (trim cs)
  (digits? base (dropBaseMark base body)).map (signed negative)

/-- The most digits of a decimal integer. -/
def digitLimit : Nat := 4300

/-- A decimal integer, unless it has too many digits. -/
def decimalInteger? (cs : List Char) : Option Int :=
  if digitLimit < (cs.filter fun c => (decimalValue? c).isSome).length then none
  else integer? 10 cs

/-! ## Plain decimal integers -/

/-- Why a text is no plain integer. -/
inductive IntegerFault
  | form
  | size
  deriving DecidableEq, Repr

/-- The separators that count as blank in general, but not around a plain integer. -/
def isSeparator (c : Char) : Bool := 0x1c ≤ c.toNat && c.toNat ≤ 0x1f

def isMargin (c : Char) : Bool := isBlank c && !isSeparator c

def dropMargins (cs : List Char) : List Char :=
  ((cs.dropWhile isMargin).reverse.dropWhile isMargin).reverse

/-- Drops a plus sign; there must not be a minus sign behind it. -/
def dropPlus : List Char → Option (List Char)
  | '+' :: '-' :: _ => none
  | '+' :: cs => some cs
  | cs => some cs

def isNonzeroDigit (c : Char) : Bool := '1' ≤ c && c ≤ '9'

/-- What is left behind zeros and underscores, the last of which is `last`. -/
def afterZeros (last : Char) : List Char → Option (List Char)
  | [] => some [last]
  | c :: cs =>
    if c == '0' || c == '_' then afterZeros c cs
    else if isNonzeroDigit c then some (c :: cs)
    else if c == '.' then some (last :: c :: cs)
    else none

/-- Drops zeros at the start, but for one of a number that is zero. -/
def dropZeros : List Char → Option (List Char)
  | [] => none
  | c :: cs =>
    if c == '0' then afterZeros c cs
    else if isNonzeroDigit c || c == '-' then some (c :: cs)
    else none

/-- Drops a fraction that is zero. -/
def dropFraction (cs : List Char) : List Char :=
  match cs.dropWhile (· != '.') with
  | _ :: fraction => if fraction.all (· == '0') then cs.takeWhile (· != '.') else cs
  | [] => cs

/-- Two underscores stand side by side. -/
def hasTwin : List Char → Bool
  | '_' :: '_' :: _ => true
  | _ :: cs => hasTwin cs
  | [] => false

/-- Drops single underscores inside. -/
def dropUnderscores (cs : List Char) : List Char :=
  if cs.head? == some '_' || cs.getLast? == some '_' || hasTwin cs then cs
  else cs.filter (· != '_')

/-- Digits without a zero before others. -/
def canonical? (cs : List Char) : Option Nat :=
  match cs with
  | ['0'] => some 0
  | c :: _ =>
    if isNonzeroDigit c && cs.all Char.isDigit then
      some (cs.foldl (fun n d => n * 10 + (d.toNat - 0x30)) 0)
    else none
  | [] => none

/-- The most characters of a plain integer. -/
def plainLimit : Nat := 4300

/-- An integer with blanks around it, a sign, zeros before it, single underscores inside and a zero
fraction. -/
def plainInteger (cs : List Char) : Except IntegerFault Int :=
  match (dropPlus (dropMargins cs)).bind dropZeros with
  | none => .error .form
  | some body =>
    let body := dropUnderscores (dropFraction body)
    let (negative, digits) := match body with
      | '-' :: digits => (true, digits)
      | digits => (false, digits)
    if body.length > plainLimit then .error .size
    else match canonical? digits with
      | some n => .ok (signed negative n)
      | none => .error .form

end UiTree.Number
