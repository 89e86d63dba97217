import UiTree.Datum
import UiTree.Number.Whole
import UiTree.Text.Case
import UiTree.Validation.Issue

/-!
# Rules — what data must be to count as a text, a truth value or an integer
-/

namespace UiTree

open UiTree.Number UiTree.Text

namespace Problem

def noText : String := "Input should be a valid string"
def brokenText : String :=
  "Input should be a valid string, unable to parse raw data as a unicode string"
def noTruth : String := "Input should be a valid boolean"
def unclearTruth : String := "Input should be a valid boolean, unable to interpret input"
def noInteger : String := "Input should be a valid integer"
def unclearInteger : String :=
  "Input should be a valid integer, unable to parse string as an integer"
def hugeInteger : String :=
  "Unable to parse input string as an integer, exceeded maximum size"
def fraction : String :=
  "Input should be a valid integer, got a number with a fractional part"
def notFinite : String := "Input should be a finite number"
def below (least : Int) : String := s!"Input should be greater than or equal to {least}"
def noList : String := "Input should be a valid list"
def noTuple : String := "Input should be a valid tuple"
def missing : String := "Field required"
def extra : String := "Extra inputs are not permitted"
def noKey : String := "Keys should be strings"
def cycle : String := "Recursion error - cyclic reference detected"

def noRecord (name : String) : String :=
  s!"Input should be a valid dictionary or instance of {name}"

end Problem

namespace Datum

/-! ## Texts -/

/-- A text.  One that holds halves of characters will do. -/
def checkText : Datum → Checked Ragged
  | .text s => .ok (.ofString s)
  | .ragged t => .ok t
  | .bytes octets =>
    match utf8? octets with
    | some s => .ok (.ofString s)
    | none => .fail Problem.brokenText
  | _ => .fail Problem.noText

/-- A text among data that hold no halves of characters. -/
def checkString (d : Datum) : Checked String :=
  d.checkText.map (Ragged.seen '\ufffd')

def checkOptional {τ : Type} (check : Datum → Checked τ) : Datum → Checked (Option τ)
  | .null => .ok none
  | d => (check d).map some

/-! ## Truth values -/

def falseWords : List String := ["0", "off", "f", "false", "n", "no"]
def trueWords : List String := ["1", "on", "t", "true", "y", "yes"]

/-- A word for a truth value, in any case. -/
def truthOfWord (s : String) : Checked Bool :=
  let word := String.ofList (s.toList.map Char.toLower)
  if falseWords.contains word then .ok false
  else if trueWords.contains word then .ok true
  else .fail Problem.unclearTruth

/-- Integers of 64 bits are below this, and not below its opposite. -/
def wordBound : Int := 0x8000000000000000

/-- One and zero stand for truth values, other integers of 64 bits are unclear. -/
def truthOfInt (i : Int) : Checked Bool :=
  if i == 0 then .ok false
  else if i == 1 then .ok true
  else if -wordBound ≤ i && i < wordBound then .fail Problem.unclearTruth
  else .fail Problem.noTruth

def checkTruth : Datum → Checked Bool
  | .bool b => .ok b
  | .text s => truthOfWord s
  | .ragged _ => .fail Problem.brokenText
  | .bytes octets =>
    match utf8? octets with
    | some s => truthOfWord s
    | none => .fail Problem.unclearTruth
  | .int i => truthOfInt i
  | .real x =>
    match x.toInt? with
    | some i => truthOfInt i
    | none => .fail Problem.noTruth
  | _ => .fail Problem.noTruth

/-! ## Integers -/

def integerOfText (s : String) : Checked Int :=
  match plainInteger s.toList with
  | .ok i => .ok i
  | .error .form => .fail Problem.unclearInteger
  | .error .size => .fail Problem.hugeInteger

/-- Whole reals of 64 bits stand for integers. -/
def integerOfReal (x : Binary64) : Checked Int :=
  match x with
  | .finite _ _ _ =>
    match x.toInt? with
    | some i => if -wordBound < i && i < wordBound then .ok i else .fail Problem.hugeInteger
    | none => .fail Problem.fraction
  | _ => .fail Problem.notFinite

def checkInteger : Datum → Checked Int
  | .bool b => .ok (if b then 1 else 0)
  | .int i => .ok i
  | .real x => integerOfReal x
  | .text s => integerOfText s
  | _ => .fail Problem.noInteger

/-- An integer that is not below another. -/
def checkAtLeast (least : Int) (d : Datum) : Checked Int :=
  match d.checkInteger with
  | .ok i => if least ≤ i then .ok i else .fail (Problem.below least)
  | .error issues => .error issues

/-! ## Records -/

/-- The entry of a field: under its short name if it has one, else under its own. -/
def field? (short? : Option String) (name : String) (entries : List (Datum × Datum)) :
    Option (String × Datum) :=
  let found? (key : String) :=
    (entries.find? fun (k, _) => match k with | .text s => s == key | _ => false).map fun (_, v) =>
      (key, v)
  (short?.bind found?).or (found? name)

/-- A field that may be left out. -/
def checkField {α : Type} (default : α) (check : Datum → Checked α)
    (found? : Option (String × Datum)) : Checked α :=
  match found? with
  | some (key, d) => (check d).under key
  | none => .ok default

/-- A field that may not. -/
def checkRequired {α : Type} (name : String) (check : Datum → Checked α)
    (found? : Option (String × Datum)) : Checked α :=
  match found? with
  | some (key, d) => (check d).under key
  | none => .error [{ location := [name], problem := Problem.missing }]

/-- Every entry was used as a field, and every key is a text. -/
def checkNoExtras (used : List String) (entries : List (Datum × Datum)) : Checked Unit :=
  let issues := entries.filterMap fun (k, _) =>
    match k with
    | .text s =>
      if used.contains s then none else some { location := [s], problem := Problem.extra }
    | k => some { location := [k.keyName], problem := Problem.noKey }
  if issues.isEmpty then .ok () else .error issues

end Datum

end UiTree
