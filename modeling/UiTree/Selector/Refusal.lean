import UiTree.Text.Quoted

/-!
# Refusals — why a text is no selector

A refusal holds its cause and how many characters were left at the place of it; the position and
the surroundings that its message shows follow from the text.
-/

namespace UiTree.Selector

open UiTree.Text

inductive Cause
  | emptyStep
  | noIdentifier
  | noKey
  | noOperator (key : String)
  | openQuote (key : String)
  | emptyValue (key : String)
  /-- The text ends inside a filter; the place is that of its opening bracket. -/
  | openFilter
  | noClosing (key : String)
  | noGap
  deriving DecidableEq, Repr

structure Refusal where
  cause : Cause
  left : Nat
  deriving DecidableEq, Repr

/-- How many characters around a position a message shows on each side. -/
def contextWidth : Nat := 10

namespace Refusal

def position (text : List Char) (r : Refusal) : Nat :=
  text.length - r.left

/-- The characters on both sides of the position. -/
def context (text : List Char) (r : Refusal) : List Char :=
  let p := r.position text
  (text.drop (p - contextWidth)).take (p + contextWidth - (p - contextWidth))

def causeText : Cause → String
  | .emptyStep => "Empty selector step"
  | .noIdentifier => "Expected identifier after '#'"
  | .noKey => "Expected attribute key after '['"
  | .noOperator key => s!"Expected '=' or '~=' after attribute key '{key}'"
  | .openQuote key => s!"Unterminated quoted value for attribute '{key}'"
  | .emptyValue key => s!"Empty value for attribute '{key}'"
  | .openFilter => "Unterminated '[' opened"
  | .noClosing key => s!"Expected ']' to close attribute filter '{key}'"
  | .noGap => "Expected whitespace between selector steps"

/-- An open filter is shown from its bracket on. -/
def message (text : List Char) (r : Refusal) : String :=
  let shown := match r.cause with
    | .openFilter => (text.drop (r.position text)).take (2 * contextWidth)
    | _ => r.context text
  s!"{causeText r.cause} at position {r.position text} near {String.ofList (quoteChars shown)}"

end Refusal

/-- What a blank text is refused with. -/
def emptyMessage : String := "Selector must not be empty"

end UiTree.Selector
