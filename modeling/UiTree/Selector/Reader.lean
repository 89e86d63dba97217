import UiTree.Failure
import UiTree.Selector.Basic
import UiTree.Selector.Refusal
import UiTree.Text.Blank
import UiTree.Text.Case
import UiTree.Text.Letter

/-!
# Reading selectors

A selector is a list of steps with white space between them; a step is a role, `#` with an
identifier, and filters in brackets, each of which may be missing but not all.  Every reader takes
what it can from the head of the text and gives back the rest.
-/

namespace UiTree.Selector

open UiTree.Text

/-! ## Words -/

/-- A word whose first character is of a class of its own. -/
def readWord (first : Char → Bool) : List Char → Option (List Char × List Char)
  | [] => none
  | c :: cs =>
    if first c then some (c :: cs.takeWhile isWordChar, cs.dropWhile isWordChar) else none

/-- An identifier may start with a digit or an underscore too. -/
def startsIdentifier (c : Char) : Bool :=
  isLetter c || isDigit c || c == '_'

theorem length_lt_of_readWord {first : Char → Bool} {cs word rest : List Char}
    (h : readWord first cs = some (word, rest)) : rest.length < cs.length := by
  cases cs with
  | nil => simp [readWord] at h
  | cons c cs =>
    simp only [readWord] at h
    split at h
    · simp only [Option.some.injEq, Prod.mk.injEq] at h
      obtain ⟨-, rfl⟩ := h
      have := (List.dropWhile_suffix isWordChar (l := cs)).length_le
      simp only [List.length_cons]; omega
    · simp at h

/-! ## Filters -/

def readOp (key : List Char) : List Char → Except Refusal (Op × List Char)
  | '~' :: '=' :: rest => .ok (.contains, rest)
  | '=' :: rest => .ok (.equals, rest)
  | cs => .error ⟨.noOperator (String.ofList key), cs.length⟩

/-- A value in quotes runs to the next quote, any other to the next closing bracket. -/
def readValue (key : List Char) (cs : List Char) : Except Refusal (List Char × List Char) :=
  match cs with
  | '"' :: cs =>
    match cs.dropWhile (· != '"') with
    | _ :: rest => .ok (cs.takeWhile (· != '"'), rest)
    | [] => .error ⟨.openQuote (String.ofList key), cs.length⟩
  | cs =>
    let value := cs.takeWhile (· != ']')
    if value.isEmpty then .error ⟨.emptyValue (String.ofList key), cs.length⟩
    else .ok (value, cs.dropWhile (· != ']'))

/-- The closing bracket of a filter that was opened with `left` characters to go. -/
def readClosing (key : List Char) (left : Nat) : List Char → Except Refusal (List Char)
  | ']' :: rest => .ok rest
  | [] => .error ⟨.openFilter, left⟩
  | cs => .error ⟨.noClosing (String.ofList key), cs.length⟩

/-- A filter, its opening bracket read already. -/
def readFilter (cs : List Char) : Except Refusal (Filter × List Char) := do
  match readWord isLetter cs with
  | none => throw ⟨.noKey, cs.length⟩
  | some (key, rest) => do
    let (op, rest) ← readOp key rest
    let (value, rest) ← readValue key rest
    let rest ← readClosing key (cs.length + 1) rest
    return ({ key := String.ofList key, value := String.ofList value, op }, rest)

theorem length_lt_of_readOp {key cs rest : List Char} {op : Op}
    (h : readOp key cs = .ok (op, rest)) : rest.length < cs.length := by
  unfold readOp at h
  split at h <;> simp only [Except.ok.injEq, Prod.mk.injEq, reduceCtorEq] at h
  · obtain ⟨-, rfl⟩ := h; simp only [List.length_cons]; omega
  · obtain ⟨-, rfl⟩ := h; simp

theorem length_le_of_readValue {key cs value rest : List Char}
    (h : readValue key cs = .ok (value, rest)) : rest.length ≤ cs.length := by
  unfold readValue at h
  split at h
  · rename_i cs
    split at h
    · rename_i c tail hd
      simp only [Except.ok.injEq, Prod.mk.injEq] at h
      obtain ⟨-, rfl⟩ := h
      have := (List.dropWhile_suffix (· != '"') (l := cs)).length_le
      rw [hd] at this
      simp only [List.length_cons] at this ⊢; omega
    · simp at h
  · simp only at h
    split at h
    · simp at h
    · simp only [Except.ok.injEq, Prod.mk.injEq] at h
      obtain ⟨-, rfl⟩ := h
      exact (List.dropWhile_suffix _).length_le

theorem length_lt_of_readClosing {key cs rest : List Char} {left : Nat}
    (h : readClosing key left cs = .ok rest) : rest.length < cs.length := by
  unfold readClosing at h
  split at h <;> simp only [Except.ok.injEq, reduceCtorEq] at h
  subst h; simp

theorem length_lt_of_readFilter {cs rest : List Char} {f : Filter}
    (h : readFilter cs = .ok (f, rest)) : rest.length < cs.length := by
  unfold readFilter at h
  cases h1 : readWord isLetter cs with
  | none => simp [h1, throw, throwThe, MonadExceptOf.throw] at h
  | some p =>
    obtain ⟨key, r1⟩ := p
    simp only [h1] at h
    cases h2 : readOp key r1 with
    | error e => simp [h2, bind, Except.bind] at h
    | ok p =>
      obtain ⟨op, r2⟩ := p
      cases h3 : readValue key r2 with
      | error e => simp [h2, h3, bind, Except.bind] at h
      | ok p =>
        obtain ⟨value, r3⟩ := p
        cases h4 : readClosing key (cs.length + 1) r3 with
        | error e => simp [h2, h3, h4, bind, Except.bind] at h
        | ok r4 =>
          simp only [h2, h3, h4, bind, Except.bind, pure, Except.pure, Except.ok.injEq,
            Prod.mk.injEq] at h
          obtain ⟨-, rfl⟩ := h
          have := length_lt_of_readWord h1
          have := length_lt_of_readOp h2
          have := length_le_of_readValue h3
          have := length_lt_of_readClosing h4
          omega

/-- As many filters as there are. -/
def readFilters (cs : List Char) : Except Refusal (List Filter × List Char) :=
  match cs with
  | '[' :: cs =>
    match h : readFilter cs with
    | .error r => .error r
    | .ok (f, rest) =>
      have := length_lt_of_readFilter h
      match readFilters rest with
      | .error r => .error r
      | .ok (fs, rest) => .ok (f :: fs, rest)
  | cs => .ok ([], cs)
termination_by cs.length
decreasing_by simp only [List.length_cons]; omega

/-! ## Steps -/

def readRole (cs : List Char) : Option String × List Char :=
  match readWord isLetter cs with
  | some (word, rest) => (some (String.ofList (lowerChars word)), rest)
  | none => (none, cs)

def readIdentifier (cs : List Char) : Except Refusal (Option String × List Char) :=
  match cs with
  | '#' :: cs =>
    match readWord startsIdentifier cs with
    | some (word, rest) => .ok (some (String.ofList word), rest)
    | none => .error ⟨.noIdentifier, cs.length⟩
  | cs => .ok (none, cs)

def readStep (cs : List Char) : Except Refusal (Step × List Char) := do
  let (role, rest) := readRole cs
  let (identifier, rest) ← readIdentifier rest
  let (filters, rest) ← readFilters rest
  let step : Step := { role, identifier, filters }
  if step.isEmpty then throw ⟨.emptyStep, cs.length⟩
  return (step, rest)

theorem length_le_of_readRole (cs : List Char) : (readRole cs).2.length ≤ cs.length := by
  unfold readRole
  cases h : readWord isLetter cs with
  | none => simp
  | some p => exact Nat.le_of_lt (length_lt_of_readWord h)

theorem length_le_of_readIdentifier {cs rest : List Char} {i : Option String}
    (h : readIdentifier cs = .ok (i, rest)) : rest.length ≤ cs.length := by
  unfold readIdentifier at h
  split at h
  · rename_i cs
    split at h
    · rename_i word tail hw
      simp only [Except.ok.injEq, Prod.mk.injEq] at h
      obtain ⟨-, rfl⟩ := h
      have := length_lt_of_readWord hw
      simp only [List.length_cons]; omega
    · simp at h
  · simp only [Except.ok.injEq, Prod.mk.injEq] at h
    obtain ⟨-, rfl⟩ := h; exact Nat.le_refl _

theorem length_le_of_readFilters {cs rest : List Char} {fs : List Filter}
    (h : readFilters cs = .ok (fs, rest)) : rest.length ≤ cs.length := by
  fun_induction readFilters cs generalizing fs with
  | case1 => simp at h
  | case2 => simp_all
  | case3 cs f r1 h1 _ gs r2 h2 ih =>
    simp only [Except.ok.injEq, Prod.mk.injEq] at h
    obtain ⟨-, rfl⟩ := h
    have := ih h2
    have := length_lt_of_readFilter h1
    simp only [List.length_cons]; omega
  | case4 cs =>
    simp only [Except.ok.injEq, Prod.mk.injEq] at h
    obtain ⟨-, rfl⟩ := h; exact Nat.le_refl _

theorem length_le_of_readStep {cs rest : List Char} {s : Step}
    (h : readStep cs = .ok (s, rest)) : rest.length ≤ cs.length := by
  unfold readStep at h
  cases h1 : readIdentifier (readRole cs).2 with
  | error e => simp [h1, bind, Except.bind] at h
  | ok p =>
    obtain ⟨identifier, r1⟩ := p
    cases h2 : readFilters r1 with
    | error e => simp [h1, h2, bind, Except.bind] at h
    | ok p =>
      obtain ⟨filters, r2⟩ := p
      simp only [h1, h2, bind, Except.bind, pure, Except.pure] at h
      split at h
      · simp [throw, throwThe, MonadExceptOf.throw] at h
      · simp only [Except.ok.injEq, Prod.mk.injEq] at h
        obtain ⟨-, rfl⟩ := h
        have := length_le_of_readRole cs
        have := length_le_of_readIdentifier h1
        have := length_le_of_readFilters h2
        omega

/-- Steps up to the end of the text, white space between them. -/
def readSteps (cs : List Char) : Except Refusal (List Step) :=
  match h : readStep cs with
  | .error r => .error r
  | .ok (step, []) => .ok [step]
  | .ok (step, c :: rest) =>
    if isBlank c then
      have := length_le_of_readStep h
      have := (List.dropWhile_suffix isBlank (l := rest)).length_le
      match readSteps (trimStart rest) with
      | .error r => .error r
      | .ok steps => .ok (step :: steps)
    else .error ⟨.noGap, rest.length + 1⟩
termination_by cs.length
decreasing_by simp only [trimStart, List.length_cons] at *; omega

/-! ## Selectors -/

/-- White space at both ends of the text does not count. -/
def parse (raw : String) : Except Failure Selector :=
  let text := trim raw.toList
  if text.isEmpty then .error (.invalidSelector emptyMessage)
  else match readSteps text with
    | .ok steps => .ok { steps, raw }
    | .error r => .error (.invalidSelector (r.message text))

end UiTree.Selector
