import UiTree.Proofs.Text.Classes
import UiTree.Selector.Reader

/-!
# The grammar of selectors

    selector   = step (gap step)*
    step       = role? ('#' identifier)? filter*      at least one of the three parts
    role       = letter word*
    identifier = (letter | digit | '_') word*
    filter     = '[' key ('~=' | '=') value ']'
    key        = letter word*
    value      = '"' [^"]* '"' | [^\]]+               the second one not starting with '"'
    gap        = blank+

There is one type for each rule, and its values are the derivations by that rule: `text` is what a
derivation spells, and `steps` what it means.  The last section says which characters a part begins
with and which may come after it.
-/

namespace UiTree.Selector.Grammar

open UiTree.Text

/-! ## 1. Derivations -/

/-- `first word*`, for a class of first characters. -/
@[ext]
structure Word (first : Char → Bool) where
  head : Char
  tail : List Char
  head_ok : first head = true
  tail_ok : ∀ c ∈ tail, isWordChar c = true

/-- `blank+` -/
@[ext]
structure Gap where
  head : Char
  tail : List Char
  head_ok : isBlank head = true
  tail_ok : ∀ c ∈ tail, isBlank c = true

inductive Value
  | quoted (body : List Char) (closed : '"' ∉ body)
  | bare (run : List Char) (nonempty : run ≠ []) (unquoted : run.head? ≠ some '"')
      (closed : ']' ∉ run)

@[ext]
structure FilterTree where
  key : Word isLetter
  op : Op
  value : Value

@[ext]
structure StepTree where
  role : Option (Word isLetter)
  identifier : Option (Word startsIdentifier)
  filters : List FilterTree
  nonempty : role.isSome ∨ identifier.isSome ∨ filters ≠ []

inductive Tree
  | last (step : StepTree)
  | more (step : StepTree) (gap : Gap) (rest : Tree)

/-! ## 2. What a derivation spells -/

variable {first : Char → Bool}

def Word.text (w : Word first) : List Char := w.head :: w.tail

def Gap.text (g : Gap) : List Char := g.head :: g.tail

def Value.text : Value → List Char
  | .quoted body _ => '"' :: (body ++ ['"'])
  | .bare run _ _ _ => run

/-- What stands between the opening bracket of a filter and what comes after the filter. -/
def FilterTree.inside (f : FilterTree) : List Char :=
  f.key.text ++ (f.op.symbol.toList ++ (f.value.text ++ [']']))

def FilterTree.text (f : FilterTree) : List Char := '[' :: f.inside

def roleText : Option (Word isLetter) → List Char
  | none => []
  | some w => w.text

def identifierText : Option (Word startsIdentifier) → List Char
  | none => []
  | some w => '#' :: w.text

def filtersText (fs : List FilterTree) : List Char := fs.flatMap FilterTree.text

def StepTree.text (s : StepTree) : List Char :=
  roleText s.role ++ (identifierText s.identifier ++ filtersText s.filters)

def Tree.text : Tree → List Char
  | .last s => s.text
  | .more s g t => s.text ++ (g.text ++ t.text)

/-! ## 3. What a derivation means -/

/-- The value without its quotes. -/
def Value.content : Value → List Char
  | .quoted body _ => body
  | .bare run _ _ _ => run

def FilterTree.filter (f : FilterTree) : Filter :=
  { key := String.ofList f.key.text, value := String.ofList f.value.content, op := f.op }

/-- The role is put into lower case, all else is kept as it stands. -/
def StepTree.step (s : StepTree) : Step :=
  { role := s.role.map fun w => String.ofList (lowerChars w.text)
    identifier := s.identifier.map fun w => String.ofList w.text
    filters := s.filters.map FilterTree.filter }

def Tree.steps : Tree → List Step
  | .last s => [s.step]
  | .more s _ t => s.step :: t.steps

/-- The tree derives a text apart from the white space at its ends. -/
def Tree.Derives (t : Tree) (raw : String) : Prop := Stripped raw.toList t.text

theorem Tree.derives_iff {t : Tree} {raw : String} : t.Derives raw ↔ t.text = trim raw.toList :=
  stripped_iff

/-! ## 4. Where parts begin and end -/

/-- What comes after a step: nothing, or white space. -/
def Ends (rest : List Char) : Prop := ∀ c ∈ rest.head?, isBlank c = true

theorem ends_nil : Ends [] := by
  intro c hc
  simp at hc

theorem Gap.ends_append (g : Gap) (rest : List Char) : Ends (g.text ++ rest) := by
  intro c hc
  rw [Gap.text, List.cons_append, List.head?_cons, Option.mem_some_iff] at hc
  rw [← hc]
  exact g.head_ok

theorem Ends.head?_ne {rest : List Char} (h : Ends rest) {d : Char} (hd : isBlank d = false) :
    rest.head? ≠ some d := by
  intro he
  exact ne_of_isBlank (h d he) hd rfl

/-- No word goes on there, for white space is no part of a word. -/
theorem Ends.stops {rest : List Char} (h : Ends rest) : Stops isWordChar rest := by
  intro c hc
  exact isWordChar_of_isBlank (h c hc)

theorem filtersText_nil : filtersText [] = [] := rfl

/-- A filter ends with its closing bracket. -/
theorem FilterTree.text_eq_concat (f : FilterTree) :
    f.text = '[' :: (f.key.text ++ (f.op.symbol.toList ++ f.value.text)) ++ [']'] := by
  simp only [FilterTree.text, FilterTree.inside, List.cons_append, List.append_assoc]

theorem filtersText_cons (f : FilterTree) (fs : List FilterTree) (rest : List Char) :
    filtersText (f :: fs) ++ rest = '[' :: (f.inside ++ (filtersText fs ++ rest)) := by
  rw [filtersText, List.flatMap_cons, FilterTree.text, List.cons_append, List.cons_append,
    List.append_assoc, filtersText]

/-- Behind the role and the identifier of a step no word goes on. -/
theorem stops_filtersText (fs : List FilterTree) {rest : List Char} (h : Ends rest) :
    Stops isWordChar (filtersText fs ++ rest) := by
  cases fs with
  | nil => exact h.stops
  | cons f fs =>
    rw [filtersText_cons, stops_cons]
    decide

theorem head?_filtersText_ne (fs : List FilterTree) {rest : List Char} (h : Ends rest) :
    (filtersText fs ++ rest).head? ≠ some '#' := by
  cases fs with
  | nil => exact h.head?_ne (by decide)
  | cons f fs =>
    rw [filtersText_cons, List.head?_cons]
    decide

theorem stops_identifierText (i : Option (Word startsIdentifier)) {rest : List Char}
    (h : Stops isWordChar rest) : Stops isWordChar (identifierText i ++ rest) := by
  cases i with
  | none => exact h
  | some w =>
    rw [identifierText, List.cons_append, stops_cons]
    decide

/-- A step begins with a letter or with one of the two marks, and never with white space. -/
theorem StepTree.exists_text_eq_cons (s : StepTree) :
    ∃ c cs, s.text = c :: cs ∧ isBlank c = false := by
  rcases s with ⟨role, identifier, filters, hne⟩
  -- the first part that is present gives the first character
  cases role with
  | some w =>
    exact ⟨w.head, _, rfl, isBlank_of_isWordChar (isWordChar_of_isLetter w.head_ok)⟩
  | none =>
    cases identifier with
    | some w => exact ⟨'#', _, rfl, by decide⟩
    | none =>
      rcases List.exists_cons_of_ne_nil (by simpa using hne) with ⟨f, fs, rfl⟩
      exact ⟨'[', _, rfl, by decide⟩

theorem Tree.exists_text_eq_cons (t : Tree) : ∃ c cs, t.text = c :: cs ∧ isBlank c = false := by
  cases t with
  | last s => exact s.exists_text_eq_cons
  | more s g t =>
    rcases s.exists_text_eq_cons with ⟨c, cs, hs, hc⟩
    exact ⟨c, cs ++ (g.text ++ t.text), by rw [Tree.text, hs, List.cons_append], hc⟩

theorem Tree.stops_text (t : Tree) : Stops isBlank t.text := by
  rcases t.exists_text_eq_cons with ⟨c, cs, ht, hc⟩
  rw [ht]
  exact stops_cons.mpr hc

theorem Tree.text_ne_nil (t : Tree) : t.text ≠ [] := by
  rcases t.exists_text_eq_cons with ⟨c, cs, ht, -⟩
  rw [ht]
  exact List.cons_ne_nil c cs

end UiTree.Selector.Grammar
