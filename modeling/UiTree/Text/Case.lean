import UiTree.Text.Runs
import UiTree.Text.Table.Case

/-!
# Case — lower case and case folding of whole texts

Both maps may change the length of a text.  Lower case looks at its neighbours in one place only: a
capital sigma at the end of a word becomes a final sigma.
-/

namespace UiTree.Text

/-- The image of a character under a shift table and, where that is silent, an expansion table. -/
def mapChar (shifts : List (Nat × Nat × Nat × Nat)) (expansions : List (Nat × List Nat))
    (c : Char) : List Char :=
  if c.toNat < 0x80 then [c.toLower]
  else match shiftIn shifts c.toNat with
    | some n => [Char.ofNat n]
    | none => match expansions.lookup c.toNat with
      | some ns => ns.map Char.ofNat
      | none => [c]

/-! ## Folding -/

def foldChar (c : Char) : List Char :=
  mapChar Table.foldShifts Table.foldExpansions c

def foldChars (cs : List Char) : List Char :=
  cs.flatMap foldChar

/-- The form under which texts are compared without regard to case. -/
def fold (s : String) : String :=
  String.ofList (foldChars s.toList)

@[simp] theorem foldChars_nil : foldChars [] = [] := rfl

@[simp] theorem foldChars_append (cs ds : List Char) :
    foldChars (cs ++ ds) = foldChars cs ++ foldChars ds := by
  simp [foldChars]

@[simp] theorem toList_fold (s : String) : (fold s).toList = foldChars s.toList := by
  simp [fold]

/-! ## Lower case -/

def isIgnorable (c : Char) : Bool :=
  inRuns Table.ignorableRuns c.toNat

def isCased (c : Char) : Bool :=
  if c.toNat < 0x80 then c.isAlpha else inRuns Table.casedRuns c.toNat

/-- The nearest character that is not skipped is a cased one. -/
def meetsCased (cs : List Char) : Bool :=
  (cs.dropWhile isIgnorable).head?.any isCased

/-- A sigma is final when a cased character comes before it and none after it. -/
def lowerSigma (before after : List Char) : Char :=
  if meetsCased before && !meetsCased after then 'ς' else 'σ'

/-- Lower case of `cs`, read after the text whose reverse is `before`. -/
def lowerFrom (before : List Char) : List Char → List Char
  | [] => []
  | c :: cs =>
    (if c == 'Σ' then [lowerSigma before cs]
      else mapChar Table.lowerShifts Table.lowerExpansions c) ++ lowerFrom (c :: before) cs

def lowerChars (cs : List Char) : List Char :=
  lowerFrom [] cs

def lower (s : String) : String :=
  String.ofList (lowerChars s.toList)

@[simp] theorem toList_lower (s : String) : (lower s).toList = lowerChars s.toList := by
  simp [lower]

/-! ## Upper case of names -/

/-- The characters beyond ASCII whose upper case is ASCII. -/
def asciiCapitals : List (Char × List Char) :=
  [('ß', ['S', 'S']), ('ı', ['I']), ('ſ', ['S']), ('ﬀ', ['F', 'F']), ('ﬁ', ['F', 'I']),
   ('ﬂ', ['F', 'L']), ('ﬃ', ['F', 'F', 'I']), ('ﬄ', ['F', 'F', 'L']), ('ﬅ', ['S', 'T']),
   ('ﬆ', ['S', 'T'])]

/-- Upper case as far as it can yield an ASCII name; any other character stays as it is. -/
def capitals (s : String) : String :=
  String.ofList (s.toList.flatMap fun c =>
    if c.toNat < 0x80 then [c.toUpper] else (asciiCapitals.lookup c).getD [c])

end UiTree.Text
