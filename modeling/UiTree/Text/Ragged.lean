import UiTree.Text.Case
import UiTree.Text.Quoted

/-!
# Ragged texts — texts that may hold halves of characters

A character above `U+FFFF` can be written in two halves, each a code point of its own between
`U+D800` and `U+DFFF`.  A half is no character.  A text that holds one can be read and compared, but
it cannot be put out: it has no octets.
-/

namespace UiTree.Text

/-- A character, or the half of one at an offset from `U+D800`. -/
inductive Point
  | char (c : Char)
  | half (offset : Fin 0x800)
  deriving DecidableEq, Repr, Inhabited

namespace Point

def halfCode (offset : Fin 0x800) : Nat := 0xd800 + offset.val

/-- The half of a code point between `U+D800` and `U+DFFF`. -/
def ofHalfCode (n : Nat) : Point := .half (.ofNat 0x800 (n - 0xd800))

def char? : Point → Option Char
  | .char c => some c
  | .half _ => none

/-- The point with a character shown for halves. -/
def seen (blot : Char) : Point → Char
  | .char c => c
  | .half _ => blot

end Point

structure Ragged where
  points : List Point
  deriving DecidableEq, Repr, Inhabited

namespace Ragged

def ofChars (cs : List Char) : Ragged := { points := cs.map .char }

def ofString (s : String) : Ragged := .ofChars s.toList

def append (t u : Ragged) : Ragged := { points := t.points ++ u.points }

instance : Append Ragged := ⟨append⟩

def joined (separator : Ragged) (pieces : List Ragged) : Ragged :=
  { points := separator.points.intercalate (pieces.map points) }

/-- The text itself, if it holds no halves. -/
def text? (t : Ragged) : Option String :=
  (t.points.mapM Point.char?).map String.ofList

/-- The text holds no halves. -/
def isWhole (t : Ragged) : Bool := t.text?.isSome

/-- The text with a character shown for every half. -/
def seen (blot : Char) (t : Ragged) : String :=
  String.ofList (t.points.map (Point.seen blot))

/-! ## Literal text -/

def literalPoint (mark : Char) : Point → List Char
  | .char c => quoteChar mark c
  | .half offset => codeEscape (Point.halfCode offset)

/-- The text between quotes. -/
def literal (t : Ragged) : List Char :=
  let mark := quoteMark (t.points.filterMap Point.char?)
  mark :: (t.points.flatMap (literalPoint mark) ++ [mark])

/-! ## Lower case -/

/-- Lower case of the points, behind characters given in reverse.  A half stands between words. -/
def lowerBehind (before : List Char) : List Point → List Point
  | [] => (lowerChars before.reverse).map .char
  | .char c :: points => lowerBehind (c :: before) points
  | .half offset :: points =>
    (lowerChars before.reverse).map .char ++ .half offset :: lowerBehind [] points

def lower (t : Ragged) : Ragged := { points := lowerBehind [] t.points }

/-! ## Escape sequences -/

def isParameter : Point → Bool
  | .char c => c.isDigit || c == ';' || c == '?'
  | .half _ => false

/-- What is left behind the first character of an escape sequence: a bracket comes next, then
parameters and a letter. -/
def afterSequence? : List Point → Option (List Point)
  | .char '[' :: points =>
    match points.dropWhile isParameter with
    | .char c :: rest => if c.isAlpha then some rest else none
    | _ => none
  | _ => none

def bareFrom : Nat → List Point → List Point
  | 0, points => points
  | _ + 1, [] => []
  | room + 1, p :: points =>
    match p, afterSequence? points with
    | .char '\x1b', some rest => bareFrom room rest
    | _, _ => p :: bareFrom room points

/-- The text without the escape sequences that terminals act upon. -/
def bare (t : Ragged) : Ragged := { points := bareFrom t.points.length t.points }

/-! ## Octets -/

/-- The first run of halves, and how many characters come before it. -/
def firstHalves (count : Nat) : List Point → Nat × List (Fin 0x800)
  | [] => (count, [])
  | .char _ :: points => firstHalves (count + 1) points
  | .half offset :: points => (count, offset :: run points)
where
  run : List Point → List (Fin 0x800)
    | .half offset :: points => offset :: run points
    | _ => []

/-- Why a text with halves has no octets. -/
def encodingError (t : Ragged) : String :=
  let (start, halves) := firstHalves 0 t.points
  let place := match halves with
    | [offset] =>
      let shown := String.ofList (codeEscape (Point.halfCode offset))
      s!"character '{shown}' in position {start}"
    | _ => s!"characters in position {start}-{start + halves.length - 1}"
  s!"'utf-8' codec can't encode {place}: surrogates not allowed"

/-- The text to put out, or why it has no octets. -/
def encode (t : Ragged) : Except String String :=
  match t.text? with
  | some s => .ok s
  | none => .error t.encodingError

/-! ## Texts without halves -/

@[simp] theorem points_ofChars (cs : List Char) : (ofChars cs).points = cs.map .char := rfl

@[simp] theorem points_append (t u : Ragged) : (t ++ u).points = t.points ++ u.points := rfl

theorem append_assoc (t u v : Ragged) : t ++ u ++ v = t ++ (u ++ v) :=
  congrArg mk (List.append_assoc _ _ _)

@[simp] theorem text?_ofString (s : String) : (ofString s).text? = some s := by
  have hchars : ∀ cs : List Char, (cs.map Point.char).mapM Point.char? = some cs := by
    intro cs
    induction cs with
    | nil => rfl
    | cons c cs ih =>
      rw [List.map_cons, List.mapM_cons, ih]
      rfl
  rw [text?, ofString, points_ofChars, hchars, Option.map_some, String.ofList_toList]

theorem eq_ofString_of_text? {t : Ragged} {s : String} (h : t.text? = some s) :
    t = ofString s := by
  have hpoints : ∀ (points : List Point) {cs : List Char},
      points.mapM Point.char? = some cs → points = cs.map .char := by
    intro points
    induction points with
    | nil =>
      rintro cs ⟨⟩
      rfl
    | cons p points ih =>
      intro cs hcs
      rw [List.mapM_cons] at hcs
      cases p with
      | half offset => cases hcs
      | char c =>
        cases hrest : points.mapM Point.char? with
        | none =>
          rw [hrest] at hcs
          cases hcs
        | some ds =>
          rw [hrest] at hcs
          cases hcs
          rw [List.map_cons, ih hrest]
  rcases Option.map_eq_some_iff.mp h with ⟨cs, hcs, rfl⟩
  rcases t with ⟨points⟩
  rw [ofString, String.toList_ofList, ofChars, hpoints points hcs]

theorem toList_seen_ofChars (blot : Char) (cs : List Char) :
    ((ofChars cs).seen blot).toList = cs := by
  rw [seen, points_ofChars, String.toList_ofList, List.map_map]
  exact List.map_id _

@[simp] theorem seen_ofString (blot : Char) (s : String) : (ofString s).seen blot = s := by
  rw [← String.toList_inj]
  exact toList_seen_ofChars blot s.toList

theorem seen_append (blot : Char) (t u : Ragged) :
    (t ++ u).seen blot = t.seen blot ++ u.seen blot := by
  rw [seen, points_append, List.map_append, String.ofList_append]
  rfl

@[simp] theorem encode_ofString (s : String) : (ofString s).encode = .ok s := by
  rw [encode, text?_ofString]

@[simp] theorem isWhole_ofString (s : String) : (ofString s).isWhole = true := by
  rw [isWhole, text?_ofString, Option.isSome_some]

/-- A text has octets just if it holds no halves. -/
theorem encode_cases (t : Ragged) :
    (t.isWhole = true ∧ ∃ s, t.encode = .ok s) ∨
      (t.isWhole = false ∧ t.encode = .error t.encodingError) := by
  unfold isWhole encode
  cases t.text? with
  | some s => exact .inl ⟨rfl, s, rfl⟩
  | none => exact .inr ⟨rfl, rfl⟩

theorem isWhole_iff {t : Ragged} : t.isWhole = true ↔ ∀ offset, .half offset ∉ t.points := by
  constructor
  · intro h offset hmem
    rcases Option.isSome_iff_exists.mp h with ⟨s, hs⟩
    rw [eq_ofString_of_text? hs, ofString, points_ofChars] at hmem
    rcases List.mem_map.mp hmem with ⟨c, -, hc⟩
    cases hc
  · intro h
    have hchars : t = ofChars (t.points.filterMap Point.char?) := by
      rcases t with ⟨points⟩
      refine congrArg mk ?_
      induction points with
      | nil => rfl
      | cons p points ih =>
        have hrest := ih fun offset hmem => h offset (List.mem_cons_of_mem p hmem)
        cases p with
        | char c => exact congrArg (.char c :: ·) hrest
        | half offset => exact absurd List.mem_cons_self (h offset)
    rw [hchars, ← String.toList_ofList (l := t.points.filterMap Point.char?)]
    exact isWhole_ofString _

theorem isWhole_append (t u : Ragged) : (t ++ u).isWhole = (t.isWhole && u.isWhole) := by
  rw [Bool.eq_iff_iff, Bool.and_eq_true, isWhole_iff, isWhole_iff, isWhole_iff, points_append]
  simp only [List.mem_append, not_or, forall_and]

/-- An escape sequence has no halves. -/
theorem of_afterSequence? {points rest : List Point} (h : afterSequence? points = some rest) :
    rest.length ≤ points.length ∧ ∀ offset, .half offset ∈ points ↔ .half offset ∈ rest := by
  unfold afterSequence? at h
  split at h
  case h_2 => cases h
  case h_1 points =>
    split at h
    case h_2 => cases h
    case h_1 c after hafter =>
      have hrest : after = rest := by
        split at h
        · exact Option.some.inj h
        · cases h
      have hsplit := List.takeWhile_append_dropWhile (p := isParameter) (l := points)
      have hparameters : ∀ offset, Point.half offset ∉ points.takeWhile isParameter :=
        fun offset hmem => absurd (List.all_eq_true.mp List.all_takeWhile _ hmem) nofun
      rw [← hsplit, hafter, ← hrest]
      refine ⟨?_, fun offset => ?_⟩
      · simp only [List.length_cons, List.length_append]
        omega
      · simp [hparameters]

theorem half_mem_bareFrom {room : Nat} {points : List Point} (hroom : points.length ≤ room)
    (offset : Fin 0x800) : .half offset ∈ bareFrom room points ↔ .half offset ∈ points := by
  fun_induction bareFrom room points with
  | case1 => exact Iff.rfl
  | case2 => exact Iff.rfl
  | case3 room points rest hafter ih =>
    rcases of_afterSequence? hafter with ⟨hlength, hhalves⟩
    rw [List.length_cons] at hroom
    rw [ih (by omega), List.mem_cons, hhalves]
    simp
  | case4 room p points _ ih =>
    rw [List.length_cons] at hroom
    rw [List.mem_cons, List.mem_cons, ih (by omega)]

/-- Leaving out escape sequences leaves the halves of a text. -/
theorem isWhole_bare (t : Ragged) : t.bare.isWhole = t.isWhole := by
  rw [Bool.eq_iff_iff, isWhole_iff, isWhole_iff, bare]
  simp only [half_mem_bareFrom (Nat.le_refl _)]

end Ragged

end UiTree.Text
