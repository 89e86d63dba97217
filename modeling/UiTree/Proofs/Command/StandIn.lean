import Mathlib.Data.List.Nodup
import Mathlib.Data.List.Perm.Subperm
import UiTree.Command.Run
import UiTree.Proofs.Element.DocumentOrder
import UiTree.Proofs.Element.Ragged
import UiTree.Proofs.Selector.RoleWord
import UiTree.Proofs.Selector.Written

/-!
# Stand-ins — searching a tree whose texts hold halves

A selector is looked for in a tree that shows a private character for every half of a character.
The character is one that folding leaves alone and that the selector does not have, so that the
elements that meet a step there are just those whose texts meet it point by point.
-/

namespace UiTree

open UiTree.Text

/-! ## 1. Private characters -/

namespace Text

open Table

/-- The character is from the last two planes, where none has a case. -/
def IsPrivate (c : Char) : Prop := 0xf0000 ≤ c.toNat

/-- Folding neither moves a private character nor leads to one. -/
theorem foldTables_lt : (∀ r ∈ foldShifts, Shift.last r < 0xf0000 ∧ Shift.top r < 0xf0000) ∧
    ∀ p ∈ foldExpansions, p.1 < 0xf0000 ∧ ∀ n ∈ p.2, n < 0xf0000 := by
  have hshifts : (foldShifts.all fun r : Shift =>
      r.last.blt 0xf0000 && r.top.blt 0xf0000) = true := by decide +kernel
  have hexpansions : (foldExpansions.all fun p =>
      p.1.blt 0xf0000 && p.2.all fun n => n.blt 0xf0000) = true := by decide +kernel
  refine ⟨fun r hr => ?_, fun p hp => ?_⟩
  · have hrow := List.all_eq_true.mp hshifts r hr
    rwa [Bool.and_eq_true, Nat.blt_eq, Nat.blt_eq] at hrow
  · have hrow := List.all_eq_true.mp hexpansions p hp
    rw [Bool.and_eq_true, Nat.blt_eq, List.all_eq_true] at hrow
    exact ⟨hrow.1, fun n hn => Nat.blt_eq.mp (hrow.2 n hn)⟩

theorem toNat_ofNat_le (n : Nat) : (Char.ofNat n).toNat ≤ n := by
  by_cases hn : n.isValidChar
  · exact Nat.le_of_eq (toNat_ofNat hn)
  · rw [Char.ofNat, dif_neg hn]
    exact Nat.zero_le n

section

variable {c d : Char} (hc : IsPrivate c)
include hc

theorem foldPoint_of_private : foldPoint c.toNat = [c.toNat] := by
  rcases mapPoint_cases foldShifts foldExpansions c.toNat with
    ⟨r, hr, hcovers, -⟩ | ⟨p, hp, hn, -⟩ | hpoint
  · exact absurd (Nat.lt_of_le_of_lt hcovers.2.1 (foldTables_lt.1 r hr).1) (Nat.not_lt.mpr hc)
  · exact absurd (hn ▸ (foldTables_lt.2 p hp).1) (Nat.not_lt.mpr hc)
  · exact hpoint

theorem foldChar_of_private : foldChar c = [c] := by
  have hbeyond : 0x80 ≤ c.toNat := Nat.le_trans (by decide) hc
  rw [foldChar_eq_map hbeyond, foldPoint_of_private hc, List.map_singleton, Char.ofNat_toNat]

theorem isWordChar_of_private : isWordChar c = false := by
  have hruns : (beside 0xf0000 0x10ffff letterRuns && beside 0xf0000 0x10ffff digitRuns) =
      true := by decide +kernel
  rw [Bool.and_eq_true] at hruns
  have hlast : c.toNat ≤ 0x10ffff := by
    rcases c.valid with hlow | hhigh
    · exact Nat.le_of_lt (Nat.lt_trans hlow (by decide))
    · exact Nat.le_of_lt_succ hhigh.2
  have hbeyond : ¬ c.toNat < 0x80 := Nat.not_lt.mpr (Nat.le_trans (by decide) hc)
  have hletter : isLetter c = false := by
    rw [isLetter, if_neg hbeyond]
    exact inRuns_of_beside hruns.1 hc hlast
  have hdigit : isDigit c = false := by
    rw [isDigit, if_neg hbeyond]
    exact inRuns_of_beside hruns.2 hc hlast
  rw [isWordChar, hletter, hdigit, Bool.false_or, Bool.false_or, Bool.or_eq_false_iff,
    beq_eq_false_iff_ne, beq_eq_false_iff_ne]
  constructor
  all_goals
    rintro rfl
    exact hbeyond (by decide)

theorem eq_of_private_mem_foldChar (h : c ∈ foldChar d) : d = c := by
  unfold IsPrivate at hc
  by_cases hd : d.toNat < 0x80
  · rw [foldChar_of_lt hd, List.mem_singleton] at h
    have hlower := (toLower_of_lt hd).1
    rw [← h] at hlower
    omega
  · rw [foldChar_eq_map (Nat.le_of_not_lt hd)] at h
    rcases List.mem_map.mp h with ⟨n, hn, hcn⟩
    have hle : c.toNat ≤ n := hcn ▸ toNat_ofNat_le n
    rcases mapPoint_cases foldShifts foldExpansions d.toNat with
      ⟨r, hr, hcovers, hpoint⟩ | ⟨p, hp, -, hpoint⟩ | hpoint
    · rw [foldPoint, hpoint, List.mem_singleton] at hn
      have htop := hcovers.move_le_top
      have hlt := (foldTables_lt.1 r hr).2
      omega
    · rw [foldPoint, hpoint] at hn
      have hlt := (foldTables_lt.2 p hp).2 n hn
      omega
    · rw [foldPoint, hpoint, List.mem_singleton] at hn
      rw [← hcn, hn, Char.ofNat_toNat]

theorem private_mem_foldChars_iff {cs : List Char} : c ∈ foldChars cs ↔ c ∈ cs := by
  rw [foldChars, List.mem_flatMap]
  constructor
  · rintro ⟨d, hd, hmem⟩
    rwa [← eq_of_private_mem_foldChar hc hmem]
  · intro h
    exact ⟨c, h, by rw [foldChar_of_private hc]; exact List.mem_singleton_self c⟩

end

/-! ## 2. Texts -/

/-- A point as it is compared without regard to case: a half is left alone. -/
def Point.folded : Point → List Point
  | .char c => (foldChar c).map .char
  | .half offset => [.half offset]

def Ragged.folded (t : Ragged) : List Point := t.points.flatMap Point.folded

section

variable {c : Char} {cs : List Char}

theorem folded_ofString (s : String) :
    (Ragged.ofString s).folded = (foldChars s.toList).map .char := by
  rw [Ragged.folded, Ragged.ofString, Ragged.points_ofChars, List.flatMap_map, foldChars,
    List.map_flatMap]
  rfl

/-- Folding may as well be done before the character is shown. -/
theorem foldChars_seen (hc : IsPrivate c) (t : Ragged) :
    foldChars (t.seen c).toList = t.folded.map (Point.seen c) := by
  rw [Ragged.toList_seen, foldChars, Ragged.folded, List.flatMap_map, List.map_flatMap]
  apply List.flatMap_congr
  intro p _
  cases p with
  | char d =>
    rw [Point.folded, List.map_map]
    exact (List.map_id _).symm
  | half offset => exact foldChar_of_private hc

/-- Where the character is not asked for, no half is met. -/
theorem map_seen_eq_iff (h : c ∉ cs) {points : List Point} :
    points.map (Point.seen c) = cs ↔ points = cs.map .char := by
  induction points generalizing cs with
  | nil => cases cs <;> simp
  | cons p points ih =>
    cases cs with
    | nil => simp
    | cons d cs =>
      rw [List.mem_cons, not_or] at h
      rw [List.map_cons, List.map_cons, List.cons.injEq, List.cons.injEq, ih h.2]
      cases p with
      | char b => rw [Point.seen, Point.char.injEq]
      | half offset => simp [Point.seen, h.1]

theorem occursIn_map_seen_iff (h : c ∉ cs) {points : List Point} :
    occursIn cs (points.map (Point.seen c)) = true ↔ cs.map .char <:+: points := by
  rw [occursIn_iff]
  constructor
  · rintro ⟨before, after, hsplit⟩
    rcases List.map_eq_append_iff.mp hsplit with ⟨front, last, rfl, hfront, -⟩
    rcases List.map_eq_append_iff.mp hfront with ⟨first, middle, rfl, -, hmiddle⟩
    rw [(map_seen_eq_iff h).mp hmiddle]
    exact ⟨first, last, rfl⟩
  · rintro ⟨first, last, rfl⟩
    refine ⟨first.map (Point.seen c), last.map (Point.seen c), ?_⟩
    rw [List.map_append, List.map_append, (map_seen_eq_iff h).mpr rfl]

theorem seen_eq_iff {s : String} (h : c ∉ s.toList) {t : Ragged} :
    t.seen c = s ↔ t = .ofString s := by
  rcases t with ⟨points⟩
  rw [← String.toList_inj, Ragged.toList_seen, map_seen_eq_iff h, Ragged.ofString, Ragged.ofChars,
    Ragged.mk.injEq]

end

end Text

/-! ## 3. Steps -/

namespace Selector

/-- A comparison point by point. -/
def Op.Meets (wanted : String) (found : Ragged) : Op → Prop
  | .equals => found = .ofString wanted
  | .contains => (Ragged.ofString wanted).folded <:+: found.folded

/-- A filter asks for an attribute that has a text like it. -/
def Filter.Meets (f : Filter) (a : AttributesOf Ragged) : Prop :=
  ∃ found ∈ f.attribute?.bind a.text?, f.op.Meets f.value found

/-- The texts of an element meet the step, halves and all. -/
structure Step.Meets (s : Step) (a : AttributesOf Ragged) : Prop where
  role : ∀ name ∈ s.role,
    (a.role.getD (.ofString "")).folded = (Ragged.ofString (resolveRole name)).folded
  identifier : ∀ i ∈ s.identifier, a.identifier = some (.ofString i)
  filters : ∀ f ∈ s.filters, f.Meets a

/-- No text of the step has the character, whatever its case. -/
structure Step.Lacks (s : Step) (c : Char) : Prop where
  role : ∀ name ∈ s.role, c ∉ foldChars (resolveRole name).toList
  identifier : ∀ i ∈ s.identifier, c ∉ i.toList
  values : ∀ f ∈ s.filters, c ∉ f.value.toList

section

variable {c : Char} (hc : IsPrivate c)
include hc

theorem Op.compare_seen_iff {wanted : String} (h : c ∉ wanted.toList) (op : Op) (t : Ragged) :
    op.compare wanted (t.seen c) = true ↔ op.Meets wanted t := by
  cases op with
  | equals =>
    rw [Op.compare, beq_iff_eq, seen_eq_iff h]
    rfl
  | contains =>
    have hfolded : c ∉ foldChars wanted.toList := mt (private_mem_foldChars_iff hc).mp h
    rw [Op.compare, containsFolded, foldChars_seen hc, occursIn_map_seen_iff hfolded,
      ← folded_ofString]
    rfl

theorem Filter.holds_seen_iff {f : Filter} (h : c ∉ f.value.toList) (a : AttributesOf Ragged) :
    f.holds (a.mapTexts (Ragged.seen c)) = true ↔ f.Meets a := by
  have htext : f.attribute?.bind (a.mapTexts (Ragged.seen c)).text? =
      (f.attribute?.bind a.text?).map (Ragged.seen c) := by
    cases f.attribute? with
    | none => rfl
    | some x => exact a.text?_mapTexts (Ragged.seen c) x
  rw [Filter.holds, Filter.Meets, htext]
  cases f.attribute?.bind a.text? with
  | none => simp
  | some found => simp [Op.compare_seen_iff hc h]

theorem Step.roleHolds_seen_iff {s : Step} (h : s.Lacks c) (a : AttributesOf Ragged) :
    s.roleHolds (a.mapTexts (Ragged.seen c)) = true ↔ ∀ name ∈ s.role,
      (a.role.getD (.ofString "")).folded = (Ragged.ofString (resolveRole name)).folded := by
  have hseen : (a.mapTexts (Ragged.seen c)).role.getD "" =
      (a.role.getD (.ofString "")).seen c := by
    rw [← Option.getD_map (Ragged.seen c), Ragged.seen_ofString]
    rfl
  rw [Step.roleHolds]
  cases hrole : s.role with
  | none => simp
  | some name =>
    simp only [Option.mem_some_iff, forall_eq', beq_iff_eq]
    rw [← String.toList_inj, toList_fold, toList_fold, hseen, foldChars_seen hc,
      map_seen_eq_iff (h.role name hrole), folded_ofString]

omit hc in
theorem Step.identifierHolds_seen_iff {s : Step} (h : s.Lacks c) (a : AttributesOf Ragged) :
    s.identifierHolds (a.mapTexts (Ragged.seen c)) = true ↔
      ∀ i ∈ s.identifier, a.identifier = some (.ofString i) := by
  rw [Step.identifierHolds]
  cases hidentifier : s.identifier with
  | none => simp
  | some i =>
    simp only [Option.mem_some_iff, forall_eq', beq_iff_eq, AttributesOf.mapTexts,
      Option.map_eq_some_iff, seen_eq_iff (h.identifier i hidentifier), exists_eq_right]

theorem Step.holds_seen_iff {s : Step} (h : s.Lacks c) (a : AttributesOf Ragged) :
    s.holds (a.mapTexts (Ragged.seen c)) = true ↔ s.Meets a := by
  have hfilters : s.filters.all (·.holds (a.mapTexts (Ragged.seen c))) = true ↔
      ∀ f ∈ s.filters, f.Meets a := by
    rw [List.all_eq_true]
    exact forall₂_congr fun f hf => Filter.holds_seen_iff hc (h.values f hf) a
  rw [Step.holds, Bool.and_eq_true, Bool.and_eq_true, roleHolds_seen_iff hc h,
    identifierHolds_seen_iff h, hfilters]
  constructor
  · rintro ⟨⟨hrole, hidentifier⟩, hfilters⟩
    exact ⟨hrole, hidentifier, hfilters⟩
  · rintro ⟨hrole, hidentifier, hfilters⟩
    exact ⟨⟨hrole, hidentifier⟩, hfilters⟩

/-! ## 4. Selectors -/

open Grammar

/-- A role that is an alias stands for a tag, which is a word, and any other for what it folds
to. -/
theorem mem_text_of_mem_resolveRole {cs : List Char}
    (h : c ∈ foldChars (resolveRole (String.ofList (lowerChars cs))).toList) : c ∈ cs := by
  rw [resolveRole_eq] at h
  cases htag : tagOf? (String.ofList (lowerChars cs)) with
  | none =>
    rwa [htag, Option.getD_none, String.toList_ofList, lowerChars, foldChars_lowerFrom,
      private_mem_foldChars_iff hc] at h
  | some tag =>
    rcases (tag_of_mem_roleAliases (mem_roleAliases htag)).2 with ⟨w, hw : w.name = tag⟩
    rw [htag, Option.getD_some, private_mem_foldChars_iff hc, ← hw, Word.name,
      String.toList_ofList] at h
    have hword := w.isWordChar_of_mem c h
    rw [isWordChar_of_private hc] at hword
    cases hword

omit hc in
theorem FilterTree.mem_text {f : FilterTree} (h : c ∈ f.filter.value.toList) : c ∈ f.text := by
  have hvalue : c ∈ f.value.text := by
    rw [FilterTree.filter, String.toList_ofList] at h
    cases hv : f.value with
    | quoted body hbody =>
      rw [hv] at h
      exact List.mem_cons_of_mem _ (List.mem_append_left _ h)
    | bare run _ _ _ =>
      rw [hv] at h
      exact h
  rw [FilterTree.text, FilterTree.inside]
  simp [hvalue]

theorem StepTree.lacks {s : StepTree} (h : c ∉ s.text) : s.step.Lacks c := by
  rw [StepTree.text, List.mem_append, List.mem_append, not_or, not_or] at h
  rcases h with ⟨hrole, hidentifier, hfilters⟩
  constructor
  case role =>
    intro name hname hmem
    rcases Option.mem_map.mp hname with ⟨w, hw, rfl⟩
    rw [Option.mem_def.mp hw] at hrole
    exact hrole (mem_text_of_mem_resolveRole hc hmem)
  case identifier =>
    intro i hi hmem
    rcases Option.mem_map.mp hi with ⟨w, hw, rfl⟩
    rw [Option.mem_def.mp hw] at hidentifier
    rw [String.toList_ofList] at hmem
    exact hidentifier (List.mem_cons_of_mem _ hmem)
  case values =>
    intro f hf hmem
    rcases List.mem_map.mp hf with ⟨g, hg, rfl⟩
    exact hfilters (List.mem_flatMap.mpr ⟨g, hg, FilterTree.mem_text hmem⟩)

theorem Tree.lacks {t : Tree} (h : c ∉ t.text) : ∀ s ∈ t.steps, s.Lacks c := by
  induction t with
  | last s =>
    intro x hx
    rw [List.mem_singleton.mp hx]
    exact StepTree.lacks hc h
  | more s g t ih =>
    rw [Tree.text, List.mem_append, List.mem_append, not_or, not_or] at h
    exact List.forall_mem_cons.mpr ⟨StepTree.lacks hc h.1, ih h.2.2⟩

/-- The steps of a selector have no private character that its text does not have. -/
theorem lacks_of_parse {raw : String} {sel : Selector} (hparse : parse raw = .ok sel)
    (h : c ∉ raw.toList) : ∀ s ∈ sel.steps, s.Lacks c := by
  rcases exists_derives_of_parse hparse with ⟨t, hderives, rfl⟩
  rcases hderives.split with ⟨lead, trail, hraw, -, -⟩
  apply Tree.lacks hc
  intro hmem
  apply h
  rw [hraw]
  exact List.mem_append_left _ (List.mem_append_right _ hmem)

end

end Selector

/-! ## 5. The character that is shown -/

namespace Command

theorem toNat_private {i : Nat} (h : i < 0x20000) :
    (Char.ofNat (0xf0000 + i)).toNat = 0xf0000 + i := by
  apply toNat_ofNat
  unfold Nat.isValidChar
  omega

/-- A selector cannot have all of the private characters that are tried for it. -/
theorem standIn_private {selector : String} (h : selector.length < 0x20000) :
    IsPrivate (standIn selector) ∧ standIn selector ∉ selector.toList := by
  let privates := (List.range (selector.length + 1)).map fun i => Char.ofNat (0xf0000 + i)
  have hprivate : ∀ c ∈ privates, IsPrivate c := by
    intro c hc
    rcases List.mem_map.mp hc with ⟨i, hi, rfl⟩
    rw [List.mem_range] at hi
    rw [IsPrivate, toNat_private (by omega)]
    exact Nat.le_add_right _ i
  have hnodup : privates.Nodup := by
    refine List.Nodup.map_on (fun i hi k hk hchar => ?_) List.nodup_range
    rw [List.mem_range] at hi hk
    have hnat := congrArg Char.toNat hchar
    rw [toNat_private (by omega), toNat_private (by omega)] at hnat
    exact Nat.add_left_cancel hnat
  change IsPrivate ((privates.find? _).getD blot) ∧ (privates.find? _).getD blot ∉ _
  cases hfind : privates.find? fun c => !selector.toList.contains c with
  | some c =>
    have hlacking := List.find?_some hfind
    refine ⟨hprivate c (List.mem_of_find?_eq_some hfind), ?_⟩
    simpa using hlacking
  | none =>
    have hsubset : privates ⊆ selector.toList := by
      intro c hc
      simpa using List.find?_eq_none.mp hfind c hc
    have hlength := (hnodup.subperm hsubset).length_le
    rw [List.length_map, List.length_range, String.length_toList] at hlength
    exact absurd hlength (Nat.not_succ_le_self _)

theorem attributes_of_mem_seen {c : Char} {t : RaggedElement} {n : Located}
    (hn : n ∈ (t.seen c).preorder) :
    n.attributes = (t.attributesAt n.path).mapTexts (Ragged.seen c) := by
  have hget : (t.seen c).get? n.path = some n.element :=
    Element.within_root_iff.mp (Element.mem_preorder.mp hn)
  rw [Element.get?, RaggedElement.seen, ElementOf.get?_mapTexts] at hget
  rcases Option.map_eq_some_iff.mp hget with ⟨⟨a, cs⟩, hnode, helement⟩
  rw [Located.attributes, ← helement, RaggedElement.attributesAt, hnode]
  rfl

/-- **What a selector finds is what meets it point by point.**  In the tree that it is looked for
in, an element meets a step just if its texts do, halves and all. -/
theorem searched_holds_iff {selector : String} {sel : Selector}
    (hparse : Selector.parse selector = .ok sel) (hlength : selector.length < 0x20000)
    (t : RaggedElement) {n : Located} (hn : n ∈ (searched selector t).preorder)
    {s : Selector.Step} (hs : s ∈ sel.steps) :
    s.holds n.attributes = true ↔ s.Meets (t.attributesAt n.path) := by
  rcases standIn_private hlength with ⟨hprivate, hlacking⟩
  rw [attributes_of_mem_seen hn]
  exact Selector.Step.holds_seen_iff hprivate
    (Selector.lacks_of_parse hprivate hparse hlacking s hs) _

end Command

end UiTree
