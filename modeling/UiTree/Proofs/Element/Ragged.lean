import UiTree.Element.Ragged

/-!
# Ragged elements — what is seen of them

With a character shown for every half, an element is one without halves.  What is said of it is what
is said of the ragged one, seen the same way, and an element that had no halves is seen as it is.
-/

namespace UiTree

open UiTree.Text

/-! ## 1. Texts -/

namespace Text.Ragged

variable (blot : Char)

theorem toList_seen (t : Ragged) : (t.seen blot).toList = t.points.map (Point.seen blot) :=
  String.toList_ofList

theorem seen_joined (separator : Ragged) (pieces : List Ragged) :
    (joined separator pieces).seen blot =
      (separator.seen blot).intercalate (pieces.map (seen blot)) := by
  have hpieces (pieces : List (List Point)) :
      (separator.points.intercalate pieces).map (Point.seen blot) =
        (separator.points.map (Point.seen blot)).intercalate
          (pieces.map (List.map (Point.seen blot))) := by
    induction pieces with
    | nil => rfl
    | cons piece pieces ih =>
      cases pieces with
      | nil => simp
      | cons next pieces =>
        rw [List.map_cons, List.map_cons, List.intercalate_cons_cons, List.intercalate_cons_cons,
          List.map_append, List.map_append, ih, List.map_cons]
  rw [← String.toList_inj, String.toList_intercalate, toList_seen, toList_seen, joined, hpieces,
    List.map_map, List.map_map]
  exact congrArg _ (List.map_congr_left fun t _ => (toList_seen blot t).symm)

/-- A half is seen as the character shown for it. -/
theorem isWhole_of_not_mem_seen {t : Ragged} (h : blot ∉ (t.seen blot).toList) :
    t.isWhole = true := by
  rw [isWhole_iff]
  intro offset hmem
  rw [toList_seen] at h
  exact h (List.mem_map.mpr ⟨_, hmem, rfl⟩)

end Text.Ragged

/-! ## 2. Elements -/

/-- A change of texts changes nothing about where an element stands. -/
theorem ElementOf.get?_mapTexts {σ τ : Type} (f : σ → τ) (t : ElementOf σ) (path : Path) :
    (t.mapTexts f).get? path = (t.get? path).map (mapTexts f) := by
  have hchildren : ∀ ts : List (ElementOf σ), mapTextsAll f ts = ts.map (mapTexts f) := by
    intro ts
    induction ts with
    | nil => rfl
    | cons t ts ih => rw [mapTextsAll, ih, List.map_cons]
  induction path generalizing t with
  | nil =>
    cases t
    rfl
  | cons i path ih =>
    rcases t with ⟨a, ts⟩
    rw [mapTexts, ElementOf.get?, ElementOf.get?, hchildren, List.getElem?_map]
    cases ts[i]? with
    | none => rfl
    | some child => exact ih child

namespace RaggedElement

theorem seen_describe (blot : Char) (a : AttributesOf Ragged) :
    Element.describe (a.mapTexts (Ragged.seen blot)) = (describe a).seen blot := by
  have hpart (name : String) (t : Option Ragged) :
      ((t.map (Ragged.ofString name ++ ·)).toList).map (Ragged.seen blot) =
        ((t.map (Ragged.seen blot)).map (name ++ ·)).toList := by
    cases t with
    | none => rfl
    | some t =>
      rw [Option.map_some, Option.toList_some, List.map_singleton, Ragged.seen_append,
        Ragged.seen_ofString]
      rfl
  rw [Element.describe, describe]
  dsimp only
  rw [Ragged.seen_append, Ragged.seen_append, Ragged.seen_joined, List.map_append, List.map_append,
    List.map_append, hpart, hpart, hpart, hpart]
  simp only [Ragged.seen_ofString]
  rfl

mutual

theorem seen_ragged (blot : Char) : ∀ e : Element, e.ragged.seen blot = e
  | .node a cs => by
    have htext (t : Option String) : (t.map Ragged.ofString).map (Ragged.seen blot) = t := by
      cases t with
      | none => rfl
      | some s => exact congrArg some (Ragged.seen_ofString blot s)
    have ha : (a.mapTexts Ragged.ofString).mapTexts (Ragged.seen blot) = a := by
      simp only [AttributesOf.mapTexts, htext]
    rw [Element.ragged, seen, ElementOf.mapTexts, ElementOf.mapTexts, ha, seenAll_ragged blot cs]

theorem seenAll_ragged (blot : Char) : ∀ es : List Element,
    ElementOf.mapTextsAll (Ragged.seen blot) (ElementOf.mapTextsAll Ragged.ofString es) = es
  | [] => rfl
  | e :: es => by
    have he := seen_ragged blot e
    rw [Element.ragged, seen] at he
    rw [ElementOf.mapTextsAll, ElementOf.mapTextsAll, he, seenAll_ragged blot es]

end

end RaggedElement

end UiTree
