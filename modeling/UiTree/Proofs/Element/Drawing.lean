import UiTree.Element.Drawing
import UiTree.Proofs.Element.Rendering
import UiTree.Proofs.Text.Markup
import UiTree.Proofs.Text.Width
import UiTree.Text.Printable

/-!
# Drawing — the lines of a drawn tree

A drawn tree has one line for each element that has room on the page, in document order.  A line
begins with four cells of guides for every level, which tell below what the element hangs, and goes
on with what is said of the element as far as the page reaches, bare of the backslashes that markup
takes away.
-/

namespace UiTree.Element

open UiTree.Text

/-! ## 1. Texts of printable characters -/

/-- What is shown of an element is printable, and no name in it stands for a pictograph. -/
structure Legible (a : Attributes) : Prop where
  printable : ∀ s ∈ shownTexts a, ∀ c ∈ s.toList, isPrintable c = true
  unnamed : Unnamed (Markup.bare (describe a).toList)

/-- No printable character is stripped from a text. -/
theorem isStripped_of_isPrintable {c : Char} (h : isPrintable c = true) :
    Markup.isStripped c = false := by
  have hne : ∀ d, isPrintable d = false → c ≠ d := by
    rintro d hd rfl
    exact absurd (h.symm.trans hd) nofun
  simp only [Markup.isStripped, Bool.or_eq_false_iff, beq_eq_false_iff_ne]
  exact ⟨⟨⟨⟨hne _ (by decide), hne _ (by decide)⟩, hne _ (by decide)⟩, hne _ (by decide)⟩,
    hne _ (by decide)⟩

/-- The text about an element has the characters of what it shows, and those around them. -/
theorem of_mem_describe {p : Char → Prop} {a : Attributes}
    (haround : ∀ c ∈ "[role= title= #value=]".toList, p c)
    (hshown : ∀ s ∈ shownTexts a, ∀ c ∈ s.toList, p c) : ∀ c ∈ (describe a).toList, p c := by
  have bracket : "[".toList ⊆ "[role= title= #value=]".toList := by decide
  have blank : " ".toList ⊆ "[role= title= #value=]".toList := by decide
  have closing : "]".toList ⊆ "[role= title= #value=]".toList := by decide
  have hpart (name : String) (hname : name.toList ⊆ "[role= title= #value=]".toList)
      (t : Option String) (ht : ∀ s ∈ t.toList, ∀ c ∈ s.toList, p c) :
      ∀ s ∈ (t.map (name ++ ·)).toList, ∀ c ∈ s.toList, p c := by
    intro s hs c hc
    rcases t with _ | t
    · exact absurd hs List.not_mem_nil
    · rw [List.mem_singleton.mp hs, String.toList_append, List.mem_append] at hc
      exact hc.elim (fun hc => haround c (hname hc)) (ht t (List.mem_singleton_self t) c)
  simp only [shownTexts, List.forall_mem_append] at hshown
  rcases hshown with ⟨⟨⟨hrole, htitle⟩, hidentifier⟩, hvalue⟩
  rw [describe, String.toList_append, String.toList_append, String.toList_intercalate]
  simp only [List.forall_mem_append]
  refine ⟨⟨fun c hc => haround c (bracket hc), fun c hc => ?_⟩, fun c hc => haround c (closing hc)⟩
  by_cases hblank : c ∈ " ".toList
  · exact haround c (blank hblank)
  · rcases (mem_intercalate hblank).mp hc with ⟨piece, hpiece, hc⟩
    rcases List.mem_map.mp hpiece with ⟨s, hs, rfl⟩
    simp only [List.mem_append] at hs
    rcases hs with ((hs | hs) | hs) | hs
    · exact hpart "role=" (by decide) a.role hrole s hs c hc
    · exact hpart "title=" (by decide) a.title htitle s hs c hc
    · exact hpart "#" (by decide) a.identifier hidentifier s hs c hc
    · exact hpart "value=" (by decide) a.value hvalue s hs c hc

theorem getLast?_describe (a : Attributes) : (describe a).toList.getLast? = some ']' := by
  rw [describe, String.toList_append]
  exact List.getLast?_concat

theorem Legible.isPrintable_of_mem {a : Attributes} (h : Legible a) {c : Char}
    (hc : c ∈ (describe a).toList) : isPrintable c = true :=
  of_mem_describe (List.all_eq_true.mp (by decide)) h.printable c hc

theorem Legible.not_mem {a : Attributes} (h : Legible a) {c : Char} (hc : isPrintable c = false) :
    c ∉ Markup.bare (describe a).toList := fun hmem =>
  absurd (h.isPrintable_of_mem ((Markup.bare_sublist _).subset hmem)) (hc ▸ Bool.false_ne_true)

/-- What is shown of an element takes one line, if there is room for it. -/
theorem Legible.labelLines_eq {a : Attributes} (h : Legible a) (width : Nat) :
    labelLines width a =
      if width = 0 then [] else [crop width (Markup.bare (describe a).toList)] := by
  have hstripped : ∀ c ∈ (describe a).toList, Markup.isStripped c = false := fun c hc =>
    isStripped_of_isPrintable (h.isPrintable_of_mem hc)
  have hplain := Markup.plain_escape (getLast?_describe a) hstripped h.unnamed
  have hlast := Markup.getLast?_bare (getLast?_describe a)
  rw [labelLines, hplain, splitAt_of_not_mem (h.not_mem (by decide)), List.map_singleton,
    expandTabs_of_not_mem (h.not_mem (by decide)), dropExcessBlanks_of_getLast? hlast (by decide)]
  by_cases hwidth : width = 0
  · rw [if_pos (beq_iff_eq.mpr hwidth), if_pos hwidth]
  · rw [if_neg (mt beq_iff_eq.mp hwidth), if_neg hwidth]

/-! ## 2. Guides -/

/-- The element of some index among siblings is the last of them. -/
def isLast (es : List Element) (i : Nat) : Bool := i + 1 == es.length

/-- What a line about an element below siblings begins with: for each level above it a rail if there
is more to come there, and a mark for itself. -/
def guideAmong : List Element → Path → List Char
  | _, [] => []
  | es, [i] => if isLast es i then bend else fork
  | es, i :: j :: path =>
    (if isLast es i then gap else rail) ++
      guideAmong ((es[i]?.map children).getD []) (j :: path)

/-- What the line about the element at a path begins with. -/
def guide (e : Element) (path : Path) : List Char := guideAmong e.children path

/-- A guide takes four cells for every level. -/
theorem length_guideAmong (es : List Element) (path : Path) :
    (guideAmong es path).length = 4 * path.length := by
  fun_induction guideAmong es path with
  | case1 => rfl
  | case2 | case3 => rfl
  | case4 es i j path ih =>
    have hmark : (if isLast es i then gap else rail).length = 4 := by split <;> rfl
    rw [List.length_append, hmark, ih, List.length_cons (a := i), Nat.mul_succ, Nat.add_comm]

/-- The line of an element behind its guide, if there is room for it. -/
def lineBehind (width : Nat) (guide : List Char) (a : Attributes) : List (List Char) :=
  if guide.length < width then
    [guide ++ crop (width - guide.length) (Markup.bare (describe a).toList)]
  else []

theorem Legible.behind_eq {a : Attributes} (h : Legible a) (width : Nat)
    (first other : List Char) :
    behind first other (labelLines (width - first.length) a) = lineBehind width first a := by
  rw [h.labelLines_eq, lineBehind]
  by_cases hroom : first.length < width
  · rw [if_neg (Nat.sub_ne_zero_of_lt hroom), if_pos hroom]
    rfl
  · rw [if_pos (Nat.sub_eq_zero_of_le (Nat.le_of_not_lt hroom)), if_neg hroom]
    rfl

/-! ## 3. Lines -/

/-- A guide that goes on below an element of some mark. -/
def guideBelow (mark below : List Char) (es : List Element) (path : Path) : List Char :=
  if path = [] then mark else below ++ guideAmong es path

theorem guideAmong_cons (es : List Element) (i : Nat) (path : Path) :
    guideAmong es (i :: path) =
      guideBelow (if isLast es i then bend else fork) (if isLast es i then gap else rail)
        ((es[i]?.map children).getD []) path := by
  cases path <;> rfl

mutual

theorem drawNode_eq (width : Nat) (path : Path) (guides mark below : List Char) : ∀ e : Element,
    (∀ n ∈ e.preorderFrom path, Legible n.attributes) →
    drawNode width guides mark below e = (e.preorderFrom path).flatMap fun n =>
      lineBehind width (guides ++ guideBelow mark below e.children (n.path.drop path.length))
        n.attributes
  | .node a cs, h => by
    rw [preorderFrom, List.forall_mem_cons] at h
    have ha : Legible a := h.1
    rw [drawNode, preorderFrom, List.flatMap_cons, ha.behind_eq,
      drawAll_eq width path (guides ++ below) 0 cs cs rfl h.2, List.drop_length, guideBelow,
      if_pos rfl]
    refine congrArg (lineBehind width (guides ++ mark) a ++ ·) (List.flatMap_congr fun n hn => ?_)
    rcases mem_preorderAll.mp hn with ⟨k, p, hpath, -⟩
    rw [hpath, List.drop_left, guideBelow, if_neg (List.cons_ne_nil _ _), List.append_assoc,
      children_node]

/-- `all` are the siblings of which those from index `i` on are drawn. -/
theorem drawAll_eq (width : Nat) (path : Path) (guides : List Char) (i : Nat) (all : List Element) :
    ∀ es : List Element, all.drop i = es →
    (∀ n ∈ preorderAll path i es, Legible n.attributes) →
    drawAll width guides es = (preorderAll path i es).flatMap fun n =>
      lineBehind width (guides ++ guideAmong all (n.path.drop path.length)) n.attributes
  | [], _, _ => rfl
  | e :: es, hall, h => by
    rw [preorderAll, List.forall_mem_append] at h
    have htail : all.drop (i + 1) = es := by
      rw [← List.tail_drop, hall, List.tail_cons]
    have hget : all[i]? = some e := by
      rw [← List.head?_drop, hall, List.head?_cons]
    have hlast : es.isEmpty = isLast all i := by
      have hlength := congrArg List.length hall
      rw [List.length_drop, List.length_cons] at hlength
      rw [Bool.eq_iff_iff, List.isEmpty_iff_length_eq_zero, isLast, beq_iff_eq]
      omega
    rw [drawAll, preorderAll, List.flatMap_append, drawNode_eq width (path ++ [i]) _ _ _ e h.1,
      drawAll_eq width path guides (i + 1) all es htail h.2]
    -- below this sibling paths go on behind its own index
    refine congrArg (· ++ _) (List.flatMap_congr fun n hn => ?_)
    rcases mem_preorderFrom.mp hn with ⟨p, hpath, -⟩
    rw [hpath, List.drop_left, List.append_assoc, List.singleton_append, List.drop_left,
      guideAmong_cons, hget, hlast]
    rfl

end

/-- The line that is drawn of an element. -/
def shownLine (width : Nat) (e : Element) (n : Located) : List Char :=
  guide e n.path ++
    crop (width - 4 * n.path.length) (Markup.bare (describe n.attributes).toList)

/-- The line about an element with all that is said of it. -/
def fullLine (e : Element) (n : Located) : List Char :=
  guide e n.path ++ (describe n.attributes).toList

theorem length_guide (e : Element) (path : Path) : (guide e path).length = 4 * path.length :=
  length_guideAmong e.children path

theorem not_mem_guideAmong (es : List Element) (path : Path) : '\n' ∉ guideAmong es path := by
  fun_induction guideAmong es path with
  | case1 | case2 | case3 => decide
  | case4 es i j path ih =>
    have hmark : '\n' ∉ (if isLast es i then gap else rail) := by split <;> decide
    exact fun hmem => (List.mem_append.mp hmem).elim hmark ih

theorem Legible.not_mem_describe {a : Attributes} (h : Legible a) : '\n' ∉ (describe a).toList :=
  fun hmem => absurd (h.isPrintable_of_mem hmem) (by decide)

theorem Legible.not_mem_fullLine {n : Located} (h : Legible n.attributes) (e : Element) :
    '\n' ∉ fullLine e n := fun hmem =>
  (List.mem_append.mp hmem).elim (not_mem_guideAmong _ _) h.not_mem_describe

theorem Legible.not_mem_shownLine {n : Located} (h : Legible n.attributes) (width : Nat)
    (e : Element) : '\n' ∉ shownLine width e n := by
  intro hmem
  rcases List.mem_append.mp hmem with hguide | hlabel
  · exact not_mem_guideAmong _ _ hguide
  · rcases mem_crop hlabel with hlabel | hblank
    · exact h.not_mem_describe ((Markup.bare_sublist _).subset hlabel)
    · exact absurd hblank (by decide)

theorem lineBehind_guide (width : Nat) (e : Element) (n : Located) :
    lineBehind width (guide e n.path) n.attributes =
      if 4 * n.path.length < width then [shownLine width e n] else [] := by
  rw [lineBehind, length_guide, shownLine]

/-- A drawn tree has a line for each element that has room, in document order. -/
theorem draw_eq {e : Element} (h : ∀ n ∈ e.preorder, Legible n.attributes) (width : Nat) :
    (draw width e).map String.toList =
      (e.preorder.filter (4 * ·.path.length < width)).map (shownLine width e) := by
  have hguide (path : Path) : guideBelow [] [] e.children path = guide e path := by
    cases path <;> rfl
  have htext : String.toList ∘ String.ofList = id := funext fun _ => String.toList_ofList
  rw [draw, List.map_map, htext, List.map_id, drawNode_eq width [] [] [] [] e h]
  simp only [List.nil_append, List.length_nil, List.drop_zero, hguide, lineBehind_guide]
  -- an element without room has no line
  change List.flatMap _ e.preorder = _
  induction e.preorder with
  | nil => rfl
  | cons n ns ih =>
    rw [List.flatMap_cons, ih, List.filter_cons]
    by_cases hroom : 4 * n.path.length < width
    · rw [if_pos hroom, if_pos (decide_eq_true hroom)]
      rfl
    · rw [if_neg hroom, if_neg (by simpa using hroom)]
      rfl

/-- The line of an element with room is full just if the page reaches for it and every backslash
before a bracket stands before a tag. -/
theorem shownLine_eq_fullLine_iff {width : Nat} (e : Element) {n : Located}
    (hroom : 4 * n.path.length < width) :
    shownLine width e n = fullLine e n ↔
      4 * n.path.length + cells (describe n.attributes).toList ≤ width ∧
        Markup.Opens (describe n.attributes).toList := by
  rw [shownLine, fullLine, List.append_cancel_left_eq]
  constructor
  · intro hline
    have hcells := cells_crop_le (Nat.sub_pos_of_lt hroom)
      (Markup.bare (describe n.attributes).toList)
    rw [hline] at hcells
    rw [crop_of_le ((cells_le_of_sublist (Markup.bare_sublist _)).trans hcells),
      Markup.bare_eq_self_iff] at hline
    exact ⟨by omega, hline⟩
  · rintro ⟨hcells, hopens⟩
    rw [(Markup.bare_eq_self_iff _).mpr hopens, crop_of_le (by omega)]

/-- What is said of an element takes at least its bracket. -/
theorem cells_describe_pos (a : Attributes) : 0 < cells (describe a).toList := by
  rcases exists_describe_eq a with ⟨cs, hcs⟩
  have hbracket : cellsOf '[' = 1 := rfl
  rw [hcs, cells_cons, hbracket]
  exact Nat.le_add_right _ _

/-- **A drawn tree shows every element in full just if** the page reaches for all that is said of
each, and no text that is shown has a backslash before a bracket which opens no tag. -/
theorem draw_eq_full_iff {e : Element} (h : ∀ n ∈ e.preorder, Legible n.attributes)
    (width : Nat) :
    (draw width e).map String.toList = e.preorder.map (fullLine e) ↔
      ∀ n ∈ e.preorder, 4 * n.path.length + cells (describe n.attributes).toList ≤ width ∧
        Markup.Opens (describe n.attributes).toList := by
  rw [draw_eq h width]
  constructor
  · intro hlines n hn
    have hall := List.length_filter_eq_length_iff.mp
      ((List.length_map (shownLine width e)).symm.trans ((congrArg List.length hlines).trans
        (List.length_map (fullLine e))))
    rw [List.filter_eq_self.mpr hall] at hlines
    exact (shownLine_eq_fullLine_iff e (of_decide_eq_true (hall n hn))).mp
      (List.map_inj_left.mp hlines n hn)
  · intro hfull
    have hroom (n : Located) (hn : n ∈ e.preorder) : 4 * n.path.length < width :=
      Nat.lt_of_lt_of_le (Nat.lt_add_of_pos_right (cells_describe_pos _)) (hfull n hn).1
    rw [List.filter_eq_self.mpr fun n hn => decide_eq_true (hroom n hn)]
    exact List.map_congr_left fun n hn =>
      (shownLine_eq_fullLine_iff e (hroom n hn)).mpr (hfull n hn)

end UiTree.Element
