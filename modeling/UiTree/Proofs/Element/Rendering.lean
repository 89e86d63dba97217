import UiTree.Proofs.Element.DocumentOrder
import UiTree.Proofs.Text.Pieces

/-!
# Rendering — an element tree as lines of text, and back

A tree is rendered with one line per element, in document order, as long as no text that is shown
has a line break of its own.  Such lines give back the shape of the tree: an element's text starts
with a bracket, so that the blanks before it tell the depth, and the depths tell what is below what.
-/

namespace UiTree.Element

open UiTree.Text

/-! ## 1. From elements to lines -/

mutual

theorem outline_length_eq (path : Path) : ∀ e : Element,
    outline path.length e = (e.preorderFrom path).map fun n => (n.path.length, n.attributes)
  | .node a cs => by
    rw [outline, preorderFrom, List.map_cons, outlineAll_length_eq path 0 cs]
    rfl

theorem outlineAll_length_eq (path : Path) (i : Nat) : ∀ es : List Element,
    outlineAll (path.length + 1) es =
      (preorderAll path i es).map fun n => (n.path.length, n.attributes)
  | [] => rfl
  | e :: es => by
    have hlength : (path ++ [i]).length = path.length + 1 := by simp
    rw [outlineAll, preorderAll, List.map_append, outlineAll_length_eq path (i + 1) es, ← hlength,
      outline_length_eq (path ++ [i]) e]

end

/-- The outline goes through the elements in document order. -/
theorem outline_eq (e : Element) :
    outline 0 e = e.preorder.map fun n => (n.path.length, n.attributes) :=
  outline_length_eq [] e

mutual

theorem length_outline (depth : Nat) : ∀ e : Element, (outline depth e).length = e.size
  | .node a cs => by rw [outline, List.length_cons, length_outlineAll (depth + 1) cs, size]

theorem length_outlineAll (depth : Nat) : ∀ es : List Element,
    (outlineAll depth es).length = sizeAll es
  | [] => rfl
  | e :: es => by
    rw [outlineAll, List.length_append, length_outline depth e, length_outlineAll depth es, sizeAll]

end

theorem length_preorder (e : Element) : e.preorder.length = e.size := by
  rw [← length_outline 0 e, outline_eq, List.length_map]

theorem toList_renderLine (indent : Int) (line : Nat × Attributes) :
    (renderLine indent line).toList =
      List.replicate (2 * (indent + line.1)).toNat ' ' ++ (describe line.2).toList := by
  rw [renderLine, String.toList_append, String.toList_ofList]

theorem toList_render (indent : Int) (e : Element) :
    (render indent e).toList =
      ['\n'].intercalate ((outline 0 e).map fun line => (renderLine indent line).toList) := by
  rw [render, String.toList_intercalate, List.map_map]
  rfl

theorem outline_ne_nil (depth : Nat) (e : Element) : outline depth e ≠ [] := by
  cases e
  exact List.cons_ne_nil _ _

/-! ## 2. Texts on one line -/

/-- The texts that a line about an element shows. -/
def shownTexts (a : Attributes) : List String :=
  a.role.toList ++ a.title.toList ++ a.identifier.toList ++ a.value.toList

/-- No text that is shown has a line break. -/
def OnOneLine (a : Attributes) : Prop := ∀ s ∈ shownTexts a, '\n' ∉ s.toList

instance (a : Attributes) : Decidable (OnOneLine a) := List.decidableBAll _ _

/-- The text about an element starts with a bracket. -/
theorem exists_describe_eq (a : Attributes) : ∃ cs, (describe a).toList = '[' :: cs := by
  rw [describe, String.toList_append, String.toList_append]
  exact ⟨_, rfl⟩

theorem mem_describe_iff (a : Attributes) :
    '\n' ∈ (describe a).toList ↔ ∃ s ∈ shownTexts a, '\n' ∈ s.toList := by
  -- the name in front of a text has no line break
  have hpart : ∀ (name : String), '\n' ∉ name.toList → ∀ t : Option String,
      (∃ s ∈ (t.map (name ++ ·)).toList, '\n' ∈ s.toList) ↔ ∃ s ∈ t.toList, '\n' ∈ s.toList := by
    intro name hname t
    cases t with
    | none => rfl
    | some s => simp [String.toList_append, hname]
  rw [describe, String.toList_append, String.toList_append, List.mem_append, List.mem_append,
    String.toList_intercalate, mem_intercalate (by decide)]
  simp only [shownTexts, List.mem_map, exists_exists_and_eq_and, List.mem_append, or_and_right,
    exists_or]
  rw [hpart "role=" (by decide), hpart "title=" (by decide), hpart "#" (by decide),
    hpart "value=" (by decide)]
  simp

theorem not_mem_describe_iff (a : Attributes) : '\n' ∉ (describe a).toList ↔ OnOneLine a := by
  rw [mem_describe_iff, OnOneLine]
  push Not
  rfl

/-! ## 3. The lines of a rendered tree -/

/-- The line of an element in a text that starts `indent` levels in. -/
def lineOf (indent : Nat) (n : Located) : List Char :=
  List.replicate (2 * (indent + n.path.length)) ' ' ++ (describe n.attributes).toList

theorem toList_render_lineOf (indent : Nat) (e : Element) :
    (render indent e).toList = ['\n'].intercalate (e.preorder.map (lineOf indent)) := by
  rw [toList_render, outline_eq, List.map_map]
  congr 1
  apply List.map_congr_left
  intro n hn
  have hblanks : (2 * ((indent : Int) + n.path.length)).toNat = 2 * (indent + n.path.length) := by
    omega
  rw [Function.comp_apply, toList_renderLine, hblanks, lineOf]

theorem mem_lineOf_iff (indent : Nat) (n : Located) :
    '\n' ∈ lineOf indent n ↔ ¬ OnOneLine n.attributes := by
  rw [lineOf, List.mem_append, ← not_mem_describe_iff]
  simp

theorem preorder_ne_nil (e : Element) : e.preorder ≠ [] := by
  cases e
  exact List.cons_ne_nil _ _

/-- **A line per element, when no text is broken.**  A rendered tree is made of the lines of its
elements in document order, each two blanks in for every level.  An element whose texts have line
breaks takes one line more for each of them: the text has as many lines as the tree has elements
when no text that is shown has a line break, and then they are the elements' lines. -/
theorem render_lines (indent : Nat) (e : Element) :
    splitAt '\n' (render indent e).toList =
      e.preorder.flatMap (fun n => splitAt '\n' (lineOf indent n)) ∧
    ((splitAt '\n' (render indent e).toList).length = e.size ↔
      ∀ n ∈ e.preorder, OnOneLine n.attributes) ∧
    (splitAt '\n' (render indent e).toList = e.preorder.map (lineOf indent) ↔
      ∀ n ∈ e.preorder, OnOneLine n.attributes) := by
  have hlines : splitAt '\n' (render indent e).toList =
      e.preorder.flatMap (fun n => splitAt '\n' (lineOf indent n)) := by
    rw [toList_render_lineOf, splitAt_intercalate_flatMap (by simp [preorder_ne_nil]),
      List.flatMap_map]
  have hjoined : (∀ n ∈ e.preorder, OnOneLine n.attributes) →
      splitAt '\n' (render indent e).toList = e.preorder.map (lineOf indent) := by
    intro hall
    rw [toList_render_lineOf, splitAt_intercalate _ (by simp [preorder_ne_nil])]
    rintro line hline hbreak
    rcases List.mem_map.mp hline with ⟨n, hn, rfl⟩
    exact (mem_lineOf_iff indent n).mp hbreak (hall n hn)
  -- each break makes a line too many
  have hcount : (splitAt '\n' (render indent e).toList).length = e.size →
      ∀ n ∈ e.preorder, OnOneLine n.attributes := by
    intro hlength n hn
    rw [hlines, ← List.flatMap_map, length_flatMap_splitAt, List.length_map, length_preorder,
      Nat.add_eq_right, List.count_eq_zero] at hlength
    by_contra hbreak
    have hline : '\n' ∈ lineOf indent n := (mem_lineOf_iff indent n).mpr hbreak
    exact hlength (List.mem_flatten.mpr ⟨_, List.mem_map_of_mem hn, hline⟩)
  refine ⟨hlines, ⟨hcount, ?_⟩, ⟨?_, hjoined⟩⟩
  · intro hall
    rw [hjoined hall, List.length_map, length_preorder]
  · intro heq
    apply hcount
    rw [heq, List.length_map, length_preorder]

/-! ### A title on two lines -/

/-- A lone element with a line break in its title. -/
def brokenTitle : Element := .node { title := some "a\nb" } []

theorem not_render_lines_of_brokenTitle :
    ¬ ∀ (indent : Nat) (e : Element),
      (splitAt '\n' (render indent e).toList).length = e.size ∧
        splitAt '\n' (render indent e).toList = e.preorder.map (lineOf indent) := by
  intro h
  have hlines := (h 0 brokenTitle).1
  revert hlines
  decide

/-! ## 4. From lines back to elements -/

/-- The line about the element at a path, if there is one. -/
def shown? (e : Element) (path : Path) : Option String := (e.attributes? path).map describe

theorem shown?_cons (a : Attributes) (cs : List Element) (i : Nat) (path : Path) :
    (node a cs).shown? (i :: path) = cs[i]?.bind (·.shown? path) := by
  rw [shown?, attributes?, get?_cons, children_node, Option.map_bind, Option.map_bind]
  rfl

/-- An entry of an outline as it is shown. -/
def shownEntry (line : Nat × Attributes) : Nat × String := (line.1, describe line.2)

/-- The entries go on less deep, if they go on. -/
def Ascends (depth : Nat) (entries : List (Nat × String)) : Prop :=
  ∀ entry ∈ entries.head?, entry.1 < depth

theorem head?_outlineAll (depth : Nat) (e : Element) (es : List Element)
    (entries : List (Nat × String)) :
    ((outlineAll depth (e :: es)).map shownEntry ++ entries).head? =
      some (depth, describe e.attributes) := by
  cases e
  rfl

theorem ascends_outlineAll (depth : Nat) (es : List Element) {entries : List (Nat × String)}
    (h : Ascends depth entries) :
    Ascends (depth + 1) ((outlineAll depth es).map shownEntry ++ entries) := by
  intro entry hentry
  cases es with
  | nil => exact Nat.lt_succ_of_lt (h entry hentry)
  | cons e es =>
    rw [head?_outlineAll, Option.mem_some_iff] at hentry
    rw [← hentry]
    exact Nat.lt_succ_self depth

theorem not_ascends_outlineAll (depth : Nat) (e : Element) (es : List Element)
    (entries : List (Nat × String)) :
    ¬ Ascends depth ((outlineAll depth (e :: es)).map shownEntry ++ entries) := by
  intro h
  exact Nat.lt_irrefl depth (h _ (head?_outlineAll depth e es entries))

/-- What follows on a row of trees starts less deep than they do, so that the entries tell where the
row ends and how each tree is made. -/
theorem shown?_eq_of_outlineAll_eq (depth : Nat) (es fs : List Element)
    {more less : List (Nat × String)} (hmore : Ascends depth more) (hless : Ascends depth less)
    (h : (outlineAll depth es).map shownEntry ++ more =
      (outlineAll depth fs).map shownEntry ++ less) :
    (∀ (i : Nat) (path : Path), es[i]?.bind (·.shown? path) = fs[i]?.bind (·.shown? path)) ∧
      more = less := by
  match es, fs with
  | [], [] => exact ⟨fun _ _ => rfl, h⟩
  | [], f :: fs => exact absurd (h ▸ hmore) (not_ascends_outlineAll depth f fs less)
  | e :: es, [] => exact absurd (h ▸ hless) (not_ascends_outlineAll depth e es more)
  | .node a cs :: es, .node b ds :: fs =>
    simp only [outlineAll, outline, List.cons_append, List.map_cons, List.map_append,
      List.append_assoc, List.cons.injEq] at h
    rcases h with ⟨hhead, htail⟩
    rcases shown?_eq_of_outlineAll_eq (depth + 1) cs ds (ascends_outlineAll depth es hmore)
      (ascends_outlineAll depth fs hless) htail with ⟨hbelow, hrest⟩
    rcases shown?_eq_of_outlineAll_eq depth es fs hmore hless hrest with ⟨hbeside, hend⟩
    refine ⟨?_, hend⟩
    intro i path
    cases i with
    | succ i => exact hbeside i path
    | zero =>
      cases path with
      | nil => exact congrArg (fun entry : Nat × String => some entry.2) hhead
      | cons k path =>
        change (node a cs).shown? (k :: path) = (node b ds).shown? (k :: path)
        rw [shown?_cons, shown?_cons, hbelow k path]
termination_by sizeAll es
decreasing_by
  · simp only [sizeAll, size]; omega
  · simp only [sizeAll, size]; omega

mutual

theorem le_of_mem_outline (depth : Nat) : ∀ (e : Element), ∀ line ∈ outline depth e, depth ≤ line.1
  | .node a cs => by
    rw [outline, List.forall_mem_cons]
    refine ⟨Nat.le_refl depth, ?_⟩
    intro line hline
    exact Nat.le_of_succ_le (le_of_mem_outlineAll (depth + 1) cs line hline)

theorem le_of_mem_outlineAll (depth : Nat) : ∀ (es : List Element),
    ∀ line ∈ outlineAll depth es, depth ≤ line.1
  | [] => nofun
  | e :: es => by
    rw [outlineAll, List.forall_mem_append]
    exact ⟨le_of_mem_outline depth e, le_of_mem_outlineAll depth es⟩

end

/-- The blanks before a bracket can be counted. -/
theorem replicate_append_inj {m n : Nat} {cs ds : List Char}
    (h : List.replicate m ' ' ++ '[' :: cs = List.replicate n ' ' ++ '[' :: ds) :
    m = n ∧ cs = ds := by
  induction m generalizing n with
  | zero =>
    cases n with
    | zero => simpa using h
    | succ n => simp [List.replicate_succ] at h
  | succ m ih =>
    cases n with
    | zero => simp [List.replicate_succ] at h
    | succ n =>
      rw [List.replicate_succ, List.replicate_succ, List.cons_append, List.cons_append,
        List.cons.injEq] at h
      rcases ih h.2 with ⟨hmn, hcs⟩
      exact ⟨congrArg (· + 1) hmn, hcs⟩

/-- A line tells how far in it is and what it shows. -/
theorem renderLine_inj {indent : Int} {line other : Nat × Attributes}
    (h : (renderLine indent line).toList = (renderLine indent other).toList) :
    (2 * (indent + line.1)).toNat = (2 * (indent + other.1)).toNat ∧
      describe line.2 = describe other.2 := by
  rw [toList_renderLine, toList_renderLine] at h
  rcases exists_describe_eq line.2 with ⟨cs, hcs⟩
  rcases exists_describe_eq other.2 with ⟨ds, hds⟩
  rw [hcs, hds] at h
  rcases replicate_append_inj h with ⟨hblanks, htext⟩
  refine ⟨hblanks, ?_⟩
  rw [← String.toList_inj, hcs, hds, htext]

/-- Behind the margin the lines tell the entries. -/
theorem shownEntries_eq_of_lines_eq {indent : Int} {depth : Nat} (hdepth : 0 ≤ indent + depth) :
    ∀ {lines others : List (Nat × Attributes)}, (∀ line ∈ lines, depth ≤ line.1) →
      (∀ line ∈ others, depth ≤ line.1) →
      (lines.map fun line => (renderLine indent line).toList) =
        (others.map fun line => (renderLine indent line).toList) →
      lines.map shownEntry = others.map shownEntry
  | [], [], _, _, _ => rfl
  | [], _ :: _, _, _, h => nomatch h
  | _ :: _, [], _, _, h => nomatch h
  | line :: lines, other :: others, hlines, hothers, h => by
    rw [List.forall_mem_cons] at hlines hothers
    rw [List.map_cons, List.map_cons, List.cons.injEq] at h
    rcases renderLine_inj h.1 with ⟨hblanks, htext⟩
    have hline : line.1 = other.1 := by omega
    rw [List.map_cons, List.map_cons, shownEntry, shownEntry, hline, htext,
      shownEntries_eq_of_lines_eq hdepth hlines.2 hothers.2 h.2]

theorem splitAt_render (indent : Int) {e : Element}
    (he : ∀ n ∈ e.preorder, OnOneLine n.attributes) :
    splitAt '\n' (render indent e).toList =
      (outline 0 e).map fun line => (renderLine indent line).toList := by
  rw [toList_render, splitAt_intercalate _ (by simp [outline_ne_nil])]
  intro piece hpiece
  rw [outline_eq, List.map_map] at hpiece
  rcases List.mem_map.mp hpiece with ⟨n, hn, rfl⟩
  rw [Function.comp_apply, toList_renderLine, List.mem_append, not_or]
  exact ⟨by simp, (not_mem_describe_iff _).mpr (he n hn)⟩

/-- **A rendered tree keeps its shape.**  Two trees whose shown texts have no line breaks, and which
are rendered alike from the margin on or one level left of it, have elements at the same places and
show the same of each of them. -/
theorem shape_of_render_eq {indent : Int} (hindent : -1 ≤ indent) {e f : Element}
    (he : ∀ n ∈ e.preorder, OnOneLine n.attributes)
    (hf : ∀ n ∈ f.preorder, OnOneLine n.attributes) (h : render indent e = render indent f)
    (path : Path) : (e.attributes? path).map describe = (f.attributes? path).map describe := by
  rcases e with ⟨a, cs⟩
  rcases f with ⟨b, ds⟩
  have hlines := congrArg (fun text : String => splitAt '\n' text.toList) h
  simp only [splitAt_render indent he, splitAt_render indent hf, outline, Nat.zero_add,
    List.map_cons, List.cons.injEq] at hlines
  rcases hlines with ⟨hroot, hbelow⟩
  -- only the root can be left of the margin, so that the blanks of all others tell their depths
  have hentries : (outlineAll 1 cs).map shownEntry = (outlineAll 1 ds).map shownEntry :=
    shownEntries_eq_of_lines_eq (by omega) (le_of_mem_outlineAll 1 cs) (le_of_mem_outlineAll 1 ds)
      hbelow
  have hend : Ascends 1 [] := nofun
  have hshown := shown?_eq_of_outlineAll_eq 1 cs ds hend hend (by rw [hentries])
  cases path with
  | nil => exact congrArg some (renderLine_inj hroot).2
  | cons i path =>
    change (node a cs).shown? (i :: path) = (node b ds).shown? (i :: path)
    rw [shown?_cons, shown?_cons, hshown.1 i path]

/-! ### Trees that look alike -/

/-- A role that shows as a role and a title, above a lone button. -/
def wideRole : Element :=
  .node { role := some "a title=b" } [.node { role := some "AXButton" } []]

/-- A role and a title, above a lone button that has a label too. -/
def roleAndTitle : Element :=
  .node { role := some "a", title := some "b" }
    [.node { role := some "AXButton", label := some "Save" } []]

theorem shape_of_render_eq_wideRole :
    (∀ n ∈ wideRole.preorder, OnOneLine n.attributes) ∧
    (∀ n ∈ roleAndTitle.preorder, OnOneLine n.attributes) ∧
    render (-1) wideRole = render (-1) roleAndTitle ∧
    (wideRole.attributes? [0]).map describe = (roleAndTitle.attributes? [0]).map describe := by
  have hwide : ∀ n ∈ wideRole.preorder, OnOneLine n.attributes := by decide
  have hboth : ∀ n ∈ roleAndTitle.preorder, OnOneLine n.attributes := by decide
  have hrender : render (-1) wideRole = render (-1) roleAndTitle := by decide
  exact ⟨hwide, hboth, hrender, shape_of_render_eq (by decide) hwide hboth hrender [0]⟩

/-- Two levels left of the margin the children and the grandchildren of a root start alike. -/
theorem not_shape_of_render_eq_of_margin :
    ¬ ∀ (indent : Int) (e f : Element), (∀ n ∈ e.preorder, OnOneLine n.attributes) →
      (∀ n ∈ f.preorder, OnOneLine n.attributes) → render indent e = render indent f →
      ∀ path, (e.attributes? path).map describe = (f.attributes? path).map describe := by
  intro h
  have hshown := h (-2) (.node {} [.node {} [.node {} []]]) (.node {} [.node {} [], .node {} []])
    (by decide) (by decide) (by decide) [1]
  revert hshown
  decide

end UiTree.Element
