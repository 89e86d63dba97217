import UiTree.Proofs.Command.Running
import UiTree.Proofs.Element.Drawing
import UiTree.Proofs.Element.Ragged
import UiTree.Proofs.Selector.Reading

/-!
# Display — the tree of a snapshot on a terminal

The command that draws the tree of a snapshot ends well for every snapshot that is read, and puts
out one line for each element that has room on the page.  It shows what the elements are in full
only where the page reaches for it and markup takes nothing away.
-/

namespace UiTree.Command

open UiTree.Text Journal

/-- Lines as they are put out. -/
def onLines (lines : List (List Char)) : List Char := lines.flatMap (· ++ ['\n'])

theorem onLines_inj {lines others : List (List Char)} (hlines : ∀ line ∈ lines, '\n' ∉ line)
    (hothers : ∀ line ∈ others, '\n' ∉ line) : onLines lines = onLines others ↔ lines = others := by
  refine ⟨fun h => ?_, congrArg onLines⟩
  have hsplit := congrArg (splitAt '\n') h
  rw [onLines, onLines, splitAt_flatMap_closed hlines, splitAt_flatMap_closed hothers] at hsplit
  exact List.append_cancel_right hsplit

theorem isPrintable_blot : isPrintable blot = false := by decide +kernel

/-- What is printable has no halves. -/
theorem isWhole_describe {a : AttributesOf Ragged}
    (h : Element.Legible (a.mapTexts (Ragged.seen blot))) :
    (RaggedElement.describe a).isWhole = true := by
  apply Ragged.isWhole_of_not_mem_seen blot
  rw [← RaggedElement.seen_describe]
  intro hmem
  have hprintable := h.isPrintable_of_mem hmem
  rw [isPrintable_blot] at hprintable
  cases hprintable

mutual

theorem all_isWhole (path : Path) : ∀ t : RaggedElement,
    (∀ n ∈ (t.seen blot).preorderFrom path, Element.Legible n.attributes) →
    t.all (fun a => (RaggedElement.describe a).isWhole) = true
  | .node a cs, h => by
    rw [RaggedElement.seen, ElementOf.mapTexts, Element.preorderFrom, List.forall_mem_cons] at h
    rw [ElementOf.all, isWhole_describe h.1, allOf_isWhole path 0 cs h.2]
    rfl

theorem allOf_isWhole (path : Path) (i : Nat) : ∀ ts : List RaggedElement,
    (∀ n ∈ Element.preorderAll path i (ElementOf.mapTextsAll (Ragged.seen blot) ts),
      Element.Legible n.attributes) →
    ElementOf.allOf (fun a => (RaggedElement.describe a).isWhole) ts = true
  | [], _ => rfl
  | t :: ts, h => by
    rw [ElementOf.mapTextsAll, Element.preorderAll, List.forall_mem_append] at h
    rw [ElementOf.allOf, all_isWhole (path ++ [i]) t h.1, allOf_isWhole path (i + 1) ts h.2]
    rfl

end

section

variable {t : RaggedElement} (around : Surroundings)

theorem showTree_of_legible (h : ∀ n ∈ (t.seen blot).preorder, Element.Legible n.attributes) :
    showTree around t =
      { out := String.join (((t.seen blot).draw around.width).map (· ++ "\n")) } := by
  rw [showTree, if_pos (all_isWhole [] t h)]

theorem toList_out_showTree (h : ∀ n ∈ (t.seen blot).preorder, Element.Legible n.attributes) :
    (showTree around t).out.toList =
      onLines (((t.seen blot).draw around.width).map String.toList) := by
  rw [showTree_of_legible around h, String.toList_join, List.flatMap_map, onLines, List.flatMap_map]
  exact List.flatMap_congr fun line _ => String.toList_append

theorem ends_tree {j : Journal} {settings : Settings} {snapshot : String}
    (hsettings : Settings.load j.folder j.environment [] = .ok settings)
    (hload : Snapshot.load around.loader j.folder (Location.parse snapshot) = .ok t) :
    Ends around j .tree [] [snapshot] (.ok (showTree around t)) := by
  apply ends_of_perform hsettings .usual
  · exact SnapshotOperands.tree.checkOperands_eq (look_ne_of_load hload)
  · refine ⟨j, ?_⟩
    simp only [perform]
    rw [exec_withSnapshot, hload]
    rfl

end

/-- **The tree of a snapshot is shown as far as the page and markup allow.**  If what is shown of
its elements is printable and has no names of pictographs, the command ends well and puts out a line
for each element with room, in document order: its guides, and what is said of it up to the edge of
the page, without backslashes before brackets that open no tag.  These are lines about all elements
in full just if the page reaches for each of them and there are no such backslashes. -/
theorem tree_shown (around : Surroundings) {j : Journal} {settings : Settings} {snapshot : String}
    {t : RaggedElement} (hsettings : Settings.load j.folder j.environment [] = .ok settings)
    (hload : Snapshot.load around.loader j.folder (Location.parse snapshot) = .ok t)
    (hlegible : ∀ n ∈ (t.seen blot).preorder, Element.Legible n.attributes) :
    let e := t.seen blot
    let width := around.width
    ∃ out : String, Ends around j .tree [] [snapshot] (.ok { out }) ∧
      out.toList = onLines ((e.preorder.filter (4 * ·.path.length < width)).map
        (Element.shownLine width e)) ∧
      (out.toList = onLines (e.preorder.map (Element.fullLine e)) ↔
        ∀ n ∈ e.preorder,
          4 * n.path.length + cells (Element.describe n.attributes).toList ≤ width ∧
            Markup.Opens (Element.describe n.attributes).toList) := by
  intro e width
  have hshown : ∀ line ∈ (e.preorder.filter (4 * ·.path.length < width)).map
      (Element.shownLine width e), '\n' ∉ line := by
    refine List.forall_mem_map.mpr fun n hn => ?_
    exact (hlegible n (List.mem_of_mem_filter hn)).not_mem_shownLine width e
  have hfull : ∀ line ∈ e.preorder.map (Element.fullLine e), '\n' ∉ line :=
    List.forall_mem_map.mpr fun n hn => (hlegible n hn).not_mem_fullLine e
  have hlines := Element.draw_eq hlegible width
  have hends := ends_tree around hsettings hload
  have hout := toList_out_showTree around hlegible
  rw [showTree_of_legible around hlegible] at hends hout
  refine ⟨_, hends, ?_, ?_⟩
  · rw [hout, hlines]
  · rw [hout, hlines, onLines_inj hshown hfull, ← hlines, Element.draw_eq_full_iff hlegible]

/-! ### A backslash before a bracket -/

/-- A lone element with a bracket in its title that opens no tag, and a backslash before it. -/
def slashed : Element := .node { title := some "\\[A]" } []

/-- A journal beside the snapshot of the element. -/
def slashedShelf : Journal :=
  { folder :=
      { here := "/work", files := [(Location.parse "a.yaml", "title: \\[A]".toUTF8.toList)] } }

theorem load_slashedShelf :
    Snapshot.load {} slashedShelf.folder (Location.parse "a.yaml") = .ok slashed.ragged :=
  Selector.Grammar.eq_ok_of_toOption (by decide +kernel)

theorem legible_slashed : ∀ n ∈ (slashed.ragged.seen blot).preorder,
    Element.Legible n.attributes := by
  have hprintable : ∀ c ∈ "\\[A]".toList, isPrintable c = true := List.all_eq_true.mp (by decide)
  rw [RaggedElement.seen_ragged]
  exact List.forall_mem_singleton.mpr
    ⟨List.forall_mem_singleton.mpr hprintable, unnamed_of_not_mem (by decide)⟩

/-- The backslash is not put out. -/
theorem shownLines_slashed :
    onLines ((slashed.preorder.filter (4 * ·.path.length < 80)).map
      (Element.shownLine 80 slashed)) = "[title=[A]]\n".toList := by
  decide

theorem tree_shown_slashedShelf :
    Settings.load slashedShelf.folder slashedShelf.environment [] = .ok {} ∧
    Snapshot.load {} slashedShelf.folder (Location.parse "a.yaml") = .ok slashed.ragged ∧
    (∀ n ∈ (slashed.ragged.seen blot).preorder, Element.Legible n.attributes) ∧
    Ends {} slashedShelf .tree [] ["a.yaml"] (.ok { out := "[title=[A]]\n" }) := by
  have hsettings : Settings.load slashedShelf.folder slashedShelf.environment [] = .ok {} := rfl
  rcases tree_shown {} hsettings load_slashedShelf legible_slashed with ⟨out, hends, hout, -⟩
  rw [RaggedElement.seen_ragged, shownLines_slashed, String.toList_inj] at hout
  exact ⟨hsettings, load_slashedShelf, legible_slashed, hout ▸ hends⟩

theorem not_always_shown_in_full :
    ¬ ∀ (around : Surroundings) (j : Journal) (settings : Settings) (snapshot : String)
      (t : RaggedElement), Settings.load j.folder j.environment [] = .ok settings →
      Snapshot.load around.loader j.folder (Location.parse snapshot) = .ok t →
      (∀ n ∈ (t.seen blot).preorder, ∀ s ∈ Element.shownTexts n.attributes, ∀ c ∈ s.toList,
        isPrintable c = true) →
      ∃ out : String, Ends around j .tree [] [snapshot] (.ok { out }) ∧
        out.toList =
          onLines ((t.seen blot).preorder.map (Element.fullLine (t.seen blot))) := by
  intro h
  have hsettings : Settings.load slashedShelf.folder slashedShelf.environment [] = .ok {} := rfl
  rcases h {} slashedShelf {} "a.yaml" slashed.ragged hsettings load_slashedShelf
    fun n hn => (legible_slashed n hn).printable with ⟨out, hends, hout⟩
  have hsame := Ends.unique (.operand (by decide) .done) hends
    (ends_tree {} hsettings load_slashedShelf)
  have hshown := toList_out_showTree {} legible_slashed
  rw [← Except.ok.inj hsame, Element.draw_eq legible_slashed, RaggedElement.seen_ragged,
    shownLines_slashed] at hshown
  rw [hshown, RaggedElement.seen_ragged] at hout
  revert hout
  decide

end UiTree.Command
