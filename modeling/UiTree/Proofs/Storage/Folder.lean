import UiTree.Storage.Folder

/-!
# Folders — what a change leaves as it is

A text that was put into a file is found there.  Text that is added to a file changes no other file,
and making directories changes none.  What is a directory stays one.
-/

namespace UiTree.Folder

open UiTree.Text

variable {f g : Folder} {k l : Location}

/-- The octets of a file; none if it is not there. -/
def octets (f : Folder) (l : Location) : List UInt8 := (f.files.lookup l).getD []

/-! ## 1. Texts -/

theorem toList_loop (octets : ByteArray) (i : Nat) (done : List UInt8) :
    ByteArray.toList.loop octets i done = done.reverse ++ octets.data.toList.drop i := by
  fun_induction ByteArray.toList.loop octets i done with
  | case1 i done hi ih =>
    have hlength : i < octets.data.toList.length := hi
    have hget : octets.get! i = octets.data.toList[i] := by
      rw [Array.getElem_toList]
      exact getElem!_pos octets.data i hi
    rw [ih, List.drop_eq_getElem_cons hlength, List.reverse_cons, List.append_assoc,
      List.singleton_append, hget]
  | case2 i done hi =>
    have hlength : octets.data.toList.length ≤ i := Nat.le_of_not_lt hi
    rw [List.drop_eq_nil_of_le hlength, List.append_nil]

theorem utf8?_toUTF8 (s : String) : utf8? s.toUTF8.toList = some s := by
  have hoctets : (⟨s.toUTF8.toList.toArray⟩ : ByteArray) = s.toUTF8 := by
    rw [ByteArray.toList, toList_loop]
    rfl
  rw [utf8?, hoctets, String.fromUTF8?]
  exact dif_pos s.isValidUTF8

theorem universalLines_eq_self {cs : List Char} (h : '\r' ∉ cs) : universalLines cs = cs := by
  fun_induction universalLines cs with
  | case1 cs ih => exact absurd List.mem_cons_self h
  | case2 cs _ ih => exact absurd List.mem_cons_self h
  | case3 c cs _ _ ih => rw [ih fun hmem => h (List.mem_cons_of_mem c hmem)]
  | case4 => rfl

/-- A text without carriage returns is that of the file it is put into. -/
theorem textOf_toUTF8 {s : String} (h : '\r' ∉ s.toList) : textOf s.toUTF8.toList = some s := by
  rw [textOf, utf8?_toUTF8, Option.map_some, universalLines_eq_self h, String.ofList_toList]

/-! ## 2. Files -/

/-- New octets for one location are found there, if something was. -/
theorem lookup_map_replace (files : List (Location × List UInt8)) (k l : Location)
    (new : List UInt8) :
    (files.map fun (i, v) => if i == l then (i, new) else (i, v)).lookup k =
      if k = l then (files.lookup k).map fun _ => new else files.lookup k := by
  induction files with
  | nil => rw [List.map_nil, List.lookup_nil, Option.map_none, ite_self]
  | cons file files ih =>
    rcases file with ⟨i, v⟩
    rw [List.map_cons, List.lookup_cons]
    by_cases hil : i = l
    · subst hil
      simp only [beq_self_eq_true, if_true, List.lookup_cons]
      rw [ih]
      by_cases hk : k = i
      · subst hk
        simp
      · simp [hk, beq_eq_false_iff_ne.mpr hk]
    · simp only [beq_eq_false_iff_ne.mpr hil, Bool.false_eq_true, if_false, List.lookup_cons]
      rw [ih]
      by_cases hk : k = i
      · subst hk
        simp [hil]
      · simp [beq_eq_false_iff_ne.mpr hk]

theorem lookup_files_append (f : Folder) (k l : Location) (text : String) :
    (f.append l text).files.lookup k =
      if k = l then some (f.octets l ++ text.toUTF8.toList) else f.files.lookup k := by
  rw [append, octets]
  cases hl : f.files.lookup l with
  | none =>
    simp only [List.lookup_append]
    by_cases hk : k = l
    · subst hk
      simp [hl]
    · rw [if_neg hk, List.lookup_cons, beq_eq_false_iff_ne.mpr hk, List.lookup_nil, Option.or_none]
  | some old =>
    simp only [lookup_map_replace]
    by_cases hk : k = l
    · subst hk
      simp [hl]
    · rw [if_neg hk, if_neg hk]

theorem octets_append_self (f : Folder) (l : Location) (text : String) :
    (f.append l text).octets l = f.octets l ++ text.toUTF8.toList := by
  rw [octets, lookup_files_append, if_pos rfl, Option.getD_some]

theorem octets_append_of_ne (f : Folder) (text : String) (h : k ≠ l) :
    (f.append l text).octets k = f.octets k := by
  rw [octets, lookup_files_append, if_neg h, octets]

/-! ## 3. Directories -/

/-- Everything known in the one folder is known in the other. -/
structure Grows (f g : Folder) : Prop where
  directories : f.directories ⊆ g.directories
  files : f.files.map Prod.fst ⊆ g.files.map Prod.fst

theorem Grows.refl (f : Folder) : f.Grows f := ⟨List.Subset.refl _, List.Subset.refl _⟩

theorem Grows.trans {h : Folder} (hfg : f.Grows g) (hgh : g.Grows h) : f.Grows h :=
  ⟨List.Subset.trans hfg.directories hgh.directories,
    List.Subset.trans hfg.files hgh.files⟩

theorem isDirectory_of_grows (h : f.Grows g) (hl : f.isDirectory l = true) :
    g.isDirectory l = true := by
  simp only [isDirectory, holds, Bool.or_eq_true, List.any_eq_true] at hl ⊢
  rcases hl with (hup | hknown) | ⟨file, hfile, hinside⟩ | ⟨directory, hdirectory, hinside⟩
  · exact .inl (.inl hup)
  · exact .inl (.inr (List.contains_iff_mem.mpr (h.directories (List.contains_iff_mem.mp hknown))))
  · rcases List.mem_map.mp (h.files (List.mem_map_of_mem hfile)) with ⟨file', hfile', hsame⟩
    rw [← hsame] at hinside
    exact .inr (.inl ⟨file', hfile', hinside⟩)
  · exact .inr (.inr ⟨directory, h.directories hdirectory, hinside⟩)

/-- The locations of the files stay, whether or not there is a new one. -/
theorem grows_append (f : Folder) (l : Location) (text : String) : f.Grows (f.append l text) := by
  rw [append]
  cases f.files.lookup l with
  | none =>
    refine ⟨List.Subset.refl _, ?_⟩
    rw [List.map_append]
    exact List.subset_append_left _ _
  | some old =>
    refine ⟨List.Subset.refl _, fun k hk => ?_⟩
    rcases List.mem_map.mp hk with ⟨file, hfile, rfl⟩
    rw [List.map_map]
    refine List.mem_map.mpr ⟨file, hfile, ?_⟩
    dsimp only [Function.comp]
    split <;> rfl

theorem makeFrom_eq_ok {at' : Location} {names : List String}
    (h : f.makeFrom at' names = .ok g) : g.files = f.files ∧ f.Grows g := by
  fun_induction makeFrom f at' names with
  | case1 f at' =>
    cases h
    exact ⟨rfl, .refl _⟩
  | case2 f at' name names _ ih => exact ih h
  | case3 f at' name names _ next _ ih => exact ih h
  | case4 => cases h
  | case5 => cases h
  | case6 f at' name names _ next _ _ ih =>
    -- the new directory is added to those that were there
    rcases ih h with ⟨hfiles, hgrows⟩
    have hmade : f.Grows { f with directories := f.directories ++ [next] } :=
      ⟨List.subset_append_left _ _, List.Subset.refl _⟩
    exact ⟨hfiles, hmade.trans hgrows⟩

/-- Making directories changes no file. -/
theorem makeDirectories_eq_ok (h : f.makeDirectories l = .ok g) :
    g.files = f.files ∧ f.Grows g := makeFrom_eq_ok h

end UiTree.Folder
