import Mathlib.Data.List.TakeWhile
import UiTree.Command.Options

/-!
# Spellings — one command in many words

The options of a command may stand anywhere between its operands, each with its value behind it or
behind an equals sign, and two dashes end them.  However a command is spelled, taking it apart
gives the same options and operands.
-/

namespace UiTree.Command

open UiTree.Text

/-- Taken for an operand wherever it stands. -/
def Undashed (arg : String) : Prop := arg.toList.head? ≠ some '-' ∨ arg = "-"

instance (arg : String) : Decidable (Undashed arg) := inferInstanceAs (Decidable (_ ∨ _))

/-- A name that an option can have. -/
structure OptionName (name : String) : Prop where
  dashed : ¬ Undashed name
  ne_end : name ≠ "--"
  unbroken : '=' ∉ name.toList

/-- All its options with a value have names that options can have. -/
def Grammar.WellNamed (g : Grammar) : Prop := ∀ name ∈ g.valued, OptionName name

/-- The arguments come to these options and operands. -/
inductive Spelled (g : Grammar) : List (String × String) → List String → List String → Prop
  | done : Spelled g [] [] []
  | operand {options : List (String × String)} {operands args : List String} {x : String}
      (hx : Undashed x) (h : Spelled g options operands args) :
      Spelled g options (x :: operands) (x :: args)
  | option {options : List (String × String)} {operands args : List String} {name : String}
      (value : String) (hname : name ∈ g.valued) (h : Spelled g options operands args) :
      Spelled g ((name, value) :: options) operands (name :: value :: args)
  | joined {options : List (String × String)} {operands args : List String} {name : String}
      (value : String) (hname : name ∈ g.valued) (h : Spelled g options operands args) :
      Spelled g ((name, value) :: options) operands ((name ++ "=" ++ value) :: args)
  /-- Behind two dashes everything is an operand. -/
  | ended (operands : List String) : Spelled g [] operands ("--" :: operands)

theorem Undashed.ne_end {arg : String} (h : Undashed arg) : arg ≠ "--" := by
  rintro rfl
  exact absurd h (by decide)

theorem scan_operand {g : Grammar} (hg : g.interspersed = true) {x : String} (hx : Undashed x)
    (args : List String) : scan g (x :: args) = (scan g args).map (·.withOperands [x]) := by
  have hdash : ¬ (x.toList.head? == some '-' && x != "-") = true := by
    rw [Bool.and_eq_true, beq_iff_eq, bne_iff_ne]
    rintro ⟨hhead, hne⟩
    exact hx.elim (absurd hhead) hne
  rw [scan, if_neg (mt beq_iff_eq.mp hx.ne_end), if_neg hdash, if_pos hg]

theorem splitValue_of_unbroken {name : String} (h : '=' ∉ name.toList) :
    splitValue name = (name, none) := by
  have hnone : name.toList.dropWhile (· != '=') = [] := by
    rw [List.dropWhile_eq_nil_iff]
    intro c hc
    exact bne_iff_ne.mpr fun heq => h (heq ▸ hc)
  rw [splitValue]
  simp only [hnone]

theorem toList_joined (name value : String) :
    (name ++ "=" ++ value).toList = name.toList ++ '=' :: value.toList := by
  rw [String.toList_append, String.toList_append, List.append_assoc]
  rfl

theorem splitValue_joined {name : String} (h : '=' ∉ name.toList) (value : String) :
    splitValue (name ++ "=" ++ value) = (name, some value) := by
  have hbefore : ∀ c ∈ name.toList, (c != '=') = true := fun c hc =>
    bne_iff_ne.mpr fun heq => h (heq ▸ hc)
  have hdrop : (name ++ "=" ++ value).toList.dropWhile (· != '=') = '=' :: value.toList := by
    rw [toList_joined, List.dropWhile_append_of_pos hbefore]
    rfl
  have htake : (name ++ "=" ++ value).toList.takeWhile (· != '=') = name.toList := by
    rw [toList_joined, List.takeWhile_append_of_pos hbefore]
    exact List.append_nil _
  rw [splitValue]
  simp only [hdrop, htake, String.ofList_toList]

theorem OptionName.dashed_joined {name : String} (h : OptionName name) (value : String) :
    ¬ Undashed (name ++ "=" ++ value) ∧ name ++ "=" ++ value ≠ "--" := by
  have hchars := toList_joined name value
  have heq : '=' ∈ (name ++ "=" ++ value).toList := by
    rw [hchars]
    exact List.mem_append_right _ List.mem_cons_self
  have hdashed := h.dashed
  rw [Undashed, not_or, not_not] at hdashed ⊢
  refine ⟨⟨?_, ?_⟩, ?_⟩
  · rw [hchars, List.head?_append, hdashed.1]
    rfl
  · intro hdash
    rw [hdash] at heq
    exact absurd heq (by decide)
  · intro hend
    rw [hend] at heq
    exact absurd heq (by decide)

/-- An argument that is split into the name of an option and perhaps a value is that option. -/
theorem scan_option {g : Grammar} {name arg : String} {value? : Option String}
    (hname : name ∈ g.valued) (hsplit : splitValue arg = (name, value?))
    (hdashed : ¬ Undashed arg) (hend : arg ≠ "--") (args : List String) :
    scan g (arg :: args) = match value?, args with
      | some value, args => (scan g args).map (·.withOption name value)
      | none, value :: rest => (scan g rest).map (·.withOption name value)
      | none, [] => .error (.missingValue name) := by
  have hdash : (arg.toList.head? == some '-' && arg != "-") = true := by
    rw [Undashed, not_or, not_not] at hdashed
    rw [Bool.and_eq_true, beq_iff_eq, bne_iff_ne]
    exact hdashed
  rw [scan, if_neg (mt beq_iff_eq.mp hend), if_pos hdash]
  simp only [hsplit, List.contains_iff_mem.mpr hname, if_true]
  cases value? with
  | some value => rfl
  | none => cases args <;> rfl

/-! ## All arguments -/

/-- However a command is spelled, taking it apart gives its options and operands. -/
theorem Spelled.scan_eq {g : Grammar} (hg : g.WellNamed) (hinterspersed : g.interspersed = true)
    {options : List (String × String)} {operands args : List String}
    (h : Spelled g options operands args) :
    scan g args = .ok { options, operands } := by
  -- two dashes end the spelling, so that they are a base case like the end of the arguments
  induction h with
  | done => rw [scan]
  | operand hx _ ih =>
    rw [scan_operand hinterspersed hx, ih]
    rfl
  | option value hname _ ih =>
    have hoption := hg _ hname
    rw [scan_option hname (splitValue_of_unbroken hoption.unbroken) hoption.dashed hoption.ne_end]
    simp only [ih]
    rfl
  | joined value hname _ ih =>
    have hoption := hg _ hname
    have hjoined := hoption.dashed_joined value
    rw [scan_option hname (splitValue_joined hoption.unbroken value) hjoined.1 hjoined.2]
    simp only [ih]
    rfl
  | ended operands => rw [scan, if_pos (beq_self_eq_true _)]

end UiTree.Command
