import UiTree.Proofs.Command.Running
import UiTree.Proofs.Page.Static
import UiTree.Proofs.Settings.Bounds
import UiTree.Proofs.Snapshot.Json
import UiTree.Proofs.Wait.Budget

/-!
# Agreement — the commands about a selector

One command takes a selector apart, one looks for it in a snapshot, and one waits for a condition
of what is found.  They refuse the same selectors, and otherwise their exit codes say the same of
the tree, but for one case: a search that finds elements fails if it cannot put out what it says of
them.  Waiting takes no time unless it is in vain.
-/

namespace UiTree.Command

open UiTree.Text Journal

/-! ## 1. Waiting in vain -/

/-- What waiting for a condition of a fixed tree comes to. -/
def verdict (settings : Settings) (selector condition : String) (timeout : Int) (e : Element) :
    Outcome :=
  match Selector.parse selector with
  | .error f => .unusable f.message
  | .ok sel =>
    let check := checkOf condition
    if check.holds ((sel.findFirst? e).map (·.attributes)) then
      { out := shown s!"OK  {selector} {condition}\n" }
    else
      let message := (Failure.waitTimeout selector timeout (some check.description)).message
      { exit := 1, out := shown s!"FAIL {message}\n"
        waited := ⌈(timeout : ℚ) / settings.pollInterval⌉ * settings.pollInterval }

/-- The page that is waited for: the tree of the snapshot, which does not change. -/
def page (settings : Settings) (e : Element) : Session :=
  { frames := [{ tree := e }], live := false, dispatcherFrame := some 0
    timeout := settings.waitTimeout, interval := settings.pollInterval }

theorem still_page (settings : Settings) (e : Element) : (page settings e).Still := ⟨rfl, rfl⟩

/-- What is expected of the page. -/
def expected (settings : Settings) (selector : String) (timeout : Int) (e : Element) :
    Expectation :=
  Expectation.ofLocator ((page settings e).locator selector (some timeout)) none none

theorem expectation_eq (settings : Settings) (selector condition : String) (timeout : Int)
    (e : Element) :
    expectation settings selector condition timeout e =
      (page settings e).exec ((expected settings selector timeout e).check (checkOf condition)) :=
  rfl

/-- The page is asked as often as the settings say, for as long as the command is told to wait. -/
theorem wait_expected {settings : Settings} {timeout : Int} (hsettings : settings.Bounded)
    (htimeout : 1 ≤ timeout) (selector : String) (e : Element) (check : Check) :
    ((expected settings selector timeout e).wait check).pause = settings.pollInterval ∧
      ((expected settings selector timeout e).wait check).budget = timeout :=
  ⟨max_eq_right hsettings.pollInterval, max_eq_right (zero_le_one.trans htimeout)⟩

theorem exec_expect {settings : Settings} {timeout : Int} (hsettings : settings.Bounded)
    (htimeout : 1 ≤ timeout) {j : Journal} (hj : j.Unfailing)
    (time snapshot selector condition : String) (t : RaggedElement) :
    ∃ after, j.exec (expect time settings snapshot selector condition timeout t) =
      (.ok (verdict settings selector condition timeout (searched selector t)), after) := by
  generalize he : searched selector t = e
  have hstill := still_page settings e
  have hexpectation := expectation_eq settings selector condition timeout e
  rw [← he] at hexpectation
  rw [verdict]
  cases hparse : Selector.parse selector with
  | error f =>
    rcases Selector.Grammar.exists_message_of_parse hparse with ⟨message, rfl⟩
    have hexec := Expectation.exec_check_of_parse_eq_error
      (e := expected settings selector timeout e) hparse (checkOf condition) (page settings e)
    exact exec_expect_of_rejected hj time snapshot (hexpectation.trans (he ▸ hexec))
  | ok sel =>
    simp only []
    by_cases hholds :
        (checkOf condition).holds ((sel.findFirst? e).map (·.attributes)) = true
    · rcases hstill.exec_check_of_holds (e := expected settings selector timeout e) hparse
        (Int.lt_of_lt_of_le Int.zero_lt_one htimeout) hholds with ⟨notes, hexec⟩
      rw [if_pos hholds]
      exact exec_expect_of_passed hj time snapshot (hexpectation.trans (he ▸ hexec))
    · rcases hstill.exec_check_of_not_holds (e := expected settings selector timeout e) hparse
        hholds with ⟨n, notes, hn, hexec⟩
      rcases wait_expected hsettings htimeout selector e (checkOf condition) with
        ⟨hpause, hbudget⟩
      have hclock : (page settings e).clock = 0 := rfl
      rw [hpause, hbudget, hclock] at hn
      simp only [zero_add] at hn
      rw [hpause, hclock, zero_add, Wait.eq_ceil_of_isLeast hsettings.pollInterval
        (zero_le_one.trans htimeout) hn] at hexec
      rw [if_neg hholds]
      exact exec_expect_of_expired hj time snapshot (hexpectation.trans (he ▸ hexec))

/-! ## 2. Exit codes -/

/-- The parser rejects the selector. -/
def Rejected (selector : String) : Prop := ∃ f, Selector.parse selector = .error f

/-- The code that a search ends with, as long as it can put out what it found. -/
def searchExit (selector : String) (e : Element) : Nat :=
  match Selector.parse selector with
  | .error _ => 2
  | .ok sel => if (sel.findFirst? e).isSome then 0 else 1

/-- What is said of the elements found has no halves of characters. -/
def FoundWhole (selector : String) (t : RaggedElement) : Prop :=
  ∀ sel, Selector.parse selector = .ok sel → ∀ n ∈ sel.find (searched selector t),
    (RaggedElement.describe (t.attributesAt n.path)).isWhole = true

/-- What the commands that take a selector and wait for a condition of it came to agrees with the
code of a search: on the selectors they refuse, on what is there, and on the time it took. -/
structure Agree (selector : String) (e : Element) (timeout interval : Int) (parsed : Outcome)
    (found : Nat) (expected : String → Outcome) : Prop where
  parsed_rejected : parsed.exit = 2 ↔ Rejected selector
  found_rejected : found = 2 ↔ Rejected selector
  expected_rejected : ∀ c ∈ conditions, (expected c).exit = 2 ↔ Rejected selector
  parsed_exit : parsed.exit = 0 ∨ parsed.exit = 2
  found_exit : found = 0 ∨ found = 1 ∨ found = 2
  expected_exit : ∀ c ∈ conditions,
    (expected c).exit = 0 ∨ (expected c).exit = 1 ∨ (expected c).exit = 2
  found_iff : found = 0 ↔ ∃ sel, Selector.parse selector = .ok sel ∧ sel.find e ≠ []
  exists_iff : (expected "exists").exit = 0 ↔ found = 0
  notExists_iff : (expected "not-exists").exit = 0 ↔ found = 1
  enabled_xor_disabled : found = 0 →
    Xor ((expected "enabled").exit = 0) ((expected "disabled").exit = 0)
  enabled_of_not_found : found = 1 → (expected "enabled").exit = 1
  disabled_of_not_found : found = 1 → (expected "disabled").exit = 1
  found_of_focused : (expected "focused").exit = 0 → found = 0
  waited_of_exit_ne_one : ∀ c ∈ conditions, (expected c).exit ≠ 1 → (expected c).waited = 0
  waited_of_exit_eq_one : ∀ c ∈ conditions, (expected c).exit = 1 →
    (expected c).waited = ⌈(timeout : ℚ) / interval⌉ * interval

section

variable {selector : String} (settings : Settings) (timeout : Int) (e : Element)

/-- A selector that is rejected is no use to any command. -/
theorem agree_of_rejected {f : Failure} (hparse : Selector.parse selector = .error f) :
    Agree selector e timeout settings.pollInterval (showSelector selector) (searchExit selector e)
      fun c => verdict settings selector c timeout e := by
  have hrejected : Rejected selector := ⟨f, hparse⟩
  have hparsed : (showSelector selector).exit = 2 := by
    rw [showSelector, hparse]
    rfl
  have hfound : searchExit selector e = 2 := by rw [searchExit, hparse]
  have hverdict : ∀ c, (verdict settings selector c timeout e).exit = 2 ∧
      (verdict settings selector c timeout e).waited = 0 := by
    intro c
    rw [verdict, hparse]
    exact ⟨rfl, rfl⟩
  constructor
  case found_iff =>
    rw [hfound, hparse]
    simp
  all_goals simp [hrejected, hparsed, hfound, hverdict]

/-- A condition of an accepted selector holds of the first element found, or waiting for it is in
vain. -/
theorem verdict_of_accepted {sel : Selector} (hparse : Selector.parse selector = .ok sel)
    (c : String) :
    let o := verdict settings selector c timeout e
    let holds := (checkOf c).holds ((sel.findFirst? e).map (·.attributes))
    (holds = true ∧ o.exit = 0 ∧ o.waited = 0) ∨
      (holds = false ∧ o.exit = 1 ∧
        o.waited = ⌈(timeout : ℚ) / settings.pollInterval⌉ * settings.pollInterval) := by
  rw [verdict, hparse]
  simp only []
  split
  · rename_i hholds
    exact .inl ⟨hholds, rfl, rfl⟩
  · rename_i hholds
    exact .inr ⟨Bool.eq_false_iff.mpr hholds, rfl, rfl⟩

theorem exit_verdict {sel : Selector} (hparse : Selector.parse selector = .ok sel) (c : String) :
    (verdict settings selector c timeout e).exit =
      if (checkOf c).holds ((sel.findFirst? e).map (·.attributes)) then 0 else 1 := by
  rcases verdict_of_accepted settings timeout e hparse c with
    ⟨hholds, hexit, -⟩ | ⟨hholds, hexit, -⟩
  · rw [hholds, hexit, if_pos rfl]
  · rw [hholds, hexit, if_neg Bool.false_ne_true]

theorem agree_of_accepted {sel : Selector} (hparse : Selector.parse selector = .ok sel) :
    Agree selector e timeout settings.pollInterval (showSelector selector) (searchExit selector e)
      fun c => verdict settings selector c timeout e := by
  have haccepted : ¬ Rejected selector := by
    rintro ⟨f, hf⟩
    rw [hparse] at hf
    cases hf
  have hparsed : (showSelector selector).exit = 0 := by rw [showSelector, hparse]
  have hfound : searchExit selector e = if (sel.findFirst? e).isSome then 0 else 1 := by
    rw [searchExit, hparse]
  have hexit := exit_verdict settings timeout e hparse
  have hverdict := verdict_of_accepted settings timeout e hparse
  constructor
  case parsed_rejected => simp [hparsed, haccepted]
  case parsed_exit => exact .inl hparsed
  case found_rejected =>
    rw [hfound, iff_false_right haccepted]
    split <;> decide
  case found_exit =>
    rw [hfound]
    split <;> decide
  case found_iff =>
    rw [hfound, Selector.findFirst?]
    cases hsearch : sel.find e <;> simp [hparse, hsearch]
  case expected_rejected =>
    intro c _
    rcases hverdict c with ⟨-, hc, -⟩ | ⟨-, hc, -⟩ <;> simp [hc, haccepted]
  case expected_exit =>
    intro c _
    rcases hverdict c with ⟨-, hc, -⟩ | ⟨-, hc, -⟩ <;> simp [hc]
  case waited_of_exit_ne_one =>
    intro c _ hne
    rcases hverdict c with ⟨-, -, hwaited⟩ | ⟨-, hc, -⟩
    · exact hwaited
    · exact absurd hc hne
  case waited_of_exit_eq_one =>
    intro c _ hone
    rcases hverdict c with ⟨-, hc, -⟩ | ⟨-, -, hwaited⟩
    · rw [hc] at hone
      cases hone
    · exact hwaited
  -- what is left compares two commands, by what the first element found is like
  all_goals
    simp only [hfound, hexit, checkOf]
    cases sel.findFirst? e with
    | none => simp [Check.holds]
    | some n => cases henabled : n.attributes.enabled <;> simp [Check.holds, henabled]

theorem agree (selector : String) :
    Agree selector e timeout settings.pollInterval (showSelector selector) (searchExit selector e)
      fun c => verdict settings selector c timeout e := by
  cases hselector : Selector.parse selector with
  | error f => exact agree_of_rejected settings timeout e hselector
  | ok sel => exact agree_of_accepted settings timeout e hselector

end

/-! ## 3. What a search puts out -/

/-- Lines without halves are all put out, and the first line with one fails the command. -/
theorem print_cases (lines : List Ragged) :
    ((∀ line ∈ lines, line.isWhole = true) ∧
      (Outcome.print lines).exit = 0 ∧ (Outcome.print lines).raised = none) ∨
    ((¬ ∀ line ∈ lines, line.isWhole = true) ∧ (Outcome.print lines).exit = 1 ∧
      ∃ reason, (Outcome.print lines).raised = some (unencodable reason)) := by
  induction lines with
  | nil => exact .inl ⟨nofun, rfl, rfl⟩
  | cons line lines ih =>
    rw [List.forall_mem_cons, Outcome.print, ← line.isWhole_bare]
    rcases line.bare.encode_cases with ⟨hwhole, s, hs⟩ | ⟨hwhole, hs⟩
    · rw [hs, hwhole]
      simpa using ih
    · rw [hs, hwhole]
      exact .inr ⟨by simp, rfl, _, rfl⟩

theorem foundWhole_iff {selector : String} {sel : Selector}
    (hparse : Selector.parse selector = .ok sel) (t : RaggedElement) :
    FoundWhole selector t ↔ ∀ n ∈ sel.find (searched selector t),
      (RaggedElement.describe (t.attributesAt n.path)).isWhole = true := by
  simp only [FoundWhole, hparse, Except.ok.injEq, forall_eq']

/-- What a search says of the elements it found has a half just if one of their descriptions has. -/
theorem found_lines_isWhole_iff (t : RaggedElement) (title : String) (found : List Located) :
    (∀ line ∈ Ragged.ofString title :: found.map fun n =>
        .ofString " - " ++ RaggedElement.describe (t.attributesAt n.path), line.isWhole = true) ↔
      ∀ n ∈ found, (RaggedElement.describe (t.attributesAt n.path)).isWhole = true := by
  rw [List.forall_mem_cons, List.forall_mem_map, and_iff_right (Ragged.isWhole_ofString title)]
  simp only [Ragged.isWhole_append, Ragged.isWhole_ofString, Bool.true_and]

/-- A search that cannot put out what it found fails, and any other ends with its code. -/
theorem showFound_cases (selector : String) (t : RaggedElement) :
    let due := searchExit selector (searched selector t)
    (FoundWhole selector t ∧ (showFound selector t).exit = due ∧
      (showFound selector t).raised = none) ∨
    (¬ FoundWhole selector t ∧ due = 0 ∧ (showFound selector t).exit = 1 ∧
      ∃ reason, (showFound selector t).raised = some (unencodable reason)) := by
  intro due
  cases hparse : Selector.parse selector with
  | error f =>
    have hwhole : FoundWhole selector t := by
      rintro sel hsel
      rw [hparse] at hsel
      cases hsel
    have hdue : due = 2 := by simp only [due, searchExit, hparse]
    rw [showFound, hparse]
    exact .inl ⟨hwhole, hdue.symm, rfl⟩
  | ok sel =>
    have hdue : due = if (sel.find (searched selector t)).head?.isSome then 0 else 1 := by
      change searchExit _ _ = _
      rw [searchExit, hparse]
      rfl
    rw [foundWhole_iff hparse, hdue, showFound, hparse]
    dsimp only
    cases sel.find (searched selector t) with
    | nil => exact .inl ⟨nofun, rfl, rfl⟩
    | cons n found =>
      rw [← found_lines_isWhole_iff t s!"Found {(n :: found).length} element(s):"]
      rcases print_cases _ with ⟨hwhole, hexit, hraised⟩ | ⟨hwhole, hexit, hraised⟩
      · exact .inl ⟨hwhole, hexit, hraised⟩
      · exact .inr ⟨hwhole, rfl, hexit, hraised⟩

/-! ## 4. Commands -/

section

variable {j : Journal} {settings : Settings} {snapshot : String} {around : Surroundings}
  {t : RaggedElement} (hsettings : Settings.load j.folder j.environment [] = .ok settings)
  (hload : Snapshot.load around.loader j.folder (Location.parse snapshot) = .ok t)
include hsettings hload

theorem ends_find (selector : String) :
    Ends around j .find [] [snapshot, selector] (.ok (showFound selector t)) := by
  apply ends_of_perform hsettings .usual
  · exact (SnapshotOperands.find selector).checkOperands_eq (look_ne_of_load hload)
  · refine ⟨j, ?_⟩
    simp only [perform]
    rw [exec_withSnapshot, hload]
    rfl

theorem ends_expect (hj : j.Unfailing) {options : List (String × String)} {timeout : Int}
    (hoptions : TimeoutOptions options timeout) (htimeout : 1 ≤ timeout) (selector : String)
    {condition : String} (hcondition : condition ∈ conditions) :
    Ends around j .expect options [snapshot, selector, condition]
      (.ok (verdict settings selector condition timeout (searched selector t))) := by
  apply ends_of_perform hsettings hoptions
  · exact (SnapshotOperands.expect selector hcondition).checkOperands_eq (look_ne_of_load hload)
  · simp only [perform, hoptions.timeoutOf_eq]
    rw [exec_withSnapshot, hload]
    exact exec_expect (Settings.bounded_of_load hsettings) htimeout hj _ snapshot selector
      condition t

end

/-- **The commands agree about every selector that can be put out.**  However they are spelled, the
command that takes a selector apart and the ones that wait for a condition come to outcomes that
agree with the code of the search for it.  The command that searches a snapshot ends with that code,
unless what it says of the elements it found has a half of a character in it: then it fails. -/
theorem commands_agree (around : Surroundings) (j : Journal) (hj : j.Unfailing)
    (settings : Settings) (snapshot selector : String) (t : RaggedElement)
    (options : List (String × String)) (timeout : Int)
    (hsettings : Settings.load j.folder j.environment [] = .ok settings)
    (hload : Snapshot.load around.loader j.folder (Location.parse snapshot) = .ok t)
    (hoptions : TimeoutOptions options timeout) (htimeout : 1 ≤ timeout) :
    let e := searched selector t
    let due := searchExit selector e
    ∃ (parsed found : Outcome) (expected : String → Outcome),
      Ends around j .parse [] [selector] (.ok parsed) ∧
      Ends around j .find [] [snapshot, selector] (.ok found) ∧
      (∀ c ∈ conditions,
        Ends around j .expect options [snapshot, selector, c] (.ok (expected c))) ∧
      Agree selector e timeout settings.pollInterval parsed due expected ∧
      ((FoundWhole selector t ∧ found.exit = due ∧ found.raised = none) ∨
        (¬ FoundWhole selector t ∧ due = 0 ∧ found.exit = 1 ∧
          ∃ reason, found.raised = some (unencodable reason))) := by
  have hparse : Ends around j .parse [] [selector] (.ok (showSelector selector)) :=
    ends_of_perform hsettings .usual (checkOperands_selector j.folder selector [] []) ⟨j, rfl⟩
  exact ⟨_, _, _, hparse, ends_find hsettings hload selector,
    fun c hc => ends_expect hsettings hload hj hoptions htimeout selector hc,
    agree settings timeout _ selector, showFound_cases selector t⟩

/-! ### Waiting for what is not there -/

/-- A journal beside the snapshot of nothing but a root. -/
def bareShelf : Journal :=
  { folder := { here := "/work", files := [(Location.parse "a.yaml", "\x7b\x7d".toUTF8.toList)] } }

theorem load_bareShelf :
    Snapshot.load {} bareShelf.folder (Location.parse "a.yaml") = .ok (.node {} []) :=
  Selector.Grammar.eq_ok_of_toOption (by decide +kernel)

theorem commands_agree_bareShelf :
    bareShelf.Unfailing ∧ Settings.load bareShelf.folder bareShelf.environment [] = .ok {} ∧
    Snapshot.load {} bareShelf.folder (Location.parse "a.yaml") = .ok (.node {} []) ∧
    TimeoutOptions [("--timeout", "250")] 250 ∧ (1 : Int) ≤ 250 ∧
    ∃ o after, bareShelf.exec
        (run {} ["expect", "a.yaml", "--timeout=250", "button", "exists"]) = (.ok o, after) ∧
      o.exit = 1 ∧ o.waited = 300 := by
  have hsettings : Settings.load bareShelf.folder bareShelf.environment [] = .ok {} := rfl
  have hoptions : TimeoutOptions [("--timeout", "250")] 250 := .given (by decide +kernel)
  have hparse : Selector.parse "button" =
      .ok { steps := [{ role := some "button" }], raw := "button" } := by
    apply Selector.Grammar.eq_ok_of_toOption
    decide +kernel
  have hsearch : Selector.find { steps := [{ role := some "button" }], raw := "button" }
      (searched "button" (.node {} [])) = [] := by
    apply List.isEmpty_iff.mp
    decide +kernel
  have hcondition : "exists" ∈ conditions := by decide
  have hunfailing : bareShelf.Unfailing := fun _ _ => rfl
  rcases commands_agree {} bareShelf hunfailing {} "a.yaml" "button" _ _ 250 hsettings
    load_bareShelf hoptions (by decide) with
    ⟨parsed, found, expected, -, -, hexpect, hagree, -⟩
  have hfound : searchExit "button" (searched "button" (.node {} [])) ≠ 0 := by
    rw [Ne, hagree.found_iff]
    rintro ⟨sel, hsel, hne⟩
    cases hparse.symm.trans hsel
    exact hne hsearch
  have hexit : (expected "exists").exit = 1 := by
    have hzero : (expected "exists").exit ≠ 0 := mt hagree.exists_iff.mp hfound
    have htwo : (expected "exists").exit ≠ 2 := by
      rw [Ne, hagree.expected_rejected _ hcondition]
      rintro ⟨f, hf⟩
      cases hparse.symm.trans hf
    have hcases := hagree.expected_exit _ hcondition
    omega
  rcases hexpect _ hcondition ["a.yaml", "--timeout=250", "button", "exists"]
    (.operand (by decide) (.joined "250" (by decide) (.operand (by decide)
      (.operand (by decide) .done)))) with ⟨after, hexec⟩
  refine ⟨hunfailing, hsettings, load_bareShelf, hoptions, by decide, _, after, hexec, hexit, ?_⟩
  -- two and a half pauses are rounded up
  have hceil : ⌈((250 : Int) : ℚ) / ((100 : Int) : ℚ)⌉ = 3 := by
    rw [Int.ceil_eq_iff]
    norm_num
  rw [hagree.waited_of_exit_eq_one _ hcondition hexit]
  exact congrArg (· * (100 : Int)) hceil

/-! ### A face that cannot be put out -/

/-- A button with a face as its title. -/
def faceButton : Element := .node {} [.node { role := some "AXButton", title := some "😀" } []]

/-- A journal beside its dump, in which the face is spelled in two halves. -/
def faceShelf : Journal :=
  { folder :=
      { here := "/work"
        files := [(Location.parse "a.json", (faceButton.dump.write true).toUTF8.toList)] } }

theorem load_faceShelf :
    Snapshot.load {} faceShelf.folder (Location.parse "a.json") = .ok faceButton.reread :=
  Snapshot.load_dump rfl (by decide) rfl

/-- The button is there, and the search for it fails. -/
theorem not_always_agree :
    ¬ ∀ (around : Surroundings) (j : Journal) (settings : Settings) (snapshot selector : String)
      (t : RaggedElement) (found expected : Outcome), j.Unfailing →
      Settings.load j.folder j.environment [] = .ok settings →
      Snapshot.load around.loader j.folder (Location.parse snapshot) = .ok t →
      Ends around j .find [] [snapshot, selector] (.ok found) →
      Ends around j .expect [] [snapshot, selector, "exists"] (.ok expected) →
      (expected.exit = 0 ↔ found.exit = 0) := by
  intro h
  have hunfailing : faceShelf.Unfailing := fun _ _ => rfl
  have hsettings : Settings.load faceShelf.folder faceShelf.environment [] = .ok {} := rfl
  have hexits := h {} faceShelf {} "a.json" "button" _ _ _ hunfailing hsettings load_faceShelf
    (ends_find hsettings load_faceShelf "button")
    (ends_expect hsettings load_faceShelf hunfailing .usual (by decide) "button" (by decide))
  have hfound : (showFound "button" faceButton.reread).exit = 1 := by decide +kernel
  have hexpected : (verdict {} "button" "exists" defaultTimeout
      (searched "button" faceButton.reread)).exit = 0 := by decide +kernel
  rw [hfound, hexpected] at hexits
  exact absurd (hexits.mp rfl) (by decide)

end UiTree.Command
