import UiTree.Command.Run
import UiTree.Proofs.Command.Spelling
import UiTree.Proofs.Journal.Logging

/-!
# Running — from the arguments of a command to the command itself

With settings that can be loaded, a command that takes its operands and options ends as the
command does on what its arguments come to, however it is spelled.
-/

namespace UiTree.Command

open UiTree.Text Journal

/-! ## 1. Before the command -/

theorem wellNamed_inner (n : Name) : (inner n).WellNamed := by
  cases n
  case expect =>
    intro name hname
    cases List.mem_singleton.mp hname
    exact ⟨by decide, by decide, by decide⟩
  all_goals exact nofun

theorem interspersed_inner (n : Name) : (inner n).interspersed = true := by
  cases n <;> rfl

/-- The name of a command ends the options before it. -/
theorem checkOuter_name (folder : Folder) (n : Name) (args : List String) :
    checkOuter folder (n.text :: args) = .ok { operands := n.text :: args } := by
  have hscan : scan outer (n.text :: args) = .ok { operands := n.text :: args } := by
    rw [scan]
    cases n <;> rfl
  rw [checkOuter, hscan]
  rfl

variable {j : Journal} {settings : Settings} {s : Scanned}

theorem exec_run (hsettings : Settings.load j.folder j.environment [] = .ok settings)
    (around : Surroundings) (n : Name) (args : List String) :
    j.exec (run around (n.text :: args)) = j.exec (runCommand around settings n args) := by
  rw [run, exec_get_bind]
  simp only [checkOuter_name, Name.ofText?_text]
  rw [exec_get_bind, exec_lift_bind hsettings]
  -- there is nothing to prepare
  rfl

theorem exec_runCommand {n : Name} {args : List String} (around : Surroundings)
    (hscan : scan (inner n) args = .ok s) (hflags : s.flags = [])
    (hoptions : checkOptions j.folder s = .ok ())
    (hoperands : checkOperands j.folder (operandNames n) s.operands = .ok ()) :
    j.exec (runCommand around settings n args) = j.exec (perform around settings n s) := by
  rw [runCommand, exec_get_bind]
  simp only [hscan, hflags, hoptions, hoperands]
  rfl

/-! ## 2. Options and operands -/

/-- The options of a command come to a timeout: the one that is given, or else the usual one. -/
inductive TimeoutOptions : List (String × String) → Int → Prop
  | usual : TimeoutOptions [] defaultTimeout
  | given {digits : String} {timeout : Int}
      (h : Number.decimalInteger? digits.toList = some timeout) :
      TimeoutOptions [("--timeout", digits)] timeout

namespace TimeoutOptions

variable {options : List (String × String)} {timeout : Int} (h : TimeoutOptions options timeout)
include h

theorem timeoutOf_eq (operands : List String) : timeoutOf { options, operands } = timeout := by
  cases h with
  | usual => rfl
  | given h => exact (congrArg (·.getD defaultTimeout) h : _)

theorem checkOptions_eq (folder : Folder) (operands : List String) :
    checkOptions folder { options, operands } = .ok () := by
  cases h with
  | usual => rfl
  | @given digits timeout h =>
    have hcheck : checkOption folder "--timeout" digits = .ok () := by
      rw [checkOption]
      · rw [if_pos (Option.isSome_of_eq_some h)]
      · decide
      · decide
    exact congrArg (· >>= fun _ => pure ()) hcheck

end TimeoutOptions

theorem checkPath_of_ne_directory {folder : Folder} {path : String}
    (h : folder.look (Location.parse path) ≠ .directory) (hint : String) :
    checkPath folder hint path = .ok () := by
  rw [checkPath, if_neg]
  rw [Bool.and_eq_true, beq_iff_eq]
  exact fun hlook => h hlook.2

/-- The operands are those of a command that works on a snapshot. -/
inductive SnapshotOperands (snapshot : String) : Name → List String → Prop
  | tree : SnapshotOperands snapshot .tree [snapshot]
  | find (selector : String) : SnapshotOperands snapshot .find [snapshot, selector]
  | expect (selector : String) {condition : String} (h : condition ∈ conditions) :
      SnapshotOperands snapshot .expect [snapshot, selector, condition]

theorem checkOperands_snapshot {folder : Folder} {snapshot : String}
    (h : folder.look (Location.parse snapshot) ≠ .directory) (names values : List String) :
    checkOperands folder ("SNAPSHOT" :: names) (snapshot :: values) =
      checkOperands folder names values := by
  rw [checkOperands]
  simp only [beq_self_eq_true, if_true, checkPath_of_ne_directory h]
  rfl

/-- Any text will do for a selector. -/
theorem checkOperands_selector (folder : Folder) (selector : String) (names values : List String) :
    checkOperands folder ("SELECTOR" :: names) (selector :: values) =
      checkOperands folder names values := by
  rw [checkOperands]
  rfl

theorem checkOperands_condition (folder : Folder) {condition : String}
    (h : condition ∈ conditions) :
    checkOperands folder [conditionHint] [condition] = .ok () := by
  have hname : (conditionHint == "SNAPSHOT") = false := by decide
  have hcondition : conditions.contains condition = true := List.contains_iff_mem.mpr h
  rw [checkOperands]
  simp only [hname, hcondition, Bool.not_true, Bool.and_false, Bool.false_eq_true, if_false]
  rfl

theorem SnapshotOperands.checkOperands_eq {snapshot : String} {n : Name} {operands : List String}
    (h : SnapshotOperands snapshot n operands) {folder : Folder}
    (hlook : folder.look (Location.parse snapshot) ≠ .directory) :
    checkOperands folder (operandNames n) operands = .ok () := by
  cases h with
  | tree => exact checkOperands_snapshot hlook [] []
  | find selector =>
    rw [operandNames, checkOperands_snapshot hlook]
    exact checkOperands_selector folder selector [] []
  | expect selector h =>
    rw [operandNames, checkOperands_snapshot hlook, checkOperands_selector]
    exact checkOperands_condition folder h

/-! ## 3. The commands -/

/-- However a command is spelled, it is performed with the options and operands it comes to. -/
theorem exec_run_of_spelled (hsettings : Settings.load j.folder j.environment [] = .ok settings)
    (around : Surroundings) {n : Name} {options : List (String × String)}
    {operands args : List String} {timeout : Int}
    (hspelled : Spelled (inner n) options operands args)
    (hoptions : TimeoutOptions options timeout)
    (hoperands : checkOperands j.folder (operandNames n) operands = .ok ()) :
    j.exec (run around (n.text :: args)) =
      j.exec (perform around settings n { options, operands }) := by
  have hscan := hspelled.scan_eq (wellNamed_inner n) (interspersed_inner n)
  have hchecked := hoptions.checkOptions_eq j.folder operands
  rw [exec_run hsettings, exec_runCommand around hscan rfl hchecked hoperands]

/-- However the command is spelled, it comes to the result. -/
def Ends (around : Surroundings) (j : Journal) (n : Name) (options : List (String × String))
    (operands : List String) (result : Except Fault Outcome) : Prop :=
  ∀ args, Spelled (inner n) options operands args →
    ∃ after, j.exec (run around (n.text :: args)) = (result, after)

theorem ends_of_perform (hsettings : Settings.load j.folder j.environment [] = .ok settings)
    {around : Surroundings} {n : Name} {options : List (String × String)}
    {operands : List String} {timeout : Int} {result : Except Fault Outcome}
    (hoptions : TimeoutOptions options timeout)
    (hoperands : checkOperands j.folder (operandNames n) operands = .ok ())
    (h : ∃ after, j.exec (perform around settings n { options, operands }) = (result, after)) :
    Ends around j n options operands result := by
  intro args hspelled
  rw [exec_run_of_spelled hsettings around hspelled hoptions hoperands]
  exact h

/-- The arguments of a command settle how it ends. -/
theorem Ends.unique {around : Surroundings} {n : Name} {options : List (String × String)}
    {operands args : List String} {result other : Except Fault Outcome}
    (hargs : Spelled (inner n) options operands args) (h : Ends around j n options operands result)
    (hother : Ends around j n options operands other) : result = other := by
  rcases h args hargs with ⟨after, hexec⟩
  rcases hother args hargs with ⟨after', hexec'⟩
  exact congrArg Prod.fst (hexec.symm.trans hexec')

theorem look_of_load {loader : Yaml.Loader} {folder : Folder} {path : Location} {t : RaggedElement}
    (h : Snapshot.load loader folder path = .ok t) : ∃ octets, folder.look path = .file octets := by
  unfold Snapshot.load at h
  cases hlook : folder.look path with
  | nothing =>
    rw [hlook] at h
    cases h
  | directory =>
    rw [hlook] at h
    cases h
  | file octets => exact ⟨octets, rfl⟩

theorem look_ne_of_load {loader : Yaml.Loader} {folder : Folder} {path : Location}
    {t : RaggedElement} (h : Snapshot.load loader folder path = .ok t) :
    folder.look path ≠ .directory := by
  rcases look_of_load h with ⟨octets, hfile⟩
  rw [hfile]
  exact nofun

theorem exec_withSnapshot (j : Journal) (loader : Yaml.Loader) (snapshot : String)
    (next : RaggedElement → Logging Outcome) :
    j.exec (withSnapshot loader snapshot next) =
      match Snapshot.load loader j.folder (Location.parse snapshot) with
      | .ok t => j.exec (next t)
      | .error (.refused r) => (.ok (.unusable (r.message (Location.parse snapshot).text)), j)
      | .error (.failed f) =>
        if f.kind == "FileNotFoundError" then (.ok (.unusable f.message), j)
        else (.error (.failure f), j)
      | .error (.unread kind message) => (.error (.unread kind message), j) := by
  rw [withSnapshot, exec_get_bind]
  rcases Snapshot.load loader j.folder (Location.parse snapshot) with (r | f | ⟨kind, message⟩) | t
  · rfl
  · simp only []
    split <;> rfl
  · rfl
  · rfl

/-- Notes are logged with a context bound, and what comes next begins once it is unbound. -/
theorem exec_logged {j : Journal} (hj : j.Unfailing) (time : String) (context : Context)
    (notes : List Record) (keys : List String) {α : Type} (next : Logging α) :
    ∃ after : Journal, j.exec (do
      Journal.bind context
      try
        for note in notes do Journal.record time note
      finally Journal.unbind keys
      next) = after.exec next := by
  have hbind : Completes (Journal.bind context) := completes_modify fun _ => rfl
  have hunbind : Completes (unbind keys) := completes_modify fun _ => rfl
  have hloop := Completes.forIn notes PUnit.unit
    (f := fun note _ => do Journal.record time note; pure (.yield .unit))
    fun note _ => (completes_record time note).bind fun _ => completes_pure _
  -- binding comes first, then the loop and unbinding
  rcases hbind.exists_exec_bind hj (fun _ => do
      try
        for note in notes do Journal.record time note
      finally Journal.unbind keys
      next) with ⟨_, bound, hbound, hexec⟩
  rcases ((hloop.bind fun _ => completes_pure ()).finally hunbind).exists_exec_bind hbound
    (fun _ => next) with ⟨_, after, -, hexec'⟩
  exact ⟨after, hexec.trans hexec'⟩

section

variable {selector condition : String} {timeout : Int} {t : RaggedElement} {after : Session}
  {j : Journal} (hj : j.Unfailing) (time snapshot : String)
include hj

theorem exec_expect_of_passed
    (h : expectation settings selector condition timeout (searched selector t) =
      (.ok (), after)) :
    ∃ k, j.exec (expect time settings snapshot selector condition timeout t) =
      (.ok { out := shown s!"OK  {selector} {condition}\n", waited := after.clock }, k) := by
  rw [expect]
  simp only [h]
  exact exec_logged hj time _ _ _ _

theorem exec_expect_of_rejected {message : String}
    (h : expectation settings selector condition timeout (searched selector t) =
      (.error (.failure (.invalidSelector message)), after)) :
    ∃ k, j.exec (expect time settings snapshot selector condition timeout t) =
      (.ok { Outcome.unusable (Failure.invalidSelector message).message with
        waited := after.clock }, k) := by
  rw [expect]
  simp only [h]
  exact exec_logged hj time _ _ _ _

theorem exec_expect_of_expired {label : String} {limit : Int} {description : Option String}
    (h : expectation settings selector condition timeout (searched selector t) =
      (.error (.failure (.waitTimeout label limit description)), after)) :
    let message := (Failure.waitTimeout label limit description).message
    ∃ k, j.exec (expect time settings snapshot selector condition timeout t) =
      (.ok { exit := 1, out := shown s!"FAIL {message}\n", waited := after.clock }, k) := by
  rw [expect]
  simp only [h]
  exact exec_logged hj time _ _ _ _

end

end UiTree.Command
