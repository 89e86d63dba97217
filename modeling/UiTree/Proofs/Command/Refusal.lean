import UiTree.Proofs.Command.Running
import UiTree.Proofs.Yaml.Conversion

/-!
# Refusals — what a file that is no snapshot does to a command

Reading a snapshot file gives a tree, refuses the file, or fails.  A command tells of a refusal and
ends with code 2, and it passes a failure on: that the octets are no text, that a value could not be
converted, or that the stack is used up.
-/

namespace UiTree

open UiTree.Text

/-! ## 1. Reading a snapshot -/

namespace Snapshot

/-- How reading a text fails on its own account: one of its values cannot be converted, or it uses
up the stack. -/
def Unread (loader : Yaml.Loader) (text kind message : String) : Prop :=
  (Yaml.read loader text = .error (.conversion kind message) ∧ kind ∈ Yaml.conversionKinds) ∨
    (Yaml.read loader text = .error .exhausted ∧ kind = "RecursionError" ∧
      message = loader.overflow text)

theorem parse_cases (loader : Yaml.Loader) (text : String) :
    (∃ t, parse loader text = .ok t) ∨ (∃ r, parse loader text = .error (.refused r)) ∨
      ∃ kind message, parse loader text = .error (.unread kind message) ∧
        Unread loader text kind message := by
  have hforeseen := Yaml.foresees_read loader text
  fun_cases parse loader text with
  | case1 => exact .inr (.inl ⟨_, rfl⟩)
  | case2 kind message hread =>
    exact .inr (.inr ⟨kind, message, rfl, .inl ⟨hread, hforeseen _ hread⟩⟩)
  | case3 hread => exact .inr (.inr ⟨_, _, rfl, .inr ⟨hread, rfl, rfl⟩⟩)
  | case4 => exact .inl ⟨_, rfl⟩
  | case5 => exact .inr (.inl ⟨_, rfl⟩)
  | case6 => exact .inr (.inl ⟨_, rfl⟩)

/-- A date that the calendar does not have, and a mapping that stands for itself. -/
example : ["title: 2021-02-30", "title: &a !!str \x7b=: *a\x7d"].map (fun text =>
      match parse {} text with
      | .ok _ => ""
      | .error e => e.kind) = ["ValueError", "RecursionError"] := by
  decide +kernel

end Snapshot

/-! ## 2. Commands -/

namespace Command

open Journal

section

variable {around : Surroundings} {j : Journal} {settings : Settings} {snapshot : String} {n : Name}
  {operands : List String} {options : List (String × String)} {timeout : Int}
  (hsettings : Settings.load j.folder j.environment [] = .ok settings)
  (hlook : j.folder.look (Location.parse snapshot) ≠ .directory)
  (hoperands : SnapshotOperands snapshot n operands) (hoptions : TimeoutOptions options timeout)
include hsettings hlook hoperands hoptions

end

end Command

end UiTree
