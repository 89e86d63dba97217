import UiTree.Proofs.Json.Members
import UiTree.Proofs.Page.Dispatcher

/-!
# Timing — what a line about the time taken leaves alone

A name stands for the part of a logger that takes the line.  The parts that are there to take lines
make one of it each, and so does the part for debugging if the name stands for none; what was timed
comes to what it would have come to.  No other part makes one, and most of them raise something that
takes the place of the outcome.
-/

namespace UiTree

namespace Timing

/-! ## 1. Parts -/

/-- The levels of the lines, by the parts of a logger that make them. -/
def lineLevels : List (String × Level) :=
  [("debug", .debug), ("info", .info), ("warning", .warning), ("warn", .warning),
    ("error", .error), ("critical", .critical), ("exception", .error)]

/-- The parts that make no line. -/
def deafParts : List String := otherParts.map Prod.fst

/-- A part makes a line of what it takes. -/
def Manner.makesLine : Manner → Bool
  | .atLevel _ | .withRaised => true
  | .ignored | .refused _ | .asName => false

/-- The name of a level stands for it in whatever case. -/
theorem lookup_lineLevels_word {name : String} {l : Level}
    (h : Level.ofName? (Text.capitals name) = some l) : lineLevels.lookup (word name) = some l := by
  rw [word, ← Level.name_of_ofName? h]
  cases l <;> rfl

theorem manner_of_not_deaf {name : String} (h : word name ∉ deafParts) :
    manner name = (voices.lookup (word name)).getD (.atLevel .debug) := by
  have hnone : otherParts.lookup (word name) = none := (Json.lookup_eq_none_iff _ _).mpr h
  rw [manner, List.lookup_append, hnone, Option.or_none]

theorem makesLine_manner_of_deaf {name : String} (h : word name ∈ deafParts) :
    (manner name).makesLine = false := by
  have hdeaf : ∀ p ∈ deafParts,
      (((voices ++ otherParts).lookup p).getD (.atLevel .debug)).makesLine = false := by
    decide +kernel
  exact hdeaf _ h

/-- Of the parts that make lines one tells as well of what was raised. -/
theorem manner_cases {name : String} (h : word name ∉ deafParts) :
    word name ≠ "exception" ∧
      manner name = .atLevel ((lineLevels.lookup (word name)).getD .debug) ∨
    word name = "exception" ∧ manner name = .withRaised := by
  have hvoices : ∀ p ∈ voices,
      p.1 ≠ "exception" ∧ p.2 = .atLevel ((lineLevels.lookup p.1).getD .debug) ∨
      p.1 = "exception" ∧ p.2 = .withRaised := by
    decide
  rw [manner_of_not_deaf h]
  cases hvoice : voices.lookup (word name) with
  | none =>
    have hkeys : word name ∉ Json.keys lineLevels := (Json.lookup_eq_none_iff voices _).mp hvoice
    refine .inl ⟨fun hword => hkeys (hword ▸ by decide), ?_⟩
    rw [(Json.lookup_eq_none_iff lineLevels _).mpr hkeys]
    rfl
  | some m =>
    obtain ⟨before, after, hsplit, -⟩ := List.lookup_eq_some_iff.mp hvoice
    refine hvoices (word name, m) ?_
    rw [hsplit]
    exact List.mem_append_right before List.mem_cons_self

/-! ## 2. Lines -/

section

variable {α : Type} {level : String} (label name : String) (ms : Nat) (outcome : Except Raised α)

theorem measured_of_not_deaf (h : word level ∉ deafParts) :
    ∃ told, measured label level name ms outcome = (outcome,
        [{ note ((lineLevels.lookup (word level)).getD .debug) label name ms with
          exception? := told }]) ∧
      (told = none ↔ word level ≠ "exception") := by
  rcases manner_cases h with ⟨hword, hmanner⟩ | ⟨hword, hmanner⟩
  · generalize (lineLevels.lookup (word level)).getD .debug = l at hmanner ⊢
    exact ⟨none, measured_atLevel label name ms outcome hmanner, by simp [hword]⟩
  · have herror : lineLevels.lookup "exception" = some .error := rfl
    rcases measured_withRaised label name ms outcome hmanner with ⟨told, hmeasured⟩
    rw [hword, herror, hmeasured]
    exact ⟨some told, rfl, by simp⟩

/-- A part that makes no line keeps the outcome or puts a failure of its own in its place. -/
theorem measured_of_deaf (h : word level ∈ deafParts) :
    (measured label level name ms outcome).2 = [] ∧
    (manner level ≠ .ignored → ∃ kind ∈ ["TypeError", "AttributeError"], ∃ reason,
      (measured label level name ms outcome).1 =
        .error (.failure (.foreign kind [.str reason]))) := by
  have hsilent := makesLine_manner_of_deaf h
  cases hmanner : manner level with
  | atLevel l => rw [hmanner] at hsilent; cases hsilent
  | withRaised => rw [hmanner] at hsilent; cases hsilent
  | ignored =>
    rw [measured_ignored label name ms outcome hmanner]
    exact ⟨rfl, fun hne => absurd rfl hne⟩
  | refused reason =>
    rw [measured_refused label name ms outcome hmanner]
    exact ⟨rfl, fun _ => ⟨"TypeError", by decide, reason, rfl⟩⟩
  | asName =>
    rw [measured_asName label name ms outcome hmanner]
    exact ⟨rfl, fun _ => ⟨"AttributeError", by decide, _, rfl⟩⟩

end

end Timing

namespace Session

/-- What is dispatched is timed at debug level, and what is raised is then normalized. -/
theorem exec_dispatch_eq_measured {α : Type} (s : Session) (label : String) (body : Effect α) :
    s.exec (dispatch label body) =
      let took := (Stopwatch.start s.clock).elapsed (s.exec body).2.clock
      let timed := Timing.measured label "DEBUG" unlabelled took (s.exec body).1
      (timed.1.mapError (normalize label), { (s.exec body).2 with
        notes := (s.exec body).2.notes ++ timed.2 }) := by
  have hdebug : Timing.manner "DEBUG" = .atLevel .debug := rfl
  simp only [exec_dispatch, Timing.measured_atLevel _ _ _ _ hdebug]

end Session

namespace Timing

/-- **Timing leaves everything alone unless its level names another part of a logger.**  If it does
not, whatever was timed, however it ended and however long it took, comes to the same outcome, and
one line is made about it: at the level of the name, or at debug level if the name stands for none.
What is dispatched is always timed so.  If the level does name another part, no line is made, and
the part keeps every outcome or puts a failure of its own in the place of every outcome. -/
theorem timing_transparent_unless_deaf (α : Type) (level : String) :
    (word level ∉ deafParts → ∀ label name ms (outcome : Except Raised α), ∃ told,
      measured label level name ms outcome = (outcome,
        [{ note ((lineLevels.lookup (word level)).getD .debug) label name ms with
          exception? := told }]) ∧
      (told = none ↔ word level ≠ "exception")) ∧
    (∀ l, Level.ofName? (Text.capitals level) = some l →
      word level ∉ deafParts ∧ lineLevels.lookup (word level) = some l) ∧
    (∀ (s : Session) (label : String) (body : Effect α), s.exec (Session.dispatch label body) =
      let took := (Stopwatch.start s.clock).elapsed (s.exec body).2.clock
      let timed := measured label "DEBUG" Session.unlabelled took (s.exec body).1
      (timed.1.mapError (Session.normalize label), { (s.exec body).2 with
        notes := (s.exec body).2.notes ++ timed.2 })) ∧
    (word level ∈ deafParts →
      (∀ label name ms (outcome : Except Raised α),
        (measured label level name ms outcome).2 = []) ∧
      ((∀ label name ms (outcome : Except Raised α),
        (measured label level name ms outcome).1 = outcome) ∨
      ∀ label name ms (outcome : Except Raised α),
        ∃ kind ∈ ["TypeError", "AttributeError"], ∃ reason,
          (measured label level name ms outcome).1 =
            .error (.failure (.foreign kind [.str reason])))) := by
  refine ⟨fun h label name ms outcome => measured_of_not_deaf label name ms outcome h, ?_,
    fun s => s.exec_dispatch_eq_measured, fun h => ?_⟩
  · intro l hl
    have hdeaf : ∀ p ∈ deafParts, lineLevels.lookup p = none := by decide
    have hlookup := lookup_lineLevels_word hl
    refine ⟨fun hmem => ?_, hlookup⟩
    rw [hdeaf _ hmem] at hlookup
    cases hlookup
  · refine ⟨fun label name ms outcome => (measured_of_deaf label name ms outcome h).1, ?_⟩
    by_cases hignored : manner level = .ignored
    · refine .inl fun label name ms outcome => ?_
      rw [measured_ignored label name ms outcome hignored]
    · exact .inr fun label name ms outcome =>
        (measured_of_deaf label name ms outcome h).2 hignored

/-- A warning about what took no time, and a part that hears nothing. -/
theorem timing_transparent_unless_deaf_warning :
    word "Warning" ∉ deafParts ∧ word "__EQ__" ∈ deafParts ∧
    measured "x" "Warning" "body" 0 (.ok 1 : Except Raised ℕ) =
      (.ok 1, [note .warning "x" "body" 0]) ∧
    (measured "x" "__EQ__" "body" 0 (.ok 1 : Except Raised ℕ)).2 = [] := by
  have hname : Level.ofName? (Text.capitals "Warning") = some .warning := rfl
  have hmember : word "__EQ__" ∈ deafParts := by decide
  rcases timing_transparent_unless_deaf ℕ "Warning" with ⟨htimed, hnamed, -, -⟩
  rcases hnamed .warning hname with ⟨hheard, hlevel⟩
  rcases htimed hheard "x" "body" 0 (.ok 1) with ⟨told, hmeasured, htold⟩
  have hnone : told = none := htold.mpr (by decide)
  rw [hlevel, hnone] at hmeasured
  rcases timing_transparent_unless_deaf ℕ "__EQ__" with ⟨-, -, -, hdeaf⟩
  exact ⟨hheard, hmember, hmeasured, (hdeaf hmember).1 "x" "body" 0 (.ok 1)⟩

/-- The part called `log` wants more than a line, and what it raises takes the place of a value. -/
theorem measured_log_loses_value :
    measured "x" "log" "body" 0 (.ok 1 : Except Raised ℕ) =
      (.error (.failure (.foreign "TypeError"
        [.str "LoggerAdapter.log() missing 1 required positional argument: 'msg'"])), []) ∧
    ¬ ∃ line, measured "x" "log" "body" 0 (.ok 1 : Except Raised ℕ) = (.ok 1, [line]) := by
  have hmanner : manner "log" =
      .refused "LoggerAdapter.log() missing 1 required positional argument: 'msg'" := rfl
  have hmeasured := measured_refused "x" "body" 0 (.ok 1 : Except Raised ℕ) hmanner
  refine ⟨hmeasured, ?_⟩
  rintro ⟨line, hline⟩
  cases hmeasured.symm.trans hline

end Timing

end UiTree
