import UiTree.Journal.Record
import UiTree.Text.Case

/-!
# Timing — how long things take

Time is counted in whole milliseconds.  A stopwatch that has not been started stands at zero, and
none ever shows less.
-/

namespace UiTree

open UiTree.Text

/-- The clock after a sleep; a sleep that is not positive is none. -/
def sleepFrom (clock ms : Int) : Int := clock + max 0 ms

theorem le_sleepFrom (clock ms : Int) : clock ≤ sleepFrom clock ms := by
  unfold sleepFrom; omega

structure Stopwatch where
  startedAt : Option Int := none
  deriving DecidableEq, Repr

namespace Stopwatch

def start (clock : Int) : Stopwatch := { startedAt := some clock }

/-- The milliseconds since the start; none before it. -/
def elapsed (w : Stopwatch) (clock : Int) : Nat :=
  match w.startedAt with
  | some started => (clock - started).toNat
  | none => 0

@[simp] theorem elapsed_idle (clock : Int) : ({} : Stopwatch).elapsed clock = 0 := rfl

end Stopwatch

namespace Timing

/-- A span of milliseconds; in seconds, to the millisecond, from one second on. -/
def spanText (ms : Nat) : String :=
  if ms < 1000 then s!"{ms} ms"
  else
    let thousandths := toString (ms % 1000)
    s!"{ms / 1000}." ++ String.ofList (List.replicate (3 - thousandths.length) '0') ++ thousandths
      ++ " s"

/-- The line about the time that something took; what has no label goes by its name. -/
def note (level : Level) (label name : String) (ms : Nat) : Record :=
  let shown := if label.isEmpty then name else label
  let span := spanText ms
  { level, logger := Record.loggerName "utils.timing", message := s!"{shown} took {span}" }

/-! ## By the name of a level -/

/-- How a part of a logger takes a line. -/
inductive Manner
  | atLevel (level : Level)
  /-- As an error, with what was raised. -/
  | withRaised
  /-- It does something else with it. -/
  | ignored
  /-- Not at all. -/
  | refused (reason : String)
  /-- As the name of another part, and there is none. -/
  | asName
  deriving DecidableEq, Repr

/-- The complaint about a part of a logger that was given a line and nothing else. -/
def lacking (part : String) (count : String) : String :=
  s!"LoggerAdapter.{part}() missing {count}"

/-- The complaint about a part of a logger that wants nothing but is given a line. -/
def overfull (part : String) : String := s!"LoggerAdapter.{part}() takes no arguments (1 given)"

/-- The complaint about a part of a logger that is a plain value. -/
def uncallable (type : String) : String := s!"'{type}' object is not callable"

/-- The parts of a logger that are there to take lines. -/
def voices : List (String × Manner) :=
  [("debug", .atLevel .debug), ("info", .atLevel .info), ("warning", .atLevel .warning),
    ("warn", .atLevel .warning), ("error", .atLevel .error), ("critical", .atLevel .critical),
    ("exception", .withRaised)]

/-- The other parts of a logger whose names have no capitals. -/
def otherParts : List (String × Manner) :=
  [("log", .refused (lacking "log" "1 required positional argument: 'msg'")),
    ("_log", .refused (lacking "_log" "2 required positional arguments: 'msg' and 'args'")),
    ("process", .refused (lacking "process" "1 required positional argument: 'kwargs'")),
    ("manager", .refused (uncallable "Manager")),
    ("name", .refused (uncallable "str")),
    ("logger", .refused (uncallable "Logger")),
    ("extra", .refused (uncallable "dict")),
    ("__dict__", .refused (uncallable "dict")),
    ("__doc__", .refused (uncallable "str")),
    ("__module__", .refused (uncallable "str")),
    ("__weakref__", .refused (uncallable "NoneType")),
    ("__dir__", .refused (overfull "__dir__")),
    ("__getstate__", .refused (overfull "__getstate__")),
    ("__init_subclass__", .refused (overfull "__init_subclass__")),
    ("__reduce__", .refused (overfull "__reduce__")),
    ("__sizeof__", .refused (overfull "__sizeof__")),
    ("__hash__", .refused "expected 0 arguments, got 1"),
    ("__str__", .refused "expected 0 arguments, got 1"),
    ("__setattr__", .refused " expected 2 arguments, got 1"),
    ("__repr__", .refused "LoggerAdapter.__repr__() takes 1 positional argument but 2 were given"),
    ("__format__", .refused "unsupported format string passed to LoggerAdapter.__format__"),
    ("__new__", .refused "object.__new__(X): X is not a type object (str)"),
    ("__reduce_ex__", .refused "'str' object cannot be interpreted as an integer"),
    ("__getattribute__", .asName),
    ("__delattr__", .asName),
    ("__class__", .ignored),
    ("__class_getitem__", .ignored),
    ("__init__", .ignored),
    ("__subclasshook__", .ignored),
    ("__eq__", .ignored),
    ("__ne__", .ignored),
    ("__lt__", .ignored),
    ("__le__", .ignored),
    ("__gt__", .ignored),
    ("__ge__", .ignored)]

/-- The word that names are looked up by, whatever their case. -/
def word (name : String) : String := lower (capitals name)

/-- The manner of the part that a name stands for; debug level if it stands for none. -/
def manner (name : String) : Manner :=
  ((voices ++ otherParts).lookup (word name)).getD (.atLevel .debug)

/-- What is told about an outcome where nothing was raised. -/
def nothingRaised : String := "NoneType: None"

/-- The complaint that a logger has no part with the name. -/
def unknownPart (name : String) : Raised :=
  .failure (.foreign "AttributeError" [.str s!"'LoggerAdapter' object has no attribute '{name}'"])

/-- The outcome of something that took its time, and the lines about it.  What is raised over a line
takes the place of the outcome; that no handler fails at a line that is logged is assumed. -/
def measured {α : Type} (label level name : String) (ms : Nat) (outcome : Except Raised α) :
    Except Raised α × List Record :=
  match manner level with
  | .atLevel l => (outcome, [note l label name ms])
  | .withRaised =>
    let told := match outcome with
      | .ok _ => nothingRaised
      | .error r => r.headline
    (outcome, [{ note .error label name ms with exception? := some told }])
  | .ignored => (outcome, [])
  | .refused reason => (.error (.failure (.foreign "TypeError" [.str reason])), [])
  | .asName => (.error (unknownPart (note .debug label name ms).message), [])

section

variable {α : Type} {level : String} (label name : String) (ms : Nat) (outcome : Except Raised α)

theorem measured_atLevel {l : Level} (h : manner level = .atLevel l) :
    measured label level name ms outcome = (outcome, [note l label name ms]) := by
  unfold measured
  simp only [h]

theorem measured_withRaised (h : manner level = .withRaised) :
    ∃ told, measured label level name ms outcome =
      (outcome, [{ note .error label name ms with exception? := some told }]) := by
  unfold measured
  simp only [h]
  exact ⟨_, rfl⟩

theorem measured_ignored (h : manner level = .ignored) :
    measured label level name ms outcome = (outcome, []) := by
  unfold measured
  simp only [h]

theorem measured_refused {reason : String} (h : manner level = .refused reason) :
    measured label level name ms outcome =
      (.error (.failure (.foreign "TypeError" [.str reason])), []) := by
  unfold measured
  simp only [h]

theorem measured_asName (h : manner level = .asName) :
    measured label level name ms outcome =
      (.error (unknownPart (note .debug label name ms).message), []) := by
  unfold measured
  simp only [h]

end

end Timing

end UiTree
