import Mathlib.Data.List.Basic
import Mathlib.Data.List.TakeWhile
import UiTree.Proofs.Journal.Logging
import UiTree.Proofs.Storage.Folder

/-!
# Writers — the handlers that write to a file

Attaching adds a writer to one file, detaching takes away the handler with its number, and setting
the level sets that of all of them.  No two handlers ever get the same number.  A line is added to a
file by each of its writers that gets the record, as long as no directory stands in its place.
-/

namespace UiTree.Journal

/-! ## 1. Single steps -/

/-- The handlers that write to a file. -/
def writers (j : Journal) (l : Location) : List Handler :=
  j.handlers.filter fun h => decide (h.sink = .file l)

variable {j : Journal} {l : Location}

theorem exec_configure (hj : j.configured = true) : j.exec configure = (.ok (), j) := by
  rw [configure, exec_get_bind, if_pos hj]
  rfl

/-- A name that stands for a level sets the journal and its handlers to it, and no other does
anything. -/
theorem journal_setLevel (hj : j.configured = true) (name : String) :
    (j.exec (setLevel name)).2 = { j with
      level := (levelOf name).toOption.getD j.level
      handlers := j.handlers.map fun h =>
        { h with level := (levelOf name).toOption.getD h.level } } := by
  rw [setLevel, exec_bind_of_ok (exec_configure hj)]
  cases levelOf name with
  | error f =>
    have hsame : j.handlers.map (fun h => { h with level := h.level }) = j.handlers := List.map_id _
    exact congrArg (fun handlers => { j with handlers }) hsame.symm
  | ok level => rfl

theorem exec_attach (hj : j.configured = true) (path : Location) (level : Option Int) :
    (∃ f, j.exec (attach path level) = (.error f, j)) ∨
    ∃ folder, folder.files = j.folder.files ∧ j.folder.Grows folder ∧
      let h : Handler :=
        { number := j.made, sink := .file path.simplified, level := level.getD j.level }
      j.exec (attach path level) =
        (.ok h, { j with folder, handlers := j.handlers ++ [h], made := j.made + 1 }) := by
  rw [attach, exec_bind_of_ok (exec_configure hj), exec_get_bind]
  cases hmade : j.folder.makeDirectories path.simplified.parent with
  | error o =>
    left
    simp only [hmade]
    cases o with
    | occupied at' => exact ⟨_, rfl⟩
    | blocked at' => exact ⟨_, rfl⟩
  | ok folder =>
    rcases Folder.makeDirectories_eq_ok hmade with ⟨hfiles, hgrows⟩
    refine .inr ⟨folder, hfiles, hgrows, ?_⟩
    simp only [hmade]
    rfl

theorem exec_detach (j : Journal) (number : Nat) :
    j.exec (detach number) =
      (.ok (), { j with handlers := j.handlers.filter (·.number != number) }) := rfl

/-! ## 2. Numbers of handlers -/

/-- Every handler has a number from before those that are still to be given. -/
def Numbered (j : Journal) : Prop := ∀ h ∈ j.handlers, h.number < j.made

theorem Numbered.concat (hj : j.Numbered) (folder : Folder) (sink : Sink) (level : Int) :
    Numbered { j with
      folder
      handlers := j.handlers ++ [{ number := j.made, sink, level }]
      made := j.made + 1 } := by
  refine List.forall_mem_append.mpr ⟨fun h hh => ?_, List.forall_mem_singleton.mpr ?_⟩
  · exact Nat.lt_succ_of_lt (hj h hh)
  · exact Nat.lt_succ_self j.made

theorem numbered_configure (hj : j.Numbered) : (j.exec configure).2.Numbered := by
  rw [configure, exec_get_bind]
  split
  · exact hj
  · cases Settings.load j.folder j.environment [] with
    | error f => exact hj
    | ok settings =>
      have hbare : Numbered { j with level := settings.logLevel.number, handlers := [] } := nofun
      have hconsole := hbare.concat j.folder (.console settings.colorized) settings.logLevel.number
      rw [exec_lift_bind rfl]
      by_cases hfile : settings.logToFile = true
      · simp only [if_pos hfile]
        cases j.folder.makeDirectories settings.logFile.parent with
        | error o => exact hconsole
        | ok folder =>
          exact hconsole.concat folder (.file settings.logFile.simplified) settings.logLevel.number
      · simp only [if_neg hfile]
        exact hconsole

/-- Steps that begin with the settings go on from handlers that are numbered. -/
theorem Numbered.of_configure {α : Type} (hj : j.Numbered) {k : Unit → Logging α}
    (hk : ∀ after : Journal, after.Numbered → (after.exec (k ())).2.Numbered) :
    (j.exec (configure >>= k)).2.Numbered := by
  have hconfigure := numbered_configure hj
  rw [exec_bind]
  rcases hexec : j.exec configure with ⟨outcome, after⟩
  rw [hexec] at hconfigure
  cases outcome with
  | error f => exact hconfigure
  | ok _ => exact hk after hconfigure

theorem numbered_setLevel (hj : j.Numbered) (name : String) :
    (j.exec (setLevel name)).2.Numbered := by
  rw [setLevel]
  apply hj.of_configure
  intro after hafter
  cases levelOf name with
  | error f => exact hafter
  | ok level => exact List.forall_mem_map.mpr hafter

theorem numbered_attach (hj : j.Numbered) (path : Location) (level : Option Int) :
    (j.exec (attach path level)).2.Numbered := by
  rw [attach]
  apply hj.of_configure
  intro after hafter
  rw [exec_get_bind]
  cases hmade : after.folder.makeDirectories path.simplified.parent with
  | error o =>
    simp only [hmade]
    cases o with
    | occupied at' => exact hafter
    | blocked at' => exact hafter
  | ok folder =>
    simp only [hmade]
    exact hafter.concat folder (.file path.simplified) (level.getD after.level)

theorem numbered_detach (hj : j.Numbered) (number : Nat) :
    (j.exec (detach number)).2.Numbered := fun h hh => hj h (List.mem_of_mem_filter hh)

theorem numbered_log (hj : j.Numbered) (time : String) (l : Logger) (level : Level)
    (template : String) (values : List Json) (exception? : Option String) :
    (j.exec (log time l level template values exception?)).2.Numbered := by
  rw [exec_log, exec_emit]
  exact hj

/-! ## 3. Lines in files -/

/-- The octets of lines, each with its end. -/
def octetsOf (lines : List String) : List UInt8 :=
  lines.flatMap fun line => (line ++ "\n").toUTF8.toList

theorem octetsOf_append (lines others : List String) :
    octetsOf (lines ++ others) = octetsOf lines ++ octetsOf others := List.flatMap_append

theorem grows_write (f : Folder) (h : Handler) (line : Option String) :
    f.Grows (write f h line) := by
  rw [write]
  split
  · exact .refl f
  · split
    · exact .refl f
    · split
      · exact f.grows_append _ _
      · exact f.grows_append _ _

theorem grows_writes (hs : List Handler) (f : Folder) (line : Option String) :
    f.Grows (hs.foldl (fun folder h => write folder h line) f) := by
  induction hs generalizing f with
  | nil => exact .refl f
  | cons h hs ih => exact (grows_write f h line).trans (ih _)

theorem octets_write_of_ne (f : Folder) {h : Handler} (hsink : h.sink ≠ .file l)
    (line : Option String) : (write f h line).octets l = f.octets l := by
  rw [write]
  cases hk : h.sink with
  | console markup => rfl
  | file k =>
    have hlk : l ≠ k := fun hsame => hsink (hsame ▸ hk)
    dsimp only
    split
    · rfl
    · cases line with
      | none => exact Folder.octets_append_of_ne f _ hlk
      | some line => exact Folder.octets_append_of_ne f _ hlk

theorem octets_write (f : Folder) (h : Handler) (line : Option String)
    (hl : f.isDirectory l = false) :
    (write f h line).octets l =
      f.octets l ++ if h.sink = .file l then octetsOf line.toList else [] := by
  by_cases hsink : h.sink = .file l
  · rw [if_pos hsink, write, hsink]
    simp only [hl, Bool.false_eq_true, if_false]
    cases line with
    | none => simp [Folder.octets_append_self, octetsOf]
    | some line => simp [Folder.octets_append_self, octetsOf]
  · rw [if_neg hsink, List.append_nil, octets_write_of_ne f hsink]

theorem octets_writes_of_forall_ne {hs : List Handler} (h : ∀ x ∈ hs, x.sink ≠ .file l)
    (f : Folder) (line : Option String) :
    (hs.foldl (fun folder h => write folder h line) f).octets l = f.octets l := by
  induction hs generalizing f with
  | nil => rfl
  | cons x hs ih =>
    rcases List.forall_mem_cons.mp h with ⟨hx, hrest⟩
    rw [List.foldl_cons, ih hrest, octets_write_of_ne f hx]

/-- Each handler that writes to a file adds the line to it. -/
theorem octets_writes (hs : List Handler) (f : Folder) (line : Option String)
    (hl : (hs.foldl (fun folder h => write folder h line) f).isDirectory l = false) :
    (hs.foldl (fun folder h => write folder h line) f).octets l =
      f.octets l ++ (hs.filter fun h => decide (h.sink = .file l)).flatMap
        fun _ => octetsOf line.toList := by
  induction hs generalizing f with
  | nil => rw [List.foldl_nil, List.filter_nil, List.flatMap_nil, List.append_nil]
  | cons h hs ih =>
    rw [List.foldl_cons] at hl ⊢
    have hf : f.isDirectory l = false := by
      rw [Bool.eq_false_iff] at hl ⊢
      exact fun hdir => hl (Folder.isDirectory_of_grows
        ((grows_write f h line).trans (grows_writes hs _ line)) hdir)
    rw [ih _ hl, octets_write f h line hf, List.append_assoc, List.filter_cons]
    by_cases hsink : h.sink = .file l
    · simp [hsink]
    · simp [hsink]

theorem writers_setLevel (hj : j.configured = true) (name : String) (l : Location) :
    (j.exec (setLevel name)).2.writers l =
      (j.writers l).map fun h => { h with level := (levelOf name).toOption.getD h.level } := by
  rw [journal_setLevel hj]
  exact List.filter_map

/-- A file that is attached has no other writers than before if it is another one. -/
theorem writers_attach_of_ne (hj : j.configured = true) {path : Location}
    (hpath : path.simplified ≠ l) (level : Option Int) :
    (j.exec (attach path level)).2.writers l = j.writers l := by
  rcases exec_attach hj path level with ⟨f, hexec⟩ | ⟨folder, -, -, hexec⟩
  · rw [hexec]
  · have hsink : Sink.file path.simplified ≠ .file l := fun hsame => hpath (Sink.file.inj hsame)
    rw [hexec, writers, List.filter_append, List.filter_cons]
    simp only [hsink, decide_false, Bool.false_eq_true, if_false, List.filter_nil, List.append_nil]
    rfl

theorem writers_detach (j : Journal) (number : Nat) (l : Location) :
    (j.exec (detach number)).2.writers l = (j.writers l).filter (·.number != number) := by
  rw [exec_detach, writers, List.filter_comm]
  rfl

theorem writers_emit (j : Journal) (d : Draft) (l : Location) :
    (j.exec (emit d)).2.writers l = j.writers l := by
  rw [exec_emit]
  rfl

theorem octets_attach (hj : j.configured = true) (path : Location) (level : Option Int)
    (l : Location) : (j.exec (attach path level)).2.folder.octets l = j.folder.octets l := by
  rcases exec_attach hj path level with ⟨f, hexec⟩ | ⟨folder, hfiles, -, hexec⟩
  · rw [hexec]
  · rw [hexec, Folder.octets, hfiles, Folder.octets]

/-- A line goes to each writer that the record reaches. -/
theorem octets_emit (d : Draft) (hl : (j.exec (emit d)).2.folder.isDirectory l = false) :
    (j.exec (emit d)).2.folder.octets l = j.folder.octets l ++
      ((j.reached d).filter fun h => decide (h.sink = .file l)).flatMap
        fun _ => octetsOf d.line?.toList := by
  rw [exec_emit] at hl ⊢
  exact octets_writes _ _ _ hl

theorem mem_of_mem_due {d : Draft} {h : Handler} (hh : h ∈ j.due d) : h ∈ j.handlers := by
  rw [due] at hh
  split at hh
  · exact (List.mem_filter.mp hh).1
  · cases hh

theorem octets_emit_of_no_writers (d : Draft) (hw : j.writers l = []) :
    (j.exec (emit d)).2.folder.octets l = j.folder.octets l := by
  rw [exec_emit]
  refine octets_writes_of_forall_ne (fun h hh hsink => ?_) _ _
  have hhandler : h ∈ j.handlers := mem_of_mem_due ((List.takeWhile_sublist _).subset hh)
  have hwriter : h ∈ j.writers l := List.mem_filter.mpr ⟨hhandler, decide_eq_true hsink⟩
  rw [hw] at hwriter
  cases hwriter

/-! ## 4. Records that a handler fails at -/

/-- None of the handlers that a record is due to fails at it. -/
def takes (j : Journal) (d : Draft) : Bool :=
  (j.due d).all fun h => (h.failure? j.console d).isNone

theorem due_append {front back : List Handler} (hj : j.handlers = front ++ back) (d : Draft) :
    j.due d = due { j with handlers := front } d ++ due { j with handlers := back } d := by
  have hthreshold (handlers : List Handler) :
      threshold { j with handlers } = j.threshold := rfl
  simp only [due, hthreshold, hj]
  split
  · exact List.filter_append ..
  · rfl

/-- With only files behind the other handlers, a record reaches every writer of a file that it is
due to, or none if one of the others fails at it. -/
theorem filter_reached {front back : List Handler} (hj : j.handlers = front ++ back)
    (hfront : ∀ h ∈ front, h.sink ≠ .file l) (hback : ∀ h ∈ back, ∃ k, h.sink = .file k)
    (d : Draft) :
    (j.reached d).filter (fun h => decide (h.sink = .file l)) =
      if takes { j with handlers := front } d then
        (j.due d).filter fun h => decide (h.sink = .file l)
      else [] := by
  have hall : ∀ h ∈ due { j with handlers := back } d, (h.failure? j.console d).isNone = true := by
    intro h hh
    rcases hback h (mem_of_mem_due hh) with ⟨k, hk⟩
    rw [Handler.failure?, hk]
    rfl
  rw [reached, due_append hj]
  by_cases htakes : takes { j with handlers := front } d = true
  · rw [if_pos htakes, List.takeWhile_append_of_pos (List.all_eq_true.mp htakes),
      List.takeWhile_eq_self_iff.mpr hall]
  · have hstops :
        (due { j with handlers := front } d ++ due { j with handlers := back } d).takeWhile
            (fun h => (h.failure? j.console d).isNone) =
          (due { j with handlers := front } d).takeWhile
            fun h => (h.failure? j.console d).isNone := by
      rw [List.takeWhile_append, if_neg]
      intro hlength
      have hself := (List.takeWhile_sublist _).eq_of_length hlength
      exact htakes (List.all_eq_true.mpr (List.takeWhile_eq_self_iff.mp hself))
    rw [if_neg htakes, hstops, List.filter_eq_nil_iff]
    intro h hh
    have hmem : h ∈ front := mem_of_mem_due ((List.takeWhile_sublist _).subset hh)
    simpa using hfront h hmem

theorem filter_due (d : Draft) (l : Location) :
    (j.due d).filter (fun h => decide (h.sink = .file l)) =
      if j.threshold ≤ d.level.number then
        (j.writers l).filter fun h => decide (h.level ≤ d.level.number)
      else [] := by
  rw [due]
  split
  · rw [writers, List.filter_comm]
  · rfl

end UiTree.Journal
