import Mathlib.Data.List.Induction
import UiTree.Proofs.Journal.Writers

/-!
# Attached files — the records that a file gets

A handler that was attached hands its file every record that passes the level of the journal and its
own level, until it is detached.  Setting the level sets both; so whether a record passes is settled
by what was set last before it.  A record that passes is missing from the file only if a console in
front of the handler failed at it.
-/

namespace UiTree.Journal

open UiTree.Text

variable {j : Journal} {l : Location}

/-! ## 1. Courses of calls -/

/-- What is done with a journal in use; a handler is told by the number of the call that attached
it. -/
inductive Act
  | setLevel (name : String)
  | attach (path : Location) (level : Option Int)
  | detach (number : Nat)
  | log (time : String) (logger : Logger) (level : Level) (template : String) (values : List Json)
      (exception? : Option String)

/-- How far calls have come. -/
structure Progress where
  journal : Journal
  /-- The handler that each call attached, if it attached one. -/
  made : List (Option Handler) := []

namespace Progress

def handler? (s : Progress) (number : Nat) : Option Handler := s.made[number]?.join

/-- Takes a step; one that fails attaches no handler. -/
def take {α : Type} (s : Progress) (handler? : α → Option Handler) (x : Logging α) : Progress :=
  { journal := (s.journal.exec x).2
    made := s.made ++ [(s.journal.exec x).1.toOption.bind handler?] }

/-- Makes a call; nothing is done with a handler that is not there. -/
def perform (s : Progress) : Act → Progress
  | .setLevel name => s.take (fun _ => none) (setLevel name)
  | .attach path level => s.take some (attach path level)
  | .detach number =>
    match s.handler? number with
    | some h => s.take (fun _ => none) (detach h.number)
    | none => s.take (fun _ => none) (pure ())
  | .log time logger level template values exception? =>
    s.take (fun _ => none) (log time logger level template values exception?)

/-- All calls in turn, beginning with a journal. -/
def run (j : Journal) (acts : List Act) : Progress := acts.foldl perform { journal := j }

theorem run_append (j : Journal) (acts others : List Act) :
    run j (acts ++ others) = others.foldl perform (run j acts) := List.foldl_append

theorem run_concat (j : Journal) (acts : List Act) (a : Act) :
    run j (acts ++ [a]) = (run j acts).perform a := run_append j acts [a]

end Progress

section

variable {s : Progress} {number : Nat}

theorem Progress.perform_detach_of_some {h : Handler} (hn : s.handler? number = some h) :
    s.perform (.detach number) = s.take (fun _ => none) (detach h.number) := by
  simp only [perform, hn]

theorem Progress.perform_detach_of_none (hn : s.handler? number = none) :
    s.perform (.detach number) = s.take (fun _ => none) (pure () : Logging Unit) := by
  simp only [perform, hn]

end

/-! ## 2. What passes -/

/-- The level that a call sets. -/
def Act.level? : Act → Option Int
  | .setLevel name => (levelOf name).toOption
  | _ => none

/-- The level after these calls, of what had one before: what was set last, if anything was. -/
def levelAfter (start : Int) (acts : List Act) : Int :=
  (acts.filterMap Act.level?).getLast?.getD start

/-- The level that counts: one that is not set lets warnings pass. -/
def effective (level : Int) : Int := if level == 0 then Level.warning.number else level

/-- The call makes a record that passes the level of the journal and that of a handler. -/
def Act.passes (package handler : Int) : Act → Bool
  | .log _ _ level _ _ _ => effective package ≤ level.number && handler ≤ level.number
  | _ => false

/-- Among calls before which the journal and a handler had these levels, the one with this number
makes a record that passes. -/
def passes (package handler : Int) (acts : List Act) (k : Nat) : Bool :=
  acts[k]?.any (Act.passes (levelAfter package (acts.take k)) (levelAfter handler (acts.take k)))

/-- The record that a call makes where this is bound. -/
def Act.draft? (bound : Context) : Act → Option Draft
  | .log time logger level template values exception? =>
    some { time, level, logger := logger.name, template, values, exception?,
           context := logger.scope.getD bound }
  | _ => none

/-- A journal with the levels that calls set. -/
def leveled (j : Journal) (acts : List Act) : Journal :=
  { j with
    level := levelAfter j.level acts
    handlers := j.handlers.map fun h => { h with level := levelAfter h.level acts } }

/-- Among calls that begin with a journal, the one with this number makes no record that a handler
of the journal fails at. -/
def taken (j : Journal) (acts : List Act) (k : Nat) : Bool :=
  (acts[k]?.bind (Act.draft? j.bound)).all (j.leveled (acts.take k)).takes

/-- The lines of the records that these of the calls make; one whose values do not fit has none. -/
def linesAt (bound : Context) (acts : List Act) (numbers : List Nat) : List String :=
  numbers.filterMap fun k => (acts[k]?.bind (Act.draft? bound)).bind Draft.line?

/-- The lines of all records that pass, of calls that begin with a journal and a handler of this
level. -/
def passingLines (j : Journal) (own : Int) (acts : List Act) : List String :=
  linesAt j.bound acts ((List.range acts.length).filter (passes j.level own acts))

/-- The lines of those records among them at which no handler of the journal fails. -/
def takenLines (j : Journal) (own : Int) (acts : List Act) : List String :=
  linesAt j.bound acts
    ((List.range acts.length).filter fun k => passes j.level own acts k && j.taken acts k)

theorem threshold_eq (j : Journal) : j.threshold = effective j.level := rfl

theorem levelAfter_concat (start : Int) (acts : List Act) (a : Act) :
    levelAfter start (acts ++ [a]) = a.level?.getD (levelAfter start acts) := by
  rw [levelAfter, List.filterMap_append]
  cases h : a.level? with
  | none => simp [h, levelAfter]
  | some level => simp [h]

theorem levelAfter_append (start : Int) (acts others : List Act) :
    levelAfter start (acts ++ others) = levelAfter (levelAfter start acts) others := by
  induction others using List.reverseRecOn with
  | nil => rw [List.append_nil]; rfl
  | append_singleton others a ih =>
    rw [← List.append_assoc, levelAfter_concat, levelAfter_concat, ih]

theorem passes_concat_of_lt {package handler : Int} {acts : List Act} {k : Nat}
    (hk : k < acts.length) (a : Act) :
    passes package handler (acts ++ [a]) k = passes package handler acts k := by
  rw [passes, List.getElem?_append_left hk, List.take_append_of_le_length (Nat.le_of_lt hk), passes]

theorem passes_concat_length (package handler : Int) (acts : List Act) (a : Act) :
    passes package handler (acts ++ [a]) acts.length =
      a.passes (levelAfter package acts) (levelAfter handler acts) := by
  rw [passes, List.getElem?_concat_length, List.take_left, Option.any_some]

theorem leveled_append (j : Journal) (acts others : List Act) :
    (j.leveled acts).leveled others = j.leveled (acts ++ others) := by
  simp only [leveled, List.map_map, Function.comp_def, levelAfter_append]

/-- A call that sets no level leaves the levels. -/
theorem leveled_concat_of_none (j : Journal) (acts : List Act) {a : Act} (ha : a.level? = none) :
    j.leveled (acts ++ [a]) = j.leveled acts := by
  simp only [leveled, levelAfter_concat, ha, Option.getD_none]

theorem taken_concat_of_lt {acts : List Act} {k : Nat} (hk : k < acts.length) (a : Act) :
    j.taken (acts ++ [a]) k = j.taken acts k := by
  rw [taken, List.getElem?_append_left hk, List.take_append_of_le_length (Nat.le_of_lt hk), taken]

theorem taken_concat_length (j : Journal) (acts : List Act) (a : Act) :
    j.taken (acts ++ [a]) acts.length = (a.draft? j.bound).all (j.leveled acts).takes := by
  rw [taken, List.getElem?_concat_length, List.take_left, Option.bind_some]

/-- The line that a call adds to those of the calls before it. -/
theorem takenLines_concat (j : Journal) (own : Int) (acts : List Act) (a : Act) :
    takenLines j own (acts ++ [a]) = takenLines j own acts ++
      if a.passes (levelAfter j.level acts) (levelAfter own acts) &&
          (a.draft? j.bound).all (j.leveled acts).takes then
        ((a.draft? j.bound).bind Draft.line?).toList
      else [] := by
  have hbefore : (List.range acts.length).filter (fun k =>
        passes j.level own (acts ++ [a]) k && j.taken (acts ++ [a]) k) =
      (List.range acts.length).filter fun k => passes j.level own acts k && j.taken acts k :=
    List.filter_congr fun k hk => by
      rw [passes_concat_of_lt (List.mem_range.mp hk), taken_concat_of_lt (List.mem_range.mp hk)]
  rw [takenLines, linesAt, List.length_append, List.length_singleton, List.range_succ,
    List.filter_append, List.filterMap_append, hbefore, List.filter_singleton,
    passes_concat_length, taken_concat_length]
  congr 1
  · refine List.filterMap_congr fun k hk => ?_
    rw [List.getElem?_append_left (List.mem_range.mp (List.mem_filter.mp hk).1)]
  · cases a.passes (levelAfter j.level acts) (levelAfter own acts) &&
        (a.draft? j.bound).all (j.leveled acts).takes with
    | false => rfl
    | true => cases hline : (a.draft? j.bound).bind Draft.line? <;> simp [hline]

theorem Unfailing.takes (hj : j.Unfailing) (d : Draft) : j.takes d = true :=
  List.all_eq_true.mpr fun h _ => Option.isNone_iff_eq_none.mpr (hj.failure?_eq_none h d)

/-- A console that never fails keeps no record from a file. -/
theorem Unfailing.takenLines_eq (hj : j.Unfailing) (own : Int) (acts : List Act) :
    takenLines j own acts = passingLines j own acts := by
  have htaken (k : Nat) : j.taken acts k = true := by
    have htakes : (j.leveled (acts.take k)).takes = fun _ => true :=
      funext (Unfailing.takes (j := j.leveled (acts.take k)) hj)
    rw [taken, htakes]
    cases acts[k]?.bind (Act.draft? j.bound) <;> rfl
  simp only [takenLines, passingLines, htaken, Bool.and_true]

/-! ## 3. Handlers of a course -/

/-- These are the handlers of a journal with the levels that calls set, and files behind them. -/
def Extends (j : Journal) (acts : List Act) (handlers : List Handler) : Prop :=
  ∃ back, handlers = (j.leveled acts).handlers ++ back ∧
    ∀ h ∈ back, j.made ≤ h.number ∧ ∃ l, h.sink = .file l

namespace Extends

variable {acts : List Act} {handlers : List Handler}

theorem of_level?_eq_none (h : Extends j acts handlers) {a : Act} (ha : a.level? = none) :
    Extends j (acts ++ [a]) handlers := by
  rw [Extends, leveled_concat_of_none j acts ha]
  exact h

/-- A call that sets the level sets that of all handlers. -/
theorem map_level (h : Extends j acts handlers) (a : Act) :
    Extends j (acts ++ [a]) (handlers.map fun h => { h with level := a.level?.getD h.level }) := by
  rcases h with ⟨back, rfl, hback⟩
  refine ⟨back.map fun h => { h with level := a.level?.getD h.level }, ?_, ?_⟩
  · simp only [leveled, List.map_append, List.map_map, Function.comp_def, levelAfter_concat]
  · exact List.forall_mem_map.mpr hback

theorem concat (h : Extends j acts handlers) {new : Handler} (hnumber : j.made ≤ new.number)
    {l : Location} (hsink : new.sink = .file l) : Extends j acts (handlers ++ [new]) := by
  rcases h with ⟨back, rfl, hback⟩
  refine ⟨back ++ [new], List.append_assoc .., ?_⟩
  exact List.forall_mem_append.mpr ⟨hback, List.forall_mem_singleton.mpr ⟨hnumber, l, hsink⟩⟩

/-- Taking away a handler that was attached leaves those of the journal. -/
theorem filter_number (h : Extends j acts handlers) (hj : j.Numbered)
    {number : Nat} (hnumber : j.made ≤ number) :
    Extends j acts (handlers.filter (·.number != number)) := by
  rcases h with ⟨back, rfl, hback⟩
  have hfront : ∀ h ∈ (j.leveled acts).handlers, (h.number != number) = true := by
    refine List.forall_mem_map.mpr fun h hh => bne_iff_ne.mpr ?_
    exact Nat.ne_of_lt (Nat.lt_of_lt_of_le (hj h hh) hnumber)
  refine ⟨back.filter (·.number != number), ?_, fun h hh => hback h (List.mem_of_mem_filter hh)⟩
  rw [List.filter_append, List.filter_eq_self.mpr hfront]

end Extends

/-- The journal is in use and has the level that was set last, its handlers are files behind those
it had, and the ones that were attached have numbers of their own. -/
structure Follows (j : Journal) (acts : List Act) (s : Progress) : Prop where
  configured : s.journal.configured = true
  console : s.journal.console = j.console
  bound : s.journal.bound = j.bound
  level : s.journal.level = levelAfter j.level acts
  handlers : Extends j acts s.journal.handlers
  made : j.made ≤ s.journal.made
  length : s.made.length = acts.length
  numbers : ∀ n h, s.handler? n = some h → j.made ≤ h.number ∧ h.number < s.journal.made
  distinct : ∀ n m h h', s.handler? n = some h → s.handler? m = some h' →
    h.number = h'.number → n = m

variable {acts : List Act} {s : Progress} {α : Type}

theorem Progress.handler?_take (s : Progress) (handler? : α → Option Handler) (x : Logging α)
    {n : Nat} {h : Handler} (hn : (s.take handler? x).handler? n = some h) :
    s.handler? n = some h ∨
      n = s.made.length ∧ ∃ a, (s.journal.exec x).1 = .ok a ∧ handler? a = some h := by
  rw [Progress.handler?, take] at hn
  rcases Nat.lt_trichotomy n s.made.length with hlt | rfl | hlt
  · rw [List.getElem?_append_left hlt] at hn
    exact .inl hn
  · rw [List.getElem?_concat_length] at hn
    refine .inr ⟨rfl, ?_⟩
    cases hout : (s.journal.exec x).1 with
    | error f =>
      rw [hout] at hn
      exact absurd hn nofun
    | ok a =>
      rw [hout] at hn
      exact ⟨a, rfl, hn⟩
  · rw [List.getElem?_eq_none (by simpa [Nat.succ_le_iff] using hlt)] at hn
    exact absurd hn nofun

/-- A handler that was attached stays known. -/
theorem Progress.handler?_take_of_some {handler? : α → Option Handler} {x : Logging α} {n : Nat}
    {h : Handler} (hn : s.handler? n = some h) : (s.take handler? x).handler? n = some h := by
  rw [Progress.handler?] at hn ⊢
  have hlt : n < s.made.length := by
    by_contra hge
    rw [List.getElem?_eq_none (Nat.le_of_not_lt hge)] at hn
    exact absurd hn nofun
  rw [take, List.getElem?_append_left hlt, hn]

/-- A step keeps to the calls if it leaves what its call does not change, and numbers a handler that
it attaches. -/
theorem Follows.take {a : Act} {x : Logging α} {handler? : α → Option Handler} {after : Journal}
    (h : Follows j acts s) (hexec : (s.journal.exec x).2 = after)
    (hconfigured : after.configured = true) (hconsole : after.console = s.journal.console)
    (hbound : after.bound = s.journal.bound) (hlevel : after.level = a.level?.getD s.journal.level)
    (hhandlers : Extends j (acts ++ [a]) after.handlers) (hmade : s.journal.made ≤ after.made)
    (hnew : ∀ v h', (s.journal.exec x).1 = .ok v → handler? v = some h' →
      h'.number = s.journal.made ∧ s.journal.made < after.made) :
    Follows j (acts ++ [a]) (s.take handler? x) where
  configured := by
    rw [Progress.take, hexec]
    exact hconfigured
  console := by
    rw [Progress.take, hexec]
    exact hconsole.trans h.console
  bound := by
    rw [Progress.take, hexec]
    exact hbound.trans h.bound
  level := by
    rw [Progress.take, hexec, levelAfter_concat, ← h.level]
    exact hlevel
  handlers := by
    rw [Progress.take, hexec]
    exact hhandlers
  made := by
    rw [Progress.take, hexec]
    exact h.made.trans hmade
  length := by
    rw [Progress.take, List.length_append, List.length_append, h.length]
    rfl
  numbers n h' hn := by
    have hafter : (s.take handler? x).journal = after := hexec
    rw [hafter]
    rcases s.handler?_take handler? x hn with hn | ⟨-, v, hv, hh⟩
    · rcases h.numbers n h' hn with ⟨hle, hlt⟩
      exact ⟨hle, Nat.lt_of_lt_of_le hlt hmade⟩
    · rcases hnew v h' hv hh with ⟨hnumber, hlt⟩
      exact hnumber ▸ ⟨h.made, hlt⟩
  distinct n m h₁ h₂ hn hm hsame := by
    -- a new handler has a number that none before it has
    rcases s.handler?_take handler? x hn with hn | ⟨rfl, v, hv, hh⟩ <;>
      rcases s.handler?_take handler? x hm with hm | ⟨rfl, w, hw, hk⟩
    · exact h.distinct n m h₁ h₂ hn hm hsame
    · exact absurd (h.numbers n h₁ hn).2 (hsame ▸ (hnew w h₂ hw hk).1 ▸ Nat.lt_irrefl _)
    · exact absurd (h.numbers m h₂ hm).2 (hsame ▸ (hnew v h₁ hv hh).1 ▸ Nat.lt_irrefl _)
    · rfl

/-- One call keeps to the calls. -/
theorem Follows.perform (h : Follows j acts s) (hj : j.Numbered)
    (a : Act) : Follows j (acts ++ [a]) (s.perform a) := by
  cases a with
  | setLevel name =>
    exact h.take (journal_setLevel h.configured name) h.configured rfl rfl rfl
      (h.handlers.map_level (.setLevel name)) (Nat.le_refl _) nofun
  | attach path level =>
    rw [Progress.perform]
    have hhandlers := h.handlers.of_level?_eq_none (a := .attach path level) rfl
    rcases exec_attach h.configured path level with ⟨f, hexec⟩ | ⟨folder, -, -, hexec⟩
    · refine h.take (congrArg Prod.snd hexec) h.configured rfl rfl rfl hhandlers (Nat.le_refl _) ?_
      intro v h' hv
      rw [hexec] at hv
      cases hv
    · refine h.take (congrArg Prod.snd hexec) h.configured rfl rfl rfl (hhandlers.concat h.made rfl)
        (Nat.le_succ _) ?_
      intro v h' hv hh
      rw [hexec] at hv
      cases hv
      cases hh
      exact ⟨rfl, Nat.lt_succ_self _⟩
  | detach number =>
    have hhandlers := h.handlers.of_level?_eq_none (a := .detach number) rfl
    cases hn : s.handler? number with
    | none =>
      rw [Progress.perform_detach_of_none hn]
      exact h.take rfl h.configured rfl rfl rfl hhandlers (Nat.le_refl _) nofun
    | some h' =>
      rw [Progress.perform_detach_of_some hn]
      exact h.take rfl h.configured rfl rfl rfl (hhandlers.filter_number hj (h.numbers _ _ hn).1)
        (Nat.le_refl _) nofun
  | log time logger level template values exception? =>
    have hhandlers :=
      h.handlers.of_level?_eq_none (a := .log time logger level template values exception?) rfl
    rw [Progress.perform]
    exact h.take (congrArg Prod.snd ((exec_log ..).trans (exec_emit ..))) h.configured rfl rfl rfl
      hhandlers (Nat.le_refl _) nofun

/-- Calls keep the handlers numbered, whether or not the journal was in use before. -/
theorem Progress.numbered_run (hj : j.Numbered) (acts : List Act) :
    (Progress.run j acts).journal.Numbered := by
  induction acts using List.reverseRecOn with
  | nil => exact hj
  | append_singleton acts a ih =>
    rw [Progress.run_concat]
    cases a with
    | setLevel name => exact numbered_setLevel ih name
    | attach path level => exact numbered_attach ih path level
    | detach number =>
      cases hn : (Progress.run j acts).handler? number with
      | none =>
        rw [perform_detach_of_none hn]
        exact ih
      | some h =>
        rw [perform_detach_of_some hn]
        exact numbered_detach ih h.number
    | log time logger level template values exception? =>
      exact numbered_log ih time logger level template values exception?

/-- A whole course keeps to its calls. -/
theorem follows_run (hj : j.configured = true) (hnumbers : j.Numbered)
    (acts : List Act) : Follows j acts (Progress.run j acts) := by
  induction acts using List.reverseRecOn with
  | nil =>
    have hnone : ∀ n h, (Progress.run j []).handler? n ≠ some h := fun n h hn => absurd hn nofun
    have hhandlers : Extends j [] j.handlers :=
      ⟨[], ((List.append_nil _).trans (List.map_id _)).symm, nofun⟩
    exact ⟨hj, rfl, rfl, rfl, hhandlers, Nat.le_refl _, rfl, fun n h hn => absurd hn (hnone n h),
      fun n m h h' hn => absurd hn (hnone n h)⟩
  | append_singleton acts a ih =>
    rw [Progress.run_concat]
    exact ih.perform hnumbers a

/-- The file that a call attaches. -/
def Act.target? : Act → Option Location
  | .attach path _ => some path.simplified
  | _ => none

theorem Progress.handler?_perform_of_some {n : Nat} {h : Handler} (hn : s.handler? n = some h)
    (a : Act) : (s.perform a).handler? n = some h := by
  cases a with
  | setLevel name => exact handler?_take_of_some hn
  | attach path level => exact handler?_take_of_some hn
  | detach number =>
    cases hnumber : s.handler? number with
    | none =>
      rw [perform_detach_of_none hnumber]
      exact handler?_take_of_some hn
    | some _ =>
      rw [perform_detach_of_some hnumber]
      exact handler?_take_of_some hn
  | log time logger level template values exception? => exact handler?_take_of_some hn

theorem Progress.handler?_run_append {n : Nat} {h : Handler}
    (hn : (run j acts).handler? n = some h) (others : List Act) :
    (run j (acts ++ others)).handler? n = some h := by
  induction others using List.reverseRecOn with
  | nil => rwa [List.append_nil]
  | append_singleton others a ih =>
    rw [← List.append_assoc, run_concat]
    exact handler?_perform_of_some ih a

/-- A call that detaches another handler detaches one with another number. -/
theorem Follows.number_ne_of_detach (h : Follows j acts s) {n : Nat} {kept : Handler}
    (hkept : s.handler? n = some kept) {a : Act} (ha : Act.detach n ≠ a) :
    ∀ m gone, a = .detach m → s.handler? m = some gone → kept.number ≠ gone.number := by
  rintro m gone rfl hgone hsame
  exact ha (congrArg Act.detach (h.distinct n m kept gone hkept hgone hsame))

theorem grows_emit (j : Journal) (d : Draft) :
    j.folder.Grows (j.exec (emit d)).2.folder := by
  rw [exec_emit]
  exact grows_writes _ _ _

/-- What is there stays there. -/
theorem Progress.grows_perform (hs : s.journal.configured = true) (a : Act) :
    s.journal.folder.Grows (s.perform a).journal.folder := by
  cases a with
  | setLevel name =>
    rw [perform, take, journal_setLevel hs]
    exact .refl _
  | attach path level =>
    rw [perform, take]
    rcases exec_attach hs path level with ⟨f, hexec⟩ | ⟨folder, -, hgrows, hexec⟩
    · rw [hexec]
      exact .refl _
    · rw [hexec]
      exact hgrows
  | detach number =>
    cases hn : s.handler? number with
    | none =>
      rw [perform_detach_of_none hn]
      exact .refl _
    | some h =>
      rw [perform_detach_of_some hn]
      exact .refl _
  | log time logger level template values exception? =>
    rw [perform, take, exec_log]
    exact grows_emit _ _

/-- What is no directory after a call was none before it. -/
theorem Progress.isDirectory_of_perform (hs : s.journal.configured = true) {a : Act} {l : Location}
    (h : (s.perform a).journal.folder.isDirectory l = false) :
    s.journal.folder.isDirectory l = false := by
  rw [Bool.eq_false_iff] at h ⊢
  exact fun hdir => h (Folder.isDirectory_of_grows (grows_perform hs a) hdir)

/-! ## 4. A file that nothing writes to -/

/-- Nothing writes to a file unless it is attached. -/
theorem Progress.quiet_perform (hs : s.journal.configured = true) (hw : s.journal.writers l = [])
    {a : Act} (ha : a.target? ≠ some l) :
    (s.perform a).journal.writers l = [] ∧
      (s.perform a).journal.folder.octets l = s.journal.folder.octets l := by
  cases a with
  | setLevel name =>
    rw [perform, take, writers_setLevel hs, hw, journal_setLevel hs]
    exact ⟨rfl, rfl⟩
  | attach path level =>
    have hpath : path.simplified ≠ l := fun hsame => ha (congrArg some hsame)
    rw [perform, take, writers_attach_of_ne hs hpath, hw, octets_attach hs]
    exact ⟨rfl, rfl⟩
  | detach number =>
    cases hn : s.handler? number with
    | none =>
      rw [perform_detach_of_none hn]
      exact ⟨hw, rfl⟩
    | some h =>
      rw [perform_detach_of_some hn, take, writers_detach, hw]
      exact ⟨rfl, rfl⟩
  | log time logger level template values exception? =>
    rw [perform, take, exec_log]
    exact ⟨(writers_emit _ _ l).trans hw, octets_emit_of_no_writers _ hw⟩

theorem Progress.quiet_run (hj : j.configured = true)
    (hnumbers : j.Numbered) (acts : List Act) {others : List Act}
    (hw : (run j acts).journal.writers l = []) (ho : l ∉ others.filterMap Act.target?) :
    (run j (acts ++ others)).journal.writers l = [] ∧
      (run j (acts ++ others)).journal.folder.octets l = (run j acts).journal.folder.octets l := by
  induction others using List.reverseRecOn with
  | nil =>
    rw [List.append_nil]
    exact ⟨hw, rfl⟩
  | append_singleton others a ih =>
    rw [List.filterMap_append, List.mem_append, not_or] at ho
    rcases ih ho.1 with ⟨hwriters, hoctets⟩
    have ha : a.target? ≠ some l := fun hsome => ho.2 (by simp [hsome])
    rcases quiet_perform (follows_run hj hnumbers _).configured hwriters ha with
      ⟨hwriters', hoctets'⟩
    rw [← List.append_assoc, run_concat]
    exact ⟨hwriters', hoctets'.trans hoctets⟩

/-! ## 5. A file that one handler writes to -/

variable {w : Handler}

/-- A record that passes reaches the one writer of a file unless a handler of the journal that the
course began with fails at it. -/
theorem Follows.filter_reached (h : Follows j acts s) (hnone : j.writers l = [])
    (hw : s.journal.writers l = [w]) (d : Draft) :
    (s.journal.reached d).filter (fun h => decide (h.sink = .file l)) =
      if effective s.journal.level ≤ d.level.number ∧ w.level ≤ d.level.number ∧
          (j.leveled acts).takes d = true then [w]
      else [] := by
  rcases h.handlers with ⟨back, hhandlers, hback⟩
  have hfront : ∀ h ∈ (j.leveled acts).handlers, h.sink ≠ .file l := by
    refine List.forall_mem_map.mpr fun h hh hsink => ?_
    have hwriter : h ∈ j.writers l := List.mem_filter.mpr ⟨hh, decide_eq_true hsink⟩
    rw [hnone] at hwriter
    cases hwriter
  have htakes : takes { s.journal with handlers := (j.leveled acts).handlers } d =
      (j.leveled acts).takes d := by
    simp only [takes, due, threshold, leveled, h.console, h.level]
    rfl
  rw [Journal.filter_reached hhandlers hfront (fun h hh => (hback h hh).2), htakes, filter_due, hw,
    List.filter_singleton, threshold_eq]
  by_cases hpackage : effective s.journal.level ≤ d.level.number
  · by_cases hown : w.level ≤ d.level.number
    · simp [hpackage, hown]
    · simp [hown]
  · simp [hpackage]

/-- The file gets the line of the call if it passes and is taken, and setting the level sets that of
the handler. -/
theorem Progress.recording_perform (h : Follows j acts s) (hnone : j.writers l = [])
    (hw : s.journal.writers l = [w]) {a : Act} (ha : a.target? ≠ some l)
    (hd : ∀ n h, a = .detach n → s.handler? n = some h → w.number ≠ h.number)
    (hl : (s.perform a).journal.folder.isDirectory l = false) :
    (s.perform a).journal.writers l = [{ w with level := a.level?.getD w.level }] ∧
    (s.perform a).journal.folder.octets l = s.journal.folder.octets l ++
      if a.passes s.journal.level w.level && (a.draft? j.bound).all (j.leveled acts).takes then
        octetsOf ((a.draft? j.bound).bind Draft.line?).toList
      else [] := by
  have hs := h.configured
  cases a with
  | setLevel name =>
    rw [perform, take, writers_setLevel hs, hw, journal_setLevel hs]
    exact ⟨rfl, (List.append_nil _).symm⟩
  | attach path level =>
    have hpath : path.simplified ≠ l := fun hsame => ha (congrArg some hsame)
    rw [perform, take, writers_attach_of_ne hs hpath, hw, octets_attach hs]
    exact ⟨rfl, (List.append_nil _).symm⟩
  | detach number =>
    cases hn : s.handler? number with
    | none =>
      rw [perform_detach_of_none hn]
      exact ⟨hw, (List.append_nil _).symm⟩
    | some h =>
      have hkept : (w.number != h.number) = true := bne_iff_ne.mpr (hd number h rfl hn)
      rw [perform_detach_of_some hn, take, writers_detach, hw, List.filter_singleton, hkept]
      exact ⟨rfl, (List.append_nil _).symm⟩
  | log time logger level template values exception? =>
    rw [perform, take, exec_log] at hl ⊢
    rw [writers_emit, hw, octets_emit _ hl, h.filter_reached hnone hw, h.bound]
    refine ⟨rfl, congrArg _ ?_⟩
    simp only [Act.passes, Act.draft?, Option.all_some, Option.bind_some, Bool.and_eq_true,
      decide_eq_true_eq, and_assoc]
    split
    · exact List.flatMap_singleton ..
    · rfl

section

variable {before : List Act} {path : Location} {level : Option Int} {h : Handler}

/-- A file that is attached has one writer, and nothing has been written to it. -/
theorem Progress.attach_run (hj : j.configured = true)
    (hnumbers : j.Numbered) (hnone : j.writers path.simplified = [])
    (hother : path.simplified ∉ before.filterMap Act.target?)
    (hmade : (run j (before ++ [.attach path level])).handler? before.length = some h) :
    h.level = level.getD (levelAfter j.level before) ∧
    (run j (before ++ [.attach path level])).journal.writers path.simplified = [h] ∧
    (run j (before ++ [.attach path level])).journal.folder.octets path.simplified =
      j.folder.octets path.simplified := by
  rcases quiet_run hj hnumbers [] hnone hother with ⟨hwriters, hoctets⟩
  rw [List.nil_append] at hwriters hoctets
  have hfollows := follows_run hj hnumbers before
  rw [run_concat] at hmade ⊢
  rcases handler?_take _ some _ hmade with hn | ⟨-, v, hv, hh⟩
  · rw [handler?, List.getElem?_eq_none (Nat.le_of_eq hfollows.length)] at hn
    cases hn
  · cases hh
    have hkept := (octets_attach hfollows.configured path level _).trans hoctets
    rcases exec_attach hfollows.configured path level with ⟨f, hexec⟩ | ⟨folder, -, -, hexec⟩
    · rw [hexec] at hv
      cases hv
    · rw [hexec] at hv
      cases hv
      refine ⟨by rw [hfollows.level], ?_, hkept⟩
      rw [perform, take, hexec, writers, List.filter_append, ← writers, hwriters]
      simp

/-- A file that was attached has one writer as long as that is not detached, and gets the lines of
the records that pass and are taken. -/
theorem Progress.recording_run (hj : j.configured = true)
    (hnumbers : j.Numbered) {during : List Act}
    (hnone : j.writers path.simplified = [])
    (hother : path.simplified ∉ (before ++ during).filterMap Act.target?)
    (hmade : (run j (before ++ [.attach path level])).handler? before.length = some h)
    (hstays : Act.detach before.length ∉ during)
    (hfile : (run j (before ++ .attach path level :: during)).journal.folder.isDirectory
      path.simplified = false) :
    let found := j.leveled before
    let own := level.getD found.level
    let s := run j (before ++ .attach path level :: during)
    s.journal.writers path.simplified = [{ h with level := levelAfter own during }] ∧
      s.journal.folder.octets path.simplified =
        j.folder.octets path.simplified ++ octetsOf (takenLines found own during) := by
  intro found own
  induction during using List.reverseRecOn with
  | nil =>
    rw [List.append_nil] at hother
    rcases attach_run hj hnumbers hnone hother hmade with ⟨hlevel, hwriters, hoctets⟩
    refine ⟨hwriters.trans ?_, hoctets.trans (List.append_nil _).symm⟩
    rcases h with ⟨number, sink, handlerLevel⟩
    cases hlevel
    rfl
  | append_singleton during a ih =>
    -- what is known after all calls but the last one
    have hsplit : before ++ .attach path level :: (during ++ [a]) =
        before ++ .attach path level :: during ++ [a] := by
      rw [List.append_assoc, List.cons_append]
    have hfollows := follows_run hj hnumbers (before ++ .attach path level :: during)
    rw [← List.append_assoc, List.filterMap_append, List.mem_append, not_or] at hother
    rw [List.mem_append, not_or, List.mem_singleton] at hstays
    rw [hsplit, run_concat] at hfile ⊢
    have hbefore := isDirectory_of_perform hfollows.configured hfile
    rcases ih hother.1 hstays.1 hbefore with ⟨hwriters, hoctets⟩
    have ha : a.target? ≠ some path.simplified := fun hsome => hother.2 (by simp [hsome])
    have hlevel : (run j (before ++ .attach path level :: during)).journal.level =
        levelAfter found.level during := hfollows.level.trans (levelAfter_append _ _ _)
    have hleveled : j.leveled (before ++ .attach path level :: during) = found.leveled during :=
      (leveled_append j before _).symm
    have hknown := handler?_run_append hmade during
    rw [List.append_assoc, List.singleton_append] at hknown
    have hd := hfollows.number_ne_of_detach hknown hstays.2
    rcases recording_perform hfollows hnone hwriters ha hd hfile with ⟨hwriters', hoctets'⟩
    refine ⟨?_, ?_⟩
    · rw [hwriters', levelAfter_concat]
    · rw [hoctets', hoctets, hlevel, hleveled, takenLines_concat, octetsOf_append,
        List.append_assoc]
      congr 2
      rw [apply_ite octetsOf]
      rfl

end

/-! ## 6. What an attached file holds -/

/-- The call sets the level or makes a record. -/
def Act.matters : Act → Bool
  | .setLevel _ | .log _ _ _ _ _ _ => true
  | .attach _ _ | .detach _ => false

theorem Act.of_not_matters {a : Act} (h : a.matters = false) (package handler : Int) :
    a.level? = none ∧ a.passes package handler = false := by
  cases a with
  | setLevel name => cases h
  | attach path level => exact ⟨rfl, rfl⟩
  | detach number => exact ⟨rfl, rfl⟩
  | log time logger level template values exception? => cases h

theorem levelAfter_filter_matters (start : Int) (acts : List Act) :
    levelAfter start (acts.filter Act.matters) = levelAfter start acts := by
  have hsets : (fun a => if Act.matters a then Act.level? a else none) = Act.level? := by
    funext a
    cases a <;> rfl
  rw [levelAfter, List.filterMap_filter, hsets, levelAfter]

/-- What is attached besides, and what is detached, does not matter to a file. -/
theorem takenLines_filter_matters (j : Journal) (own : Int) (acts : List Act) :
    takenLines j own (acts.filter Act.matters) = takenLines j own acts := by
  have hleveled (acts : List Act) : j.leveled (acts.filter Act.matters) = j.leveled acts := by
    simp only [leveled, levelAfter_filter_matters]
  induction acts using List.reverseRecOn with
  | nil => rfl
  | append_singleton acts a ih =>
    rw [List.filter_append, List.filter_singleton, takenLines_concat]
    cases hmatters : a.matters with
    | false =>
      rw [(Act.of_not_matters hmatters _ _).2, cond_false, List.append_nil, ih]
      exact (List.append_nil _).symm
    | true =>
      rw [cond_true, takenLines_concat, ih, levelAfter_filter_matters, levelAfter_filter_matters,
        hleveled]

/-- The levels from debug to critical count as they are. -/
theorem levelOf_eq_of_ofName? {name : String} {l : Level}
    (h : Level.ofName? (capitals name) = some l) :
    levelOf name = .ok l.number ∧ effective l.number = l.number := by
  have hplain : (misleadingNames.lookup l.name).isNone = true := by
    cases l <;> rfl
  have hlevel : levelNames.lookup l.name = some l.number := by
    cases l <;> rfl
  refine ⟨?_, by cases l <;> rfl⟩
  rw [levelOf, ← Level.name_of_ofName? h, Option.isNone_iff_eq_none.mp hplain, hlevel]
  rfl

/-- **An attached file gets every record that passes, once each and in order.**  Let a file that
nothing writes to be attached, by a call that succeeds, and not be detached in the calls that come
after it, nor a directory be made in its place.  Then it holds what it held before and the lines of
those records among these calls whose level was at that moment at least the level of the journal and
at least that of the handler, and at which no handler from before the calls failed; if its console
never fails, these are all that pass.  Only a record that cannot be written has no line.  Both
levels are what was set last; before anything is set, the handler's is the one it was attached with,
or that of the journal at the time.  From the moment when it is detached on the file stays as it is.
What other files are attached and detached meanwhile does not matter. -/
theorem attached_file_gets_what_passes {j : Journal} (hj : j.configured = true)
    (hnumbers : j.Numbered) {before during : List Act} {path : Location}
    {level : Option Int} {h : Handler} (hnone : j.writers path.simplified = [])
    (hother : path.simplified ∉ (before ++ during).filterMap Act.target?)
    (hmade : (Progress.run j (before ++ [.attach path level])).handler? before.length = some h)
    (hstays : Act.detach before.length ∉ during)
    (hfile : (Progress.run j (before ++ .attach path level :: during)).journal.folder.isDirectory
      path.simplified = false) :
    let found := j.leveled before
    let own := level.getD found.level
    let lines := takenLines found own during
    let acts := before ++ .attach path level :: during
    (Progress.run j acts).journal.folder.octets path.simplified =
      j.folder.octets path.simplified ++ octetsOf lines ∧
    (j.Unfailing → lines = passingLines found own during) ∧
    (∀ after, path.simplified ∉ after.filterMap Act.target? →
      (Progress.run j (acts ++ .detach before.length :: after)).journal.folder.octets
          path.simplified =
        j.folder.octets path.simplified ++ octetsOf lines) ∧
    lines = takenLines found own (during.filter Act.matters) ∧
    ∀ name l, Level.ofName? (capitals name) = some l →
      levelOf name = .ok l.number ∧ effective l.number = l.number := by
  intro found own lines acts
  rcases Progress.recording_run hj hnumbers hnone hother hmade hstays hfile with
    ⟨hwriters, hoctets⟩
  refine ⟨hoctets, fun hunfailing => ?_, fun after hafter => ?_,
    (takenLines_filter_matters _ _ _).symm, fun name l => levelOf_eq_of_ofName?⟩
  · exact Unfailing.takenLines_eq (j := found) hunfailing own during
  -- the only writer is gone
  have hknown := Progress.handler?_run_append hmade during
  rw [List.append_assoc, List.singleton_append] at hknown
  have hgone : (Progress.run j (acts ++ [.detach before.length])).journal.writers path.simplified =
      [] := by
    rw [Progress.run_concat, Progress.perform_detach_of_some hknown, Progress.take, writers_detach,
      hwriters]
    simp
  have hsame : (Progress.run j (acts ++ [.detach before.length])).journal.folder =
      (Progress.run j acts).journal.folder := by
    rw [Progress.run_concat, Progress.perform_detach_of_some hknown]
    rfl
  rw [← List.singleton_append, ← List.append_assoc,
    (Progress.quiet_run hj hnumbers _ hgone hafter).2, hsame, hoctets]

/-! ### A level that is raised meanwhile, and a text that is no markup -/

def runLog : Location := { names := ["run.log"] }

/-- A tag that closes nothing. -/
def stray : String := "[/x]"

/-- A console that fails at it if it reads markup. -/
def reader : Console := fun markup d =>
  if markup && d.template == stray then
    some (.foreign "MarkupError"
      [.str "closing tag '[/x]' at position 0 doesn't match any open tag"])
  else none

/-- The file is there from before. -/
def inUse : Journal :=
  { folder := { here := "/", files := [(runLog, [0x7b, 0x7d, 0x0a])] }, configured := true
    console := reader
    handlers := [{ number := 0, sink := .console true, level := 20 }], made := 1 }

def said (level : Level) (message : String) : Act :=
  .log "TS" { name := "treewright" } level message [] none

def saidLine (level : Level) (message : String) : String :=
  Record.line "TS" { level, logger := "treewright", message }

def lowered : List Act := [.setLevel "debug"]

/-- Another file is attached for a while, and the level is raised. -/
def raised : List Act :=
  [said .debug "a", .attach { names := ["other.log"] } (some 40), .setLevel "Warning",
    said .info "b", .detach 3, said .error stray, said .error "c"]

theorem attached_file_gets_what_passes_raised :
    inUse.configured = true ∧ inUse.Numbered ∧
    inUse.writers runLog.simplified = [] ∧
    runLog.simplified ∉ (lowered ++ raised).filterMap Act.target? ∧
    Act.detach lowered.length ∉ raised ∧
    let acts := lowered ++ .attach runLog none :: raised
    let late := acts ++ [.detach lowered.length, said .critical "d"]
    let octets := [0x7b, 0x7d, 0x0a] ++ octetsOf [saidLine .debug "a", saidLine .error "c"]
    (Progress.run inUse acts).journal.folder.isDirectory runLog.simplified = false ∧
    (Progress.run inUse acts).journal.folder.octets runLog.simplified = octets ∧
    (Progress.run inUse late).journal.folder.octets runLog.simplified = octets := by
  have hmade : (Progress.run inUse (lowered ++ [.attach runLog none])).handler? lowered.length =
      some { number := 1, sink := .file runLog, level := 10 } := rfl
  have hother : runLog.simplified ∉ (lowered ++ raised).filterMap Act.target? := by decide
  have hstays : Act.detach lowered.length ∉ raised := by simp [raised, said, lowered]
  have hfile : (Progress.run inUse
      (lowered ++ .attach runLog none :: raised)).journal.folder.isDirectory
        runLog.simplified = false := rfl
  have hlines : takenLines (inUse.leveled lowered)
      ((none : Option Int).getD (inUse.leveled lowered).level) raised =
        [saidLine .debug "a", saidLine .error "c"] := rfl
  have hnumbers : inUse.Numbered := by simp [Numbered, inUse]
  rcases attached_file_gets_what_passes (j := inUse) rfl hnumbers rfl hother hmade hstays hfile with
    ⟨hoctets, -, hafter, -⟩
  rw [hlines] at hoctets hafter
  refine ⟨rfl, hnumbers, rfl, hother, hstays, hfile, hoctets, hafter [said .critical "d"] ?_⟩
  simp [said, Act.target?]

end UiTree.Journal
