import UiTree.Proofs.Journal.Context
import UiTree.Proofs.Journal.Logging

/-!
# Scoping — contexts of records over whole courses of calls

Loggers without a context of their own share what is bound in the journal; one made with a context
keeps what was bound when it was made.  Over any course of calls the records of the first kind carry
what stands after all bindings so far, those of the second what stood after the bindings before
their logger, overridden and extended by its own keys.
-/

namespace UiTree.Journal

open UiTree.Json

variable {α β : Type}

/-! ## 1. Steps that leave what is bound -/

/-- In a journal where this is bound, it stays bound. -/
def Leaves (bound : Context) (x : Logging α) : Prop :=
  ∀ j : Journal, j.bound = bound → (j.exec x).2.bound = bound

variable {bound : Context}

theorem leaves_pure (a : α) : Leaves bound (pure a : Logging α) := fun _ h => h

theorem leaves_fail (f : Failure) : Leaves bound (fail f : Logging α) := fun _ h => h

theorem leaves_lift (x : Except Fault α) : Leaves bound (liftM x : Logging α) := by
  cases x <;> exact fun _ h => h

theorem leaves_set {j : Journal} (h : j.bound = bound) : Leaves bound (set j : Logging PUnit) :=
  fun _ _ => h

theorem leaves_modify {f : Journal → Journal} (h : ∀ j, (f j).bound = j.bound) :
    Leaves bound (modify f : Logging PUnit) := fun j hj => (h j).trans hj

theorem Leaves.bind {x : Logging α} {k : α → Logging β} (hx : Leaves bound x)
    (hk : ∀ a, Leaves bound (k a)) : Leaves bound (x >>= k) := by
  intro j hj
  rw [exec_bind]
  cases (j.exec x).1 with
  | error f => exact hx j hj
  | ok a => exact hk a _ (hx j hj)

theorem leaves_get_bind {k : Journal → Logging α}
    (hk : ∀ j : Journal, j.bound = bound → Leaves bound (k j)) : Leaves bound (get >>= k) :=
  fun j hj => hk j hj j hj

theorem leaves_addHandler (sink : Sink) (level : Int) : Leaves bound (addHandler sink level) :=
  fun _ hj => hj

theorem leaves_configure : Leaves bound configure := by
  rw [configure]
  refine leaves_get_bind fun j hj => ?_
  have hdone : Leaves bound (modify fun j => { j with configured := true }) :=
    leaves_modify fun _ => rfl
  by_cases hconfigured : j.configured
  · rw [if_pos hconfigured]
    exact leaves_pure ()
  · rw [if_neg hconfigured]
    refine (leaves_lift _).bind fun settings => ?_
    refine Leaves.bind (leaves_set ?_) fun _ => (leaves_addHandler _ _).bind fun _ => ?_
    · exact hj
    split
    · dsimp only
      split
      · exact (leaves_fail _).bind fun _ => hdone
      · refine Leaves.bind (leaves_modify ?_) fun _ => (leaves_addHandler _ _).bind fun _ => hdone
        exact fun _ => rfl
    · exact hdone

theorem leaves_logger (name : String) : Leaves bound (logger name) :=
  leaves_configure.bind fun _ => leaves_pure _

theorem leaves_withContext (l : Logger) (context : Context) :
    Leaves bound (withContext l context) := by
  rw [withContext]
  split
  · exact leaves_fail _
  · exact leaves_get_bind fun _ _ => leaves_pure _

theorem leaves_emit (d : Draft) : Leaves bound (emit d) := by
  intro j hj
  rw [exec_emit]
  exact hj

theorem leaves_log (time : String) (l : Logger) (level : Level) (template : String)
    (values : List Json) (exception? : Option String) :
    Leaves bound (log time l level template values exception?) :=
  leaves_get_bind fun _ _ => leaves_emit _

/-! ## 2. Courses of calls -/

/-- What is done with a journal; a logger is told by the number of the call that made it. -/
inductive Call
  | bind (fields : Context)
  | unbind (keys : List String)
  | logger (name : String)
  /-- Makes a logger with a context of its own, under the name of another logger. -/
  | scope (base : Nat) (fields : Context)
  | log (time : String) (number : Nat) (level : Level) (template : String) (values : List Json)
      (exception? : Option String)

/-- How far calls have come. -/
structure Course where
  journal : Journal
  /-- The logger that each call made, if it made one. -/
  made : List (Option Logger) := []

namespace Course

def logger? (s : Course) (number : Nat) : Option Logger := s.made[number]?.join

/-- Takes a step; one that fails makes no logger. -/
def take (s : Course) (logger? : α → Option Logger) (x : Logging α) : Course :=
  { journal := (s.journal.exec x).2
    made := s.made ++ [(s.journal.exec x).1.toOption.bind logger?] }

/-- Makes a call; nothing is done with a logger that is not there. -/
def perform (s : Course) : Call → Course
  | .bind fields => s.take (fun _ => none) (Journal.bind fields)
  | .unbind keys => s.take (fun _ => none) (unbind keys)
  | .logger name => s.take some (logger name)
  | .scope base fields =>
    match s.logger? base with
    | some l => s.take some (withContext l fields)
    | none => s.take (fun _ => none) (pure ())
  | .log time number level template values exception? =>
    match s.logger? number with
    | some l => s.take (fun _ => none) (log time l level template values exception?)
    | none => s.take (fun _ => none) (pure ())

/-- All calls in turn, beginning with a journal. -/
def run (j : Journal) (calls : List Call) : Course := calls.foldl perform { journal := j }

end Course

/-- What a call does to the keys of the context. -/
def Call.events : Call → List Event
  | .bind fields => fields.map fun (k, v) => .set k v
  | .unbind keys => keys.map .drop
  | .logger _ | .scope _ _ | .log _ _ _ _ _ _ => []

def history (calls : List Call) : List Event := calls.flatMap Call.events

/-- The context that a logger made by a call gives to its records after all calls. -/
def Carries (calls : List Call) (number : Nat) (context : Context) : Prop :=
  match calls[number]? with
  | some (.logger _) => Stands (history calls) context
  | some (.scope _ fields) => ∃ before, Stands (history (calls.take number)) before ∧
      (∀ k, context.lookup k = (last? fields k).or (before.lookup k)) ∧
      keys context = keys before ++ ((keys fields).filter (· ∉ keys before)).eraseDups
  | _ => False

/-! ## 3. Loggers of a course -/

/-- What a logger is if it was made by a call. -/
def Origin (calls : List Call) (number : Nat) (l : Logger) : Prop :=
  match calls[number]? with
  | some (.logger _) => l.scope = none
  | some (.scope _ fields) =>
    ∃ before, Stands (history (calls.take number)) before ∧ l.scope = some (overlay before fields)
  | _ => False

/-- The journal has the context that stands, and the loggers are those that the calls made. -/
structure Fits (calls : List Call) (s : Course) : Prop where
  length : s.made.length = calls.length
  stands : Stands (history calls) s.journal.bound
  origin : ∀ n l, s.logger? n = some l → Origin calls n l

theorem history_concat (calls : List Call) (call : Call) :
    history (calls ++ [call]) = history calls ++ call.events := by
  rw [history, List.flatMap_append, List.flatMap_singleton, history]

theorem Origin.concat {calls : List Call} {n : Nat} {l : Logger} (h : Origin calls n l)
    (call : Call) : Origin (calls ++ [call]) n l := by
  have hn : n < calls.length := by
    by_contra hge
    rw [Origin, List.getElem?_eq_none (Nat.le_of_not_lt hge)] at h
    exact h
  rwa [Origin, List.getElem?_append_left hn, List.take_append_of_le_length (Nat.le_of_lt hn)]

/-- A step that does to the context what its call stands for keeps the fit, if its logger is one
that the call makes. -/
theorem Fits.take {calls : List Call} {s : Course} {call : Call} {x : Logging α}
    {logger? : α → Option Logger} (h : Fits calls s)
    (hbound : (s.journal.exec x).2.bound = call.events.foldl Event.apply s.journal.bound)
    (hmade : ∀ a l, (s.journal.exec x).1 = .ok a → logger? a = some l →
      Origin (calls ++ [call]) calls.length l) :
    Fits (calls ++ [call]) (s.take logger? x) where
  length := by
    rw [Course.take, List.length_append, List.length_append, h.length]
    rfl
  stands := by
    rw [history_concat, Course.take, hbound]
    exact h.stands.append call.events
  origin n l hl := by
    rw [Course.logger?, Course.take] at hl
    -- a call before made the logger, or this one did; there are no others
    rcases Nat.lt_trichotomy n s.made.length with hn | rfl | hn
    · rw [List.getElem?_append_left hn] at hl
      exact (h.origin n l hl).concat call
    · rw [List.getElem?_concat_length] at hl
      cases hout : (s.journal.exec x).1 with
      | error f =>
        rw [hout] at hl
        exact absurd hl nofun
      | ok a =>
        rw [hout] at hl
        exact h.length ▸ hmade a l hout hl
    · rw [List.getElem?_eq_none (by simpa [Nat.succ_le_iff] using hn)] at hl
      exact absurd hl nofun

theorem eq_of_exec_logger {j : Journal} {name : String} {l : Logger}
    (h : (j.exec (logger name)).1 = .ok l) : l = { name := fullName name } := by
  rw [logger, exec_bind] at h
  cases hconfigured : (j.exec configure).1 with
  | error f =>
    rw [hconfigured] at h
    exact absurd h nofun
  | ok _ =>
    rw [hconfigured] at h
    exact (Except.ok.inj h).symm

theorem eq_of_exec_withContext {j : Journal} {l made : Logger} {fields : Context}
    (h : (j.exec (withContext l fields)).1 = .ok made) :
    made = { l with scope := some (overlay j.bound fields) } := by
  rw [withContext] at h
  split at h
  · exact absurd h nofun
  · exact (Except.ok.inj h).symm

/-- One call keeps the fit. -/
theorem Fits.perform {calls : List Call} {s : Course} (h : Fits calls s) :
    ∀ call, Fits (calls ++ [call]) (s.perform call)
  | .bind fields => h.take (overlay_eq_foldl s.journal.bound fields) nofun
  | .unbind keys => h.take (filter_eq_foldl s.journal.bound keys) nofun
  | .logger name => by
    refine h.take (leaves_logger name _ rfl) fun a l ha hl => ?_
    rw [Origin, List.getElem?_concat_length, ← Option.some.inj hl, eq_of_exec_logger ha]
  | .scope base fields => by
    rw [Course.perform]
    cases s.logger? base with
    | none => exact h.take rfl nofun
    | some l =>
      refine h.take (leaves_withContext l fields _ rfl) fun a made ha hmade => ?_
      rw [Origin, List.getElem?_concat_length, List.take_left, ← Option.some.inj hmade,
        eq_of_exec_withContext ha]
      exact ⟨s.journal.bound, h.stands, rfl⟩
  | .log time number level template values exception? => by
    rw [Course.perform]
    cases s.logger? number with
    | none => exact h.take rfl nofun
    | some l => exact h.take (leaves_log time l level template values exception? _ rfl) nofun

/-- A whole course fits its calls. -/
theorem fits_run {j : Journal} (hbound : j.bound = []) (calls : List Call) :
    Fits calls (Course.run j calls) := by
  induction calls using List.reverseRecOn with
  | nil => exact ⟨rfl, hbound ▸ stands_nil, fun n l hl => absurd hl nofun⟩
  | append_singleton calls call ih =>
    rw [Course.run, List.foldl_append]
    exact ih.perform call

/-! ## 4. Contexts of records -/

theorem Carries.unique {calls : List Call} {number : Nat} {context other : Context}
    (h : Carries calls number context) (hother : Carries calls number other) : other = context := by
  rw [Carries] at h hother
  split at h
  · rename_i hcall
    rw [hcall] at hother
    exact hother.unique h
  · rename_i fields hcall
    rw [hcall] at hother
    rcases h with ⟨before, hbefore, hlookup, hkeys⟩
    rcases hother with ⟨before', hbefore', hlookup', hkeys'⟩
    cases hbefore'.unique hbefore
    refine eq_of_keys_eq ?_ (hkeys'.trans hkeys.symm) fun k => (hlookup' k).trans (hlookup k).symm
    rw [hkeys', ← keys_merge]
    exact nodup_keys_merge hbefore.nodup fields
  · exact h.elim

theorem Carries.of_mem_keys {calls : List Call} {number : Nat} {context : Context} {k : String}
    (h : Carries calls number context) (hk : k ∈ keys context) :
    (∃ v, Event.set k v ∈ history calls) ∨
      ∃ base fields, calls[number]? = some (.scope base fields) ∧ k ∈ keys fields := by
  rw [Carries] at h
  split at h
  · exact .inl (h.exists_set hk)
  · rename_i base fields hcall
    rcases h with ⟨before, hbefore, -, hkeys⟩
    rw [hkeys, List.mem_append, List.mem_eraseDups, List.mem_filter] at hk
    rcases hk with hk | ⟨hk, -⟩
    · rcases hbefore.exists_set hk with ⟨v, hv⟩
      rcases List.mem_flatMap.mp hv with ⟨call, hcall, hv⟩
      exact .inl ⟨v, List.mem_flatMap.mpr ⟨call, List.mem_of_mem_take hcall, hv⟩⟩
    · exact .inr ⟨base, fields, hcall, hk⟩
  · exact h.elim

theorem perform_log {s : Course} {number : Nat} {l : Logger} (hmade : s.logger? number = some l)
    (time : String) (level : Level) (template : String) (values : List Json)
    (exception? : Option String) :
    s.perform (.log time number level template values exception?) =
      s.take (fun _ => none) (emit { time, level, logger := l.name, template, values, exception?,
                                     context := l.scope.getD s.journal.bound }) := by
  simp only [Course.perform, hmade, Course.take, exec_log]

/-- **Records carry what is bound, or what their logger was made with**: a logger without a context
of its own gives to a record what stands after the bindings so far, one with a context what stood
after the bindings before it was made, overridden and extended by its own keys.  So a key is in a
record only if it was bound in the journal or is one of its own logger's. -/
theorem records_carry {j : Journal} (hbound : j.bound = []) (calls : List Call) {number : Nat}
    {l : Logger} (hmade : (Course.run j calls).logger? number = some l) :
    ∃ context, Carries calls number context ∧
      (∀ other, Carries calls number other → other = context) ∧
      (∀ k ∈ keys context, (∃ v, Event.set k v ∈ history calls) ∨
        ∃ base fields, calls[number]? = some (.scope base fields) ∧ k ∈ keys fields) ∧
      ∀ time level template values exception?,
        (Course.run j calls).perform (.log time number level template values exception?) =
          (Course.run j calls).take (fun _ : Unit => none)
            (emit { time, level, logger := l.name, template, values, exception?, context }) := by
  have hfits := fits_run hbound calls
  have horigin := hfits.origin number l hmade
  refine ⟨l.scope.getD (Course.run j calls).journal.bound, ?_⟩
  suffices hcarries : Carries calls number (l.scope.getD (Course.run j calls).journal.bound) from
    ⟨hcarries, fun _ => hcarries.unique, fun _ => hcarries.of_mem_keys, perform_log hmade⟩
  -- the call that made the logger settles of which kind it is
  rw [Origin] at horigin
  rw [Carries]
  split at horigin
  · rw [horigin]
    exact hfits.stands
  · rename_i fields _
    rcases horigin with ⟨before, hbefore, hscope⟩
    rw [hscope]
    exact ⟨before, hbefore, lookup_merge before fields, keys_merge before fields⟩
  · exact horigin.elim

/-! ### A key of one logger only -/

/-- A journal without handlers. -/
def quiet : Journal := { folder := { here := "/" }, configured := true }

/-- Of two loggers one has a context of its own, and a key is bound, unbound and bound again. -/
def entwined : List Call :=
  [.logger "", .bind [("k", .int 1)], .scope 0 [("s", .int 2), ("k", .int 3)], .unbind ["k", "z"],
    .bind [("z", .int 4), ("k", .int 5)]]

theorem records_carry_entwined :
    quiet.bound = [] ∧ (Course.run quiet entwined).logger? 0 = some { name := "treewright" } ∧
      ∃ context, Carries entwined 0 context ∧ "s" ∉ keys context := by
  have hmade : (Course.run quiet entwined).logger? 0 = some { name := "treewright" } := rfl
  rcases records_carry rfl entwined hmade with ⟨context, h, -, hkeys, -⟩
  refine ⟨rfl, hmade, context, h, fun hs => ?_⟩
  rcases hkeys "s" hs with ⟨v, hv⟩ | ⟨base, fields, hcall, -⟩
  · simp [history, entwined, Call.events] at hv
  · exact absurd (Option.some.inj hcall) nofun

end UiTree.Journal
