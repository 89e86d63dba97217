import UiTree.Journal.Basic

/-!
# Logging — steps of a journal one after the other

`exec` is what comes of a step in a journal: its outcome and the journal it leaves.  Making records
comes to an end in every journal whose console never fails, whatever its handlers are.
-/

namespace UiTree.Journal

variable {α β : Type}

def exec (j : Journal) (x : Logging α) : Except Fault α × Journal := x.run j

theorem exec_get_bind (j : Journal) (k : Journal → Logging α) : j.exec (get >>= k) = j.exec (k j) :=
  rfl

/-- The second step is chosen by the outcome of the first, and begins in the journal it leaves. -/
theorem exec_bind (j : Journal) (x : Logging α) (k : α → Logging β) :
    j.exec (x >>= k) = ExceptT.bindCont k (j.exec x).1 (j.exec x).2 := rfl

theorem exec_bind_of_ok {j after : Journal} {x : Logging α} {a : α}
    (h : j.exec x = (.ok a, after)) (k : α → Logging β) : j.exec (x >>= k) = after.exec (k a) := by
  rw [exec_bind, h]
  rfl

/-- What is done in the end keeps the value of what came before. -/
theorem exec_finally_of_ok {j middle after : Journal} {x : Logging α} {y : Logging β} {a : α}
    {b : β} (hx : j.exec x = (.ok a, middle)) (hy : middle.exec y = (.ok b, after)) :
    j.exec (tryFinally x y) = (.ok a, after) := by
  have hx : x j = (.ok a, middle) := hx
  have hy : y middle = (.ok b, after) := hy
  simp only [exec, tryFinally, tryFinally', Functor.map, ExceptT.map, ExceptT.run, ExceptT.mk,
    Bind.bind, StateT.bind, hx, hy]
  rfl

/-- A value from outside the journal leaves it as it is. -/
theorem exec_lift_bind {x : Except Fault α} {a : α} (h : x = .ok a) (j : Journal)
    (k : α → Logging β) : j.exec (liftM x >>= k) = j.exec (k a) := by
  subst h
  rfl

/-- A logger gives to a record its own context, or what is bound. -/
theorem exec_log (j : Journal) (l : Logger) (time : String) (level : Level) (template : String)
    (values : List Json) (exception? : Option String) :
    j.exec (log time l level template values exception?) =
      j.exec (emit { time, level, logger := l.name, template, values, exception?,
                     context := l.scope.getD j.bound }) := by
  rw [log, exec_get_bind]

/-- A record changes files only, and its call fails if a handler fails at it. -/
theorem exec_emit (j : Journal) (d : Draft) :
    j.exec (emit d) =
      ((match (j.due d).findSome? (·.failure? j.console d) with
        | some f => .error (.failure f)
        | none => .ok ()),
        { j with folder :=
            (j.reached d).foldl (fun folder h => write folder h d.line?) j.folder }) := by
  rw [emit, exec_get_bind]
  cases (j.due d).findSome? (·.failure? j.console d) with
  | none => rfl
  | some f => rfl

/-! ## Steps that always complete -/

/-- The console of the journal fails at no record. -/
def Unfailing (j : Journal) : Prop := ∀ markup d, j.console markup d = none

theorem Unfailing.failure?_eq_none {j : Journal} (hj : j.Unfailing) (h : Handler) (d : Draft) :
    h.failure? j.console d = none := by
  rw [Handler.failure?]
  cases h.sink with
  | console markup => exact hj markup d
  | file l => rfl

/-- Comes to a value in every journal whose console never fails, and leaves the console so. -/
def Completes (x : Logging α) : Prop :=
  ∀ j : Journal, j.Unfailing → ∃ a after, j.exec x = (.ok a, after) ∧ after.Unfailing

theorem completes_pure (a : α) : Completes (pure a : Logging α) := fun j hj => ⟨a, j, rfl, hj⟩

theorem completes_modify {f : Journal → Journal} (hf : ∀ j, (f j).console = j.console) :
    Completes (modify f : Logging PUnit) :=
  fun j hj => ⟨(), f j, rfl, fun markup d => (hf j).symm ▸ hj markup d⟩

theorem Completes.bind {x : Logging α} {k : α → Logging β} (hx : Completes x)
    (hk : ∀ a, Completes (k a)) : Completes (x >>= k) := by
  intro j hj
  rcases hx j hj with ⟨a, middle, hx, hmiddle⟩
  rw [exec_bind_of_ok hx]
  exact hk a middle hmiddle

/-- What is done in the end completes what completes. -/
theorem Completes.finally {x : Logging α} {y : Logging β} (hx : Completes x) (hy : Completes y) :
    Completes (tryFinally x y) := by
  intro j hj
  rcases hx j hj with ⟨a, middle, hx, hmiddle⟩
  rcases hy middle hmiddle with ⟨b, after, hy, hafter⟩
  exact ⟨a, after, exec_finally_of_ok hx hy, hafter⟩

/-- What follows a step that completes begins in a journal that the step leaves. -/
theorem Completes.exists_exec_bind {x : Logging α} (hx : Completes x) {j : Journal}
    (hj : j.Unfailing) (k : α → Logging β) :
    ∃ a after, after.Unfailing ∧ j.exec (x >>= k) = exec after (k a) := by
  rcases hx j hj with ⟨a, after, hx, hafter⟩
  exact ⟨a, after, hafter, exec_bind_of_ok hx k⟩

theorem Completes.forIn (xs : List α) (b : β) {f : α → β → Logging (ForInStep β)}
    (hf : ∀ a b, Completes (f a b)) : Completes (forIn xs b f) := by
  induction xs generalizing b with
  | nil => exact completes_pure b
  | cons a xs ih =>
    rw [List.forIn_cons]
    refine (hf a b).bind fun step => ?_
    cases step with
    | done b => exact completes_pure b
    | yield b => exact ih b

theorem completes_emit (d : Draft) : Completes (emit d) := by
  intro j hj
  have hnone : (j.due d).findSome? (·.failure? j.console d) = none :=
    List.findSome?_eq_none_iff.mpr fun h _ => hj.failure?_eq_none h d
  rw [exec_emit, hnone]
  exact ⟨(), _, rfl, hj⟩

theorem completes_record (time : String) (r : Record) : Completes (record time r) := by
  intro j hj
  rw [record, exec_get_bind]
  exact completes_emit _ j hj

end UiTree.Journal
