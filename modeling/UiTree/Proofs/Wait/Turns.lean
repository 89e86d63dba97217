import Mathlib.Data.List.Nodup
import UiTree.Proofs.Wait.Course

/-!
# Turns — several waits, each on a course of its own

What a wait does in its turn depends on the other waits only through the clock.  So however the
turns are given, each wait takes a `Course`: with turns that are not early in any case, and with
turns that are just on time if there is but one wait or no attempt takes any time.
-/

namespace UiTree

variable {α : Type} {R : Int → Int → Prop}

theorem Turn.asleep_of_inl {t : Turn α} {s : Sleeper α} (h : t.next = .inl s) :
    t.asleep = [s] := by
  rw [asleep, h]

theorem Turn.asleep_of_inr {t : Turn α} {e : Ended α} (h : t.next = .inr e) : t.asleep = [] := by
  rw [asleep, h]

namespace Concurrent

/-! ## 1. Whose turn it is -/

theorem pick_eq_none {sleepers : List (Sleeper α)} (h : pick sleepers = none) : sleepers = [] := by
  cases sleepers with
  | nil => rfl
  | cons s rest =>
    rw [pick] at h
    split at h
    · cases h
    · split at h <;> cases h

/-- The turn goes to one of the sleepers, and none of the others is due before it. -/
theorem pick_eq_some {sleepers others : List (Sleeper α)} {m : Sleeper α}
    (h : pick sleepers = some (m, others)) :
    sleepers.Perm (m :: others) ∧ ∀ s ∈ others, m.due ≤ s.due := by
  induction sleepers generalizing m others with
  | nil => cases h
  | cons s rest ih =>
    rw [pick] at h
    split at h
    · rename_i hrest
      cases h
      rw [pick_eq_none hrest]
      exact ⟨.refl _, fun s hs => absurd hs List.not_mem_nil⟩
    · rename_i m' others' hrest
      rcases ih hrest with ⟨hperm, hle⟩
      split at h
      · -- the first one is not due later than the first of the rest
        rename_i hdue
        cases h
        refine ⟨.refl _, fun t ht => ?_⟩
        rcases List.mem_cons.mp (hperm.mem_iff.mp ht) with rfl | ht
        · exact hdue
        · exact le_trans hdue (hle t ht)
      · rename_i hdue
        cases h
        refine ⟨(hperm.cons s).trans (.swap _ _ _), fun t ht => ?_⟩
        rcases List.mem_cons.mp ht with rfl | ht
        · exact le_of_lt (not_le.mp hdue)
        · exact hle t ht

variable {P : List (Waiter α) → Int → List (Sleeper α) → Log α → Prop} {ws : List (Waiter α)}

/-- What every turn keeps holds when all waits have ended. -/
theorem run_induction
    (hturn : ∀ {clock sleepers log s others}, pick sleepers = some (s, others) →
      P ws clock sleepers log → ∀ t, t = s.resume (max clock s.due) →
        P ws t.clock (others ++ t.asleep) (log.add t))
    {clock : Int} {sleepers : List (Sleeper α)} {log : Log α} (h : P ws clock sleepers log) :
    P ws (run clock sleepers log).1 [] (run clock sleepers log).2 := by
  fun_induction run clock sleepers log with
  | case1 clock sleepers log hp => rwa [pick_eq_none hp] at h
  | case2 clock sleepers log s others hp t ih => exact ih (hturn hp h t rfl)

/-- What the first turn of every wait keeps holds when all waits have been started. -/
theorem start_induction
    (hfirst : ∀ {started w rest clock sleepers log}, ws = started ++ w :: rest →
      P started clock sleepers log → ∀ t, t = (w.enter started.length clock).resume clock →
        P (started ++ [w]) t.clock (sleepers ++ t.asleep) (log.add t))
    {started rest : List (Waiter α)} (hws : ws = started ++ rest) {clock : Int}
    {sleepers : List (Sleeper α)} {log : Log α} (h : P started clock sleepers log) :
    P ws (start clock started.length sleepers log rest).1
      (start clock started.length sleepers log rest).2.1
      (start clock started.length sleepers log rest).2.2 := by
  induction rest generalizing started clock sleepers log with
  | nil =>
    rw [hws, List.append_nil]
    exact h
  | cons w rest ih =>
    have hlength : (started ++ [w]).length = started.length + 1 := List.length_append
    rw [start, ← hlength]
    exact ih (by rw [hws, List.append_assoc]; rfl) (hfirst hws h _ rfl)

/-- What holds before the first turn and is kept by every turn holds at the end. -/
theorem runAll_induction {clock : Int} (hnone : P [] clock [] {})
    (hfirst : ∀ {started w rest clock sleepers log}, ws = started ++ w :: rest →
      P started clock sleepers log → ∀ t, t = (w.enter started.length clock).resume clock →
        P (started ++ [w]) t.clock (sleepers ++ t.asleep) (log.add t))
    (hturn : ∀ {clock sleepers log s others}, pick sleepers = some (s, others) →
      P ws clock sleepers log → ∀ t, t = s.resume (max clock s.due) →
        P ws t.clock (others ++ t.asleep) (log.add t)) :
    P ws (runAll clock ws).1 [] (runAll clock ws).2 := by
  have hws : ws = [] ++ ws := rfl
  exact run_induction hturn (start_induction hfirst hws hnone)

/-! ## 2. What one of the waits did -/

namespace Log

theorem only_add_self (log : Log α) {t : Turn α} {j : ℕ} (h : t.index = j) :
    (log.add t).only j = (log.only j).add t := by
  simp [only, add, h]

theorem only_add_of_ne (log : Log α) {t : Turn α} {j : ℕ} (h : t.index ≠ j) :
    (log.add t).only j = log.only j := by
  simp [only, add, h]

end Log

/-- Of the waits started so far each is asleep or has ended, after a course of its own that began at
a clock that `E` allows for its index. -/
structure Standing (R : Int → Int → Prop) (E : ℕ → Int → Prop) (started : List (Waiter α))
    (sleepers : List (Sleeper α)) (log : Log α) : Prop where
  distinct : (sleepers.map (·.index)).Nodup
  asleep : ∀ s ∈ sleepers, ∃ w, started[s.index]? = some w ∧ E s.index s.since ∧
    Course R w s.index s.since (log.only s.index) (.inl s)
  accounted : ∀ j w, started[j]? = some w → (∃ s ∈ sleepers, s.index = j) ∨
    ∃ e : Ended α, E j e.since ∧ Course R w j e.since (log.only j) (.inr e)
  fresh : ∀ j, started.length ≤ j → log.only j = {}

namespace Standing

variable {E : ℕ → Int → Prop} {started : List (Waiter α)} {sleepers others : List (Sleeper α)}
variable {log : Log α} {s : Sleeper α} {now : Int}

theorem none_started : Standing R E [] [] ({} : Log α) where
  distinct := List.nodup_nil
  asleep := fun s hs => absurd hs List.not_mem_nil
  accounted := fun j w h => by cases h
  fresh := fun j _ => rfl

theorem index_lt (h : Standing R E started sleepers log) (hs : s ∈ sleepers) :
    s.index < started.length := by
  rcases h.asleep s hs with ⟨w, hw, -⟩
  exact (List.getElem?_eq_some_iff.mp hw).1

theorem perm (h : Standing R E started sleepers log) (hp : sleepers.Perm others) :
    Standing R E started others log where
  distinct := ((hp.map _).nodup_iff).mp h.distinct
  asleep := fun s hs => h.asleep s (hp.mem_iff.mpr hs)
  accounted := fun j w hw => by
    rcases h.accounted j w hw with ⟨s, hs, hj⟩ | hended
    · exact .inl ⟨s, hp.mem_iff.mp hs, hj⟩
    · exact .inr hended
  fresh := h.fresh

/-- A wait about to take its first turn. -/
theorem enter (h : Standing R E started sleepers log) (w : Waiter α) {clock : Int}
    (hE : E started.length clock) :
    Standing R E (started ++ [w]) (w.enter started.length clock :: sleepers) log where
  distinct := by
    rw [List.map_cons, List.nodup_cons]
    refine ⟨?_, h.distinct⟩
    intro hmem
    rcases List.mem_map.mp hmem with ⟨s, hs, hindex⟩
    have hlt := h.index_lt hs
    have hindex' : s.index = started.length := hindex
    omega
  asleep := by
    intro s hs
    rcases List.mem_cons.mp hs with rfl | hs
    · refine ⟨w, List.getElem?_concat_length, hE, ?_⟩
      have hfresh : log.only started.length = {} := h.fresh _ le_rfl
      change Course R w started.length clock (log.only started.length) _
      rw [hfresh]
      exact .enter
    · rcases h.asleep s hs with ⟨v, hv, hcourse⟩
      exact ⟨v, by rw [List.getElem?_append_left (h.index_lt hs)]; exact hv, hcourse⟩
  accounted := by
    intro j v hv
    rcases getElem?_concat_eq_some hv with hv | ⟨rfl, -⟩
    · rcases h.accounted j v hv with ⟨s, hs, hj⟩ | hended
      · exact .inl ⟨s, List.mem_cons_of_mem _ hs, hj⟩
      · exact .inr hended
    · exact .inl ⟨_, List.mem_cons_self, rfl⟩
  fresh := by
    intro j hj
    rw [List.length_append] at hj
    exact h.fresh j (by omega)

/-- The courses of the others stay as they are. -/
theorem others_kept (h : Standing R E started (s :: others) log) (now : Int) :
    ∀ o ∈ others, o.index ≠ s.index ∧ ∃ v, started[o.index]? = some v ∧ E o.index o.since ∧
      Course R v o.index o.since ((log.add (s.resume now)).only o.index) (.inl o) := by
  intro o ho
  have hne : o.index ≠ s.index := by
    intro heq
    exact (List.nodup_cons.mp h.distinct).1 (List.mem_map.mpr ⟨o, ho, heq⟩)
  refine ⟨hne, ?_⟩
  rw [log.only_add_of_ne (by rw [(s.takes_resume now).index]; exact hne.symm)]
  exact h.asleep o (List.mem_cons_of_mem _ ho)

/-- One of the sleepers takes its turn. -/
theorem turn (hR : Pace R) (h : Standing R E started (s :: others) log) (hdue : R s.due now) :
    Standing R E started (others ++ (s.resume now).asleep) (log.add (s.resume now)) := by
  rcases h.asleep s List.mem_cons_self with ⟨w, hw, hE, hcourse⟩
  rcases List.nodup_cons.mp h.distinct with ⟨hnew, hdistinct⟩
  have hothers := h.others_kept now
  -- the course of the wait whose turn it is goes on
  have hnext := hcourse.turn hdue
  rw [← log.only_add_self ((s.takes_resume now).index)] at hnext
  have hstands := hnext.stands hR
  have hover : ∀ j v, started[j]? = some v → j ≠ s.index → (∃ o ∈ others, o.index = j) ∨
      ∃ e : Ended α, E j e.since ∧
        Course R v j e.since ((log.add (s.resume now)).only j) (.inr e) := by
    intro j v hv hj
    rw [log.only_add_of_ne (by rw [(s.takes_resume now).index]; exact hj.symm)]
    rcases h.accounted j v hv with ⟨o, ho, hoj⟩ | hended
    · rcases List.mem_cons.mp ho with rfl | ho
      · exact absurd hoj.symm hj
      · exact .inl ⟨o, ho, hoj⟩
    · exact .inr hended
  have hfresh : ∀ j, started.length ≤ j → (log.add (s.resume now)).only j = {} := by
    intro j hj
    have hlt := h.index_lt List.mem_cons_self
    rw [log.only_add_of_ne (by rw [(s.takes_resume now).index]; omega)]
    exact h.fresh j hj
  cases hturn : (s.resume now).next with
  | inl t =>
    rw [hturn] at hnext hstands
    rcases hstands with ⟨-, hindex, hsince, -⟩
    rw [Turn.asleep_of_inl hturn]
    refine ⟨?_, ?_, ?_, hfresh⟩
    · rw [List.map_append, List.map_singleton, hindex, List.nodup_append_comm]
      exact List.nodup_cons.mpr ⟨hnew, hdistinct⟩
    · intro o ho
      rcases List.mem_append.mp ho with ho | ho
      · exact (hothers o ho).2
      · rw [List.mem_singleton.mp ho, hindex, hsince]
        exact ⟨w, hw, hE, hnext⟩
    · intro j v hv
      by_cases hj : j = s.index
      · exact .inl ⟨t, List.mem_append_right _ (List.mem_singleton_self t), by rw [hindex, hj]⟩
      · rcases hover j v hv hj with ⟨o, ho, hoj⟩ | hended
        · exact .inl ⟨o, List.mem_append_left _ ho, hoj⟩
        · exact .inr hended
  | inr e =>
    rw [hturn] at hnext hstands
    rcases hstands with ⟨-, hsince, -⟩
    rw [Turn.asleep_of_inr hturn, List.append_nil]
    refine ⟨hdistinct, fun o ho => (hothers o ho).2, ?_, hfresh⟩
    intro j v hv
    by_cases hj : j = s.index
    · subst hj
      rw [hw, Option.some.injEq] at hv
      subst hv
      exact .inr ⟨e, by rwa [hsince], by rwa [hsince]⟩
    · exact hover j v hv hj

/-- When nobody is asleep, every wait has ended. -/
theorem ended (h : Standing R E started [] log) {j : ℕ} {w : Waiter α} (hw : started[j]? = some w) :
    ∃ e : Ended α, E j e.since ∧ Course R w j e.since (log.only j) (.inr e) := by
  rcases h.accounted j w hw with ⟨s, hs, -⟩ | hended
  · exact absurd hs List.not_mem_nil
  · exact hended

/-- There is nobody besides the only wait. -/
theorem others_eq_nil (h : Standing R E started (s :: others) log) (hone : started.length ≤ 1) :
    others = [] := by
  rw [List.eq_nil_iff_forall_not_mem]
  intro o ho
  have hne := (h.others_kept 0 o ho).1
  have hlt := h.index_lt List.mem_cons_self
  have hlt' := h.index_lt (List.mem_cons_of_mem s ho)
  omega

end Standing

/-! ## 3. Turns that are not early -/

/-- The clock at which a wait first runs: those before it have taken their first turns. -/
def entry (clock : Int) (ws : List (Waiter α)) (index : ℕ) : Int :=
  (start clock 0 [] {} (ws.take index)).1

theorem start_concat (clock : Int) (index : ℕ) (sleepers : List (Sleeper α)) (log : Log α)
    (ws : List (Waiter α)) (w : Waiter α) :
    start clock index sleepers log (ws ++ [w]) =
      let before := start clock index sleepers log ws
      let t := (w.enter (index + ws.length) before.1).resume before.1
      (t.clock, before.2.1 ++ t.asleep, before.2.2.add t) := by
  induction ws generalizing clock index sleepers log with
  | nil => rfl
  | cons v ws ih =>
    rw [List.cons_append, start, start, ih, List.length_cons, Nat.add_right_comm, Nat.add_assoc]

/-- When all waits have ended, each has taken a course that began at its entry. -/
theorem standing_entry (clock : Int) (ws : List (Waiter α)) :
    Standing (· ≤ ·) (fun i c => c = entry clock ws i) ws [] (runAll clock ws).2 := by
  -- until all have been started, the run is that of the waits started so far
  have hrun : Standing (· ≤ ·) (fun i c => c = entry clock ws i) ws [] (runAll clock ws).2 ∧
      (ws.length < ws.length → start clock 0 [] {} ws = ((runAll clock ws).1, [],
        (runAll clock ws).2)) := by
    apply runAll_induction
      (P := fun started now sleepers log =>
        Standing (· ≤ ·) (fun i c => c = entry clock ws i) started sleepers log ∧
        (started.length < ws.length → start clock 0 [] {} started = (now, sleepers, log)))
    · exact ⟨.none_started, fun _ => rfl⟩
    · rintro started w rest now sleepers log hws ⟨h, hstart⟩ t rfl
      have hlength : started.length < ws.length := by
        rw [hws, List.length_append, List.length_cons]
        omega
      have hentry : now = entry clock ws started.length := by
        rw [entry, hws, List.take_left, hstart hlength]
      refine ⟨(h.enter w hentry).turn pace_le le_rfl, fun _ => ?_⟩
      rw [start_concat, hstart hlength, Nat.zero_add]
    · rintro now sleepers log s others hpick ⟨h, -⟩ t rfl
      refine ⟨(h.perm (pick_eq_some hpick).1).turn pace_le (le_max_right now s.due), ?_⟩
      intro hmore
      exact absurd hmore (lt_irrefl _)
  exact hrun.1

/-- Every wait takes a course from its entry on in which no turn is early. -/
theorem exists_course (clock : Int) {ws : List (Waiter α)} {j : ℕ} {w : Waiter α}
    (hw : ws[j]? = some w) :
    ∃ e : Ended α, e.since = entry clock ws j ∧
      Course (· ≤ ·) w j e.since ((runAll clock ws).2.only j) (.inr e) :=
  (standing_entry clock ws).ended hw

/-- Every turn was taken by one of the waits. -/
theorem turn_index_lt {clock : Int} {ws : List (Waiter α)} {t : Turn α}
    (ht : t ∈ (runAll clock ws).2.turns) : t.index < ws.length := by
  by_contra hindex
  have hfresh := (standing_entry clock ws).fresh t.index (not_lt.mp hindex)
  have hmem : t ∈ ((runAll clock ws).2.only t.index).turns :=
    List.mem_filter.mpr ⟨ht, beq_self_eq_true _⟩
  rw [hfresh] at hmem
  exact absurd hmem List.not_mem_nil

/-! ## 4. Turns that are on time -/

/-- No wait holds up another: there is no other, or no attempt takes time. -/
def Calm (ws : List (Waiter α)) : Prop :=
  ws.length ≤ 1 ∨ ∀ w ∈ ws, ∀ i, (w.outcome i).cost = 0

/-- The clock has not passed a time at which somebody is due. -/
def OnTime (clock : Int) (sleepers : List (Sleeper α)) : Prop :=
  ∀ s ∈ sleepers, clock ≤ s.due

theorem OnTime.turn {s : Sleeper α} {others : List (Sleeper α)} {now : Int}
    (h : OnTime now others)
    (hfree : others = [] ∨ ∀ i, (s.waiter.outcome i).cost = 0) :
    OnTime (s.resume now).clock (others ++ (s.resume now).asleep) := by
  intro o ho
  rcases List.mem_append.mp ho with ho | ho
  · rcases hfree with rfl | hcost
    · exact absurd ho List.not_mem_nil
    · rw [(s.takes_resume now).free hcost]
      exact h o ho
  · cases hturn : (s.resume now).next with
    | inl t =>
      rw [Turn.asleep_of_inl hturn, List.mem_singleton] at ho
      rw [ho]
      exact (s.takes_resume now).asleep t hturn
    | inr e =>
      rw [Turn.asleep_of_inr hturn] at ho
      exact absurd ho List.not_mem_nil

/-- In a calm run the wait whose turn it is has nobody else to hold up, or does not do so. -/
theorem Standing.free {E : ℕ → Int → Prop} {ws started : List (Waiter α)} {s : Sleeper α}
    {others : List (Sleeper α)} {log : Log α} (hR : Pace R) (hcalm : Calm ws)
    (hws : started <+: ws) (h : Standing R E started (s :: others) log) :
    others = [] ∨ ∀ i, (s.waiter.outcome i).cost = 0 := by
  rcases hcalm with hone | hcost
  · exact .inl (h.others_eq_nil (le_trans hws.length_le hone))
  · rcases h.asleep s List.mem_cons_self with ⟨w, hw, -, hcourse⟩
    have hwaiter : s.waiter = w := (hcourse.stands hR).waiter_eq
    rw [hwaiter]
    exact .inr (hcost w (hws.subset (List.mem_of_getElem? hw)))

/-- In a calm run every wait first runs at the first clock, and has its turns when it is due. -/
theorem standing_of_calm (clock : Int) {ws : List (Waiter α)} (hcalm : Calm ws) :
    Standing (· = ·) (fun _ => (· = clock)) ws [] (runAll clock ws).2 := by
  -- the clock stands still until all have been started
  have hrun : Standing (· = ·) (fun _ => (· = clock)) ws [] (runAll clock ws).2 ∧
      OnTime (runAll clock ws).1 ([] : List (Sleeper α)) ∧
      (ws.length < ws.length → (runAll clock ws).1 = clock) := by
    apply runAll_induction
      (P := fun started now sleepers log =>
        Standing (· = ·) (fun _ => (· = clock)) started sleepers log ∧
          OnTime now sleepers ∧ (started.length < ws.length → now = clock))
    · exact ⟨.none_started, fun s hs => absurd hs List.not_mem_nil, fun _ => rfl⟩
    · rintro started w rest now sleepers log hws ⟨h, hontime, hclock⟩ t rfl
      have hlength : ws.length = started.length + (rest.length + 1) := by
        rw [hws, List.length_append, List.length_cons]
      have hnow : now = clock := hclock (by omega)
      have hinit : started ++ [w] <+: ws := ⟨rest, by rw [hws, List.append_assoc]; rfl⟩
      have henter := h.enter w hnow
      have hfree := henter.free pace_eq hcalm hinit
      refine ⟨henter.turn pace_eq rfl, hontime.turn hfree, ?_⟩
      intro hmore
      rw [List.length_append, List.length_singleton] at hmore
      rcases hcalm with hone | hcost
      · omega
      · rw [(Sleeper.takes_resume _ now).free (hcost w (hinit.subset (by simp)))]
        exact hnow
    · rintro now sleepers log s others hpick ⟨h, hontime, -⟩ t rfl
      rcases pick_eq_some hpick with ⟨hperm, hle⟩
      have hs := h.perm hperm
      have hdue : max now s.due = s.due :=
        max_eq_right (hontime s (hperm.mem_iff.mpr List.mem_cons_self))
      rw [hdue]
      refine ⟨hs.turn pace_eq rfl, OnTime.turn hle (hs.free pace_eq hcalm List.prefix_rfl), ?_⟩
      intro hmore
      exact absurd hmore (lt_irrefl _)
  exact hrun.1

/-- The only wait did everything that was done. -/
theorem only_eq_self (clock : Int) (w : Waiter α) :
    (runAll clock [w]).2.only 0 = (runAll clock [w]).2 := by
  have hall : ∀ t ∈ (runAll clock [w]).2.turns, t.index = 0 := by
    intro t ht
    have hlt : t.index < 1 := turn_index_lt ht
    omega
  have hturns : (runAll clock [w]).2.turns.filter (·.index == 0) = (runAll clock [w]).2.turns :=
    List.filter_eq_self.mpr fun t ht => beq_iff_eq.mpr (hall t ht)
  rw [Log.only, hturns]

/-- The clock at the end is that of the last turn. -/
theorem runAll_clock (clock : Int) (ws : List (Waiter α)) :
    (((runAll clock ws).2.turns.getLast?).map (·.clock)).getD clock = (runAll clock ws).1 := by
  apply runAll_induction
    (P := fun _ now _ log => ((log.turns.getLast?).map (·.clock)).getD clock = now)
  · rfl
  · rintro started w rest now sleepers log - - t rfl
    rw [Log.add, List.getLast?_concat]
    rfl
  · rintro now sleepers log s others - - t rfl
    rw [Log.add, List.getLast?_concat]
    rfl

end Concurrent

end UiTree
