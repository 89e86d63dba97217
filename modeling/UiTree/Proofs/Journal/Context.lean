import Mathlib.Data.List.Induction
import Mathlib.Data.Nat.Find
import Mathlib.Order.Bounds.Basic
import UiTree.Journal.Basic
import UiTree.Proofs.Json.Members

/-!
# Context — what bindings leave standing

Keys are bound and unbound one after the other.  A key stands if the last thing that happened to it
was a binding, with the value of that one; and keys stand in the order in which they were first
bound since they were last unbound.  This settles what stands, and folding the events into a context
keeps to it.
-/

namespace UiTree.Journal

open UiTree.Json

/-! ## 1. Events -/

/-- What happens to a key. -/
inductive Event
  | set (key : String) (value : Json)
  | drop (key : String)

namespace Event

def key : Event → String
  | .set k _ | .drop k => k

/-- A context after something happened to one of its keys. -/
def apply (context : Context) : Event → Context
  | .set k v => insertMember k v context
  | .drop k => context.filter fun (key, _) => key != k

end Event

variable {events : List Event} {context : Context} {k : String} {i : Nat}

/-- The last thing that happened to a key. -/
def lastOn (events : List Event) (k : String) : Option Event :=
  (events.filter (·.key == k)).getLast?

/-- An event binds the key, and none behind it unbinds it. -/
def Live (events : List Event) (k : String) (i : Nat) : Prop :=
  (∃ v, events[i]? = some (.set k v)) ∧ ∀ j, i < j → events[j]? ≠ some (.drop k)

/-- The event is the first binding of the key since it was last unbound. -/
def Since (events : List Event) (k : String) (i : Nat) : Prop := IsLeast {n | Live events k n} i

/-- The context that stands after some events. -/
structure Stands (events : List Event) (context : Context) : Prop where
  nodup : (keys context).Nodup
  lookup : ∀ k v, context.lookup k = some v ↔ lastOn events k = some (.set k v)
  ordered : (keys context).Pairwise fun k k' =>
    ∃ i i', Since events k i ∧ Since events k' i' ∧ i < i'

theorem stands_nil : Stands [] [] := by
  refine ⟨List.nodup_nil, fun k v => ?_, List.Pairwise.nil⟩
  rw [List.lookup_nil, lastOn, List.filter_nil, List.getLast?_nil]
  simp

/-! ## 2. One more event -/

theorem lastOn_concat (events : List Event) (e : Event) (k : String) :
    lastOn (events ++ [e]) k = if e.key = k then some e else lastOn events k := by
  rw [lastOn, List.filter_append]
  by_cases h : e.key = k
  · rw [if_pos h, List.filter_cons_of_pos (by simpa using h), List.filter_nil,
      List.getLast?_concat]
  · rw [if_neg h, List.filter_cons_of_neg (by simpa using h), List.filter_nil, List.append_nil,
      lastOn]

theorem Live.lt_length (h : Live events k i) : i < events.length := by
  rcases h.1 with ⟨v, hv⟩
  exact (List.getElem?_eq_some_iff.mp hv).1

theorem live_concat_iff (events : List Event) (e : Event) (k : String) (i : Nat) :
    Live (events ++ [e]) k i ↔
      (Live events k i ∧ e ≠ .drop k) ∨ (i = events.length ∧ ∃ v, e = .set k v) := by
  have hlast : (events ++ [e])[events.length]? = some e := List.getElem?_concat_length
  have hbefore {j : Nat} (hj : j < events.length) : (events ++ [e])[j]? = events[j]? :=
    List.getElem?_append_left hj
  constructor
  · rintro ⟨⟨v, hv⟩, hkept⟩
    have hi : i < events.length + 1 := by
      have hlt := (List.getElem?_eq_some_iff.mp hv).1
      rwa [List.length_append, List.length_singleton] at hlt
    rcases Nat.lt_succ_iff_lt_or_eq.mp hi with hi | rfl
    · refine .inl ⟨⟨⟨v, hbefore hi ▸ hv⟩, fun j hj hdrop => hkept j hj ?_⟩, ?_⟩
      · rw [hbefore (List.getElem?_eq_some_iff.mp hdrop).1, hdrop]
      · rintro rfl
        exact hkept _ hi hlast
    · rw [hlast] at hv
      exact .inr ⟨rfl, v, Option.some.inj hv⟩
  · rintro (⟨hlive, hne⟩ | ⟨rfl, v, rfl⟩)
    · rcases hlive.1 with ⟨v, hv⟩
      refine ⟨⟨v, (hbefore hlive.lt_length).trans hv⟩, fun j hj hdrop => ?_⟩
      have hjlt := (List.getElem?_eq_some_iff.mp hdrop).1
      rw [List.length_append, List.length_singleton] at hjlt
      rcases Nat.lt_succ_iff_lt_or_eq.mp hjlt with hjlt | rfl
      · exact hlive.2 j hj ((hbefore hjlt).symm.trans hdrop)
      · exact hne (Option.some.inj (hlast.symm.trans hdrop))
    · refine ⟨⟨v, hlast⟩, fun j hj hdrop => ?_⟩
      have hjlt := (List.getElem?_eq_some_iff.mp hdrop).1
      rw [List.length_append, List.length_singleton] at hjlt
      omega

/-- A key whose last event was a binding has been bound since it was last unbound. -/
theorem exists_live_iff (events : List Event) (k : String) :
    (∃ i, Live events k i) ↔ ∃ v, lastOn events k = some (.set k v) := by
  -- on the events up to the last, which alone can make the key live or end it
  induction events using List.reverseRecOn with
  | nil => simp [Live, lastOn]
  | append_singleton events e ih =>
    simp only [live_concat_iff, lastOn_concat, exists_or, exists_and_right, ih]
    cases e with
    | set key v =>
      by_cases h : key = k
      · simp [Event.key, h]
      · simp [Event.key, h]
    | drop key =>
      by_cases h : key = k
      · simp [Event.key, h]
      · simp [Event.key, h]

theorem Since.concat {e : Event} (h : Since events k i) (hne : e ≠ .drop k) :
    Since (events ++ [e]) k i := by
  refine ⟨(live_concat_iff events e k i).mpr (.inl ⟨h.1, hne⟩), fun n hn => ?_⟩
  rcases (live_concat_iff events e k n).mp hn with ⟨hlive, -⟩ | ⟨rfl, -⟩
  · exact h.2 hlive
  · exact Nat.le_of_lt h.1.lt_length

theorem since_concat_of_not_live (h : ¬ ∃ i, Live events k i) (v : Json) :
    Since (events ++ [.set k v]) k events.length := by
  refine ⟨(live_concat_iff _ _ _ _).mpr (.inr ⟨rfl, v, rfl⟩), fun n hn => ?_⟩
  rcases (live_concat_iff _ _ _ _).mp hn with ⟨hlive, -⟩ | ⟨rfl, -⟩
  · exact absurd ⟨n, hlive⟩ h
  · exact Nat.le_refl _

namespace Stands

theorem mem_keys_iff (h : Stands events context) : k ∈ keys context ↔ ∃ i, Live events k i := by
  rw [exists_live_iff, ← isSome_lookup_iff, Option.isSome_iff_exists]
  exact exists_congr fun v => h.lookup k v

/-- Only keys that were bound stand. -/
theorem exists_set (h : Stands events context) (hk : k ∈ keys context) :
    ∃ v, Event.set k v ∈ events := by
  rcases h.mem_keys_iff.mp hk with ⟨i, ⟨v, hv⟩, -⟩
  exact ⟨v, List.mem_of_getElem? hv⟩

theorem exists_since (h : Stands events context) (hk : k ∈ keys context) :
    ∃ i, Since events k i := by
  classical
  have hlive := h.mem_keys_iff.mp hk
  exact ⟨Nat.find hlive, Nat.find_spec hlive, fun _ => Nat.find_min' hlive⟩

theorem set (h : Stands events context) (k : String) (v : Json) :
    Stands (events ++ [.set k v]) (insertMember k v context) := by
  have hkeep {i : Nat} {key : String} (hkey : Since events key i) :
      Since (events ++ [.set k v]) key i := hkey.concat nofun
  have hordered : (keys context).Pairwise fun key key' => ∃ i i',
      Since (events ++ [.set k v]) key i ∧ Since (events ++ [.set k v]) key' i' ∧ i < i' :=
    h.ordered.imp fun ⟨i, i', hi, hi', hlt⟩ => ⟨i, i', hkeep hi, hkeep hi', hlt⟩
  refine ⟨nodup_keys_insertMember h.nodup k v, fun key w => ?_, ?_⟩
  · rw [lookup_insertMember, lastOn_concat]
    by_cases hk : key = k
    · simp [Event.key, hk]
    · rw [if_neg hk, if_neg (show (Event.set k v).key ≠ key from Ne.symm hk), h.lookup]
  -- a new key comes last, and it is bound after all others
  · rw [keys_insertMember]
    split
    · exact hordered
    · rename_i hk
      refine List.pairwise_append.mpr
        ⟨hordered, List.pairwise_singleton _ _, fun key hkey k' hk' => ?_⟩
      rw [List.mem_singleton.mp hk']
      rcases h.exists_since hkey with ⟨i, hi⟩
      exact ⟨i, events.length, hkeep hi,
        since_concat_of_not_live (mt h.mem_keys_iff.mpr hk) v, hi.1.lt_length⟩

theorem drop (h : Stands events context) (k : String) :
    Stands (events ++ [.drop k]) (Event.apply context (.drop k)) := by
  have hkeys : keys (Event.apply context (.drop k)) = (keys context).filter (· != k) := by
    rw [keys, keys, List.filter_map]
    rfl
  refine ⟨hkeys ▸ h.nodup.filter _, fun key v => ?_, ?_⟩
  · rw [lastOn_concat, Event.apply, lookup_filter_ne]
    by_cases hk : key = k
    · simp [Event.key, hk]
    · rw [if_neg hk, if_neg (show (Event.drop k).key ≠ key from Ne.symm hk), h.lookup]
  · rw [hkeys]
    refine (h.ordered.filter _).imp_of_mem fun {key key'} hkey hkey' => ?_
    have hother {key : String} (hkey : key ∈ (keys context).filter (· != k)) :
        Event.drop k ≠ .drop key :=
      fun h => bne_iff_ne.mp (List.mem_filter.mp hkey).2 (Event.drop.inj h).symm
    rintro ⟨i, i', hi, hi', hlt⟩
    exact ⟨i, i', hi.concat (hother hkey), hi'.concat (hother hkey'), hlt⟩

/-- What happens next is done to the context that stands. -/
theorem concat (h : Stands events context) :
    ∀ e : Event, Stands (events ++ [e]) (Event.apply context e)
  | .set k v => h.set k v
  | .drop k => h.drop k

theorem append (h : Stands events context) (more : List Event) :
    Stands (events ++ more) (more.foldl Event.apply context) := by
  induction more generalizing events context with
  | nil => rwa [List.append_nil]
  | cons e more ih =>
    have hstep := ih (h.concat e)
    rwa [List.append_assoc, List.singleton_append] at hstep

/-- A context is settled by the events that it stands after. -/
theorem unique {other : Context} (h : Stands events context) (hother : Stands events other) :
    context = other := by
  have hperm : (keys context).Perm (keys other) :=
    (List.perm_ext_iff_of_nodup h.nodup hother.nodup).mpr fun k =>
      h.mem_keys_iff.trans hother.mem_keys_iff.symm
  have hkeys : keys context = keys other := by
    refine hperm.eq_of_pairwise (fun k k' _ _ hbefore hafter => ?_) h.ordered hother.ordered
    -- each of the two keys would be bound before the other
    rcases hbefore with ⟨i, i', hi, hi', hlt⟩
    rcases hafter with ⟨n', n, hn', hn, hgt⟩
    rw [hi.unique hn, hi'.unique hn'] at hlt
    exact absurd hgt (Nat.lt_asymm hlt)
  refine eq_of_keys_eq h.nodup hkeys fun k => Option.ext fun v => ?_
  exact (h.lookup k v).trans (hother.lookup k v).symm

end Stands

/-! ## 3. Bindings as events -/

theorem overlay_eq_foldl (context fields : Context) :
    overlay context fields =
      (fields.map fun (k, v) => Event.set k v).foldl Event.apply context := by
  rw [overlay, List.foldl_map]
  rfl

theorem filter_eq_foldl (context : Context) (ks : List String) :
    (context.filter fun (k, _) => !ks.contains k) =
      (ks.map Event.drop).foldl Event.apply context := by
  induction ks generalizing context with
  | nil => simp
  | cons k ks ih =>
    rw [List.map_cons, List.foldl_cons, ← ih, Event.apply, List.filter_filter]
    refine List.filter_congr fun (key, _) _ => ?_
    exact (congrArg not List.contains_cons).trans ((Bool.not_or _ _).trans (Bool.and_comm _ _))

end UiTree.Journal
