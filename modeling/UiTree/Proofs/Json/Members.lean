import Mathlib.Data.List.Nodup
import UiTree.Json.Value

/-!
# Members — lists of members, changed one key at a time

A member that is inserted takes the place of the one with its key, or else comes last.  So among
several members for one key the last one counts, and it stands where the first one stood.
-/

namespace UiTree.Json

variable {α : Type}

def keys (members : List (String × α)) : List String := members.map Prod.fst

/-- Members overridden and extended by others, one after the other. -/
def merge (members others : List (String × α)) : List (String × α) :=
  others.foldl (fun members (k, v) => insertMember k v members) members

/-- The last value that is given for a key. -/
def last? (members : List (String × α)) (k : String) : Option α := members.reverse.lookup k

@[simp] theorem keys_nil : keys ([] : List (String × α)) = [] := rfl

@[simp] theorem keys_cons (k : String) (v : α) (members : List (String × α)) :
    keys ((k, v) :: members) = k :: keys members := rfl

@[simp] theorem keys_append (members others : List (String × α)) :
    keys (members ++ others) = keys members ++ keys others := List.map_append

@[simp] theorem merge_nil (members : List (String × α)) : merge members [] = members := rfl

@[simp] theorem merge_cons (members others : List (String × α)) (k : String) (v : α) :
    merge members ((k, v) :: others) = merge (insertMember k v members) others := rfl

theorem lookup_cons_eq (k : String) (v : α) (members : List (String × α)) (key : String) :
    ((k, v) :: members).lookup key = if key = k then some v else members.lookup key := by
  rw [List.lookup_cons]
  by_cases h : key = k
  · rw [if_pos h, beq_iff_eq.mpr h]
  · rw [if_neg h, beq_eq_false_iff_ne.mpr h]

theorem last?_cons (k : String) (v : α) (members : List (String × α)) (key : String) :
    last? ((k, v) :: members) key = (last? members key).or (if key = k then some v else none) := by
  rw [last?, List.reverse_cons, List.lookup_append, lookup_cons_eq, List.lookup_nil, last?]

/-! ## 1. One member -/

theorem lookup_insertMember (k : String) (v : α) (members : List (String × α)) (key : String) :
    (insertMember k v members).lookup key = if key = k then some v else members.lookup key := by
  induction members with
  | nil => exact lookup_cons_eq k v [] key
  | cons member members ih =>
    rcases member with ⟨i, w⟩
    rw [insertMember, lookup_cons_eq]
    by_cases hi : i = k
    · subst hi
      rw [if_pos (beq_self_eq_true i), lookup_cons_eq]
      split <;> rfl
    · rw [if_neg (mt beq_iff_eq.mp hi), lookup_cons_eq, ih]
      by_cases h : key = i
      · rw [if_pos h, if_neg (fun hk => hi (h.symm.trans hk)), if_pos h]
      · rw [if_neg h, if_neg h]

/-- A key that is there keeps its place, a new one comes last. -/
theorem keys_insertMember (k : String) (v : α) (members : List (String × α)) :
    keys (insertMember k v members) =
      if k ∈ keys members then keys members else keys members ++ [k] := by
  induction members with
  | nil => rfl
  | cons member members ih =>
    rcases member with ⟨i, w⟩
    rw [insertMember]
    by_cases hi : i = k
    · subst hi
      rw [if_pos (beq_self_eq_true i), keys_cons, keys_cons, if_pos List.mem_cons_self]
    · rw [if_neg (mt beq_iff_eq.mp hi), keys_cons, ih, keys_cons]
      by_cases h : k ∈ keys members
      · rw [if_pos h, if_pos (List.mem_cons_of_mem i h)]
      · rw [if_neg h, if_neg (by simp [h, Ne.symm hi]), List.cons_append]

theorem nodup_keys_insertMember {members : List (String × α)} (h : (keys members).Nodup)
    (k : String) (v : α) : (keys (insertMember k v members)).Nodup := by
  rw [keys_insertMember]
  split
  · exact h
  · rename_i hk
    exact List.nodup_append.mpr ⟨h, List.nodup_singleton k, by
      simpa using fun i hi (hik : i = k) => hk (hik ▸ hi)⟩

theorem mem_insertMember {k : String} {v : α} {members : List (String × α)} {m : String × α}
    (h : m ∈ insertMember k v members) : m = (k, v) ∨ m ∈ members := by
  induction members with
  | nil => exact .inl (List.mem_singleton.mp h)
  | cons member members ih =>
    rcases member with ⟨i, w⟩
    rw [insertMember] at h
    split at h
    · exact (List.mem_cons.mp h).imp id (List.mem_cons_of_mem _)
    · rcases List.mem_cons.mp h with rfl | h
      · exact .inr List.mem_cons_self
      · exact (ih h).imp id (List.mem_cons_of_mem _)

theorem isSome_lookup_iff (members : List (String × α)) (k : String) :
    (members.lookup k).isSome ↔ k ∈ keys members := by
  induction members with
  | nil => simp
  | cons member members ih =>
    rcases member with ⟨i, w⟩
    rw [lookup_cons_eq, keys_cons, List.mem_cons, ← ih]
    by_cases h : k = i <;> simp [h]

theorem lookup_eq_none_iff (members : List (String × α)) (k : String) :
    members.lookup k = none ↔ k ∉ keys members := by
  rw [← isSome_lookup_iff, Bool.not_eq_true, Option.isSome_eq_false_iff, Option.isNone_iff_eq_none]

/-- Inserting a new key only adds a member. -/
theorem insertMember_of_not_mem {k : String} {members : List (String × α)} (h : k ∉ keys members)
    (v : α) : insertMember k v members = members ++ [(k, v)] := by
  induction members with
  | nil => rfl
  | cons member members ih =>
    rcases member with ⟨i, w⟩
    rw [keys_cons, List.mem_cons, not_or] at h
    rw [insertMember, if_neg (mt beq_iff_eq.mp (Ne.symm h.1)), ih h.2, List.cons_append]

/-- Without the members of a key, the others are found as before. -/
theorem lookup_filter_ne (k : String) (members : List (String × α)) (key : String) :
    (members.filter (·.1 != k)).lookup key = if key = k then none else members.lookup key := by
  induction members with
  | nil => exact (ite_self none).symm
  | cons member members ih =>
    rcases member with ⟨i, w⟩
    rw [List.filter_cons, lookup_cons_eq]
    by_cases hi : i = k
    · subst hi
      rw [if_neg (by simp), ih]
      by_cases h : key = i <;> simp [h]
    · rw [if_pos (bne_iff_ne.mpr hi), lookup_cons_eq, ih]
      by_cases h : key = i
      · simp [h, hi]
      · simp [h]

/-- Members of different keys are told by the order of the keys and by what is found for each. -/
theorem eq_of_keys_eq {members others : List (String × α)} (hnodup : (keys members).Nodup)
    (hkeys : keys members = keys others)
    (hlookup : ∀ key, members.lookup key = others.lookup key) : members = others := by
  induction members generalizing others with
  | nil => exact (List.map_eq_nil_iff.mp hkeys.symm).symm
  | cons member members ih =>
    rcases others with _ | ⟨⟨i, w⟩, others⟩
    · exact absurd hkeys (List.cons_ne_nil _ _)
    · rcases member with ⟨k, v⟩
      rw [keys_cons, List.nodup_cons] at hnodup
      rw [keys_cons, keys_cons, List.cons.injEq] at hkeys
      rcases hkeys with ⟨rfl, hkeys⟩
      have hvalue := hlookup k
      rw [lookup_cons_eq, lookup_cons_eq, if_pos rfl, if_pos rfl] at hvalue
      rw [Option.some.inj hvalue, ih hnodup.2 hkeys fun key => ?_]
      by_cases hkey : key = k
      · rw [hkey, (lookup_eq_none_iff members k).mpr hnodup.1,
          (lookup_eq_none_iff others k).mpr (hkeys ▸ hnodup.1)]
      · have hrest := hlookup key
        rwa [lookup_cons_eq, lookup_cons_eq, if_neg hkey, if_neg hkey] at hrest

/-! ## 2. Many members -/

/-- What comes last for a key counts, and what was there before counts for all other keys. -/
theorem lookup_merge (members others : List (String × α)) (key : String) :
    (merge members others).lookup key = (last? others key).or (members.lookup key) := by
  induction others generalizing members with
  | nil => rfl
  | cons member others ih =>
    rcases member with ⟨k, v⟩
    rw [merge_cons, ih, lookup_insertMember, last?_cons, Option.or_assoc]
    congr 1
    split <;> rfl

theorem nodup_keys_merge {members : List (String × α)} (h : (keys members).Nodup)
    (others : List (String × α)) : (keys (merge members others)).Nodup := by
  induction others generalizing members with
  | nil => exact h
  | cons member others ih => exact ih (nodup_keys_insertMember h member.1 member.2)

theorem mem_merge {members others : List (String × α)} {m : String × α}
    (h : m ∈ merge members others) : m ∈ members ∨ m ∈ others := by
  induction others generalizing members with
  | nil => exact .inl h
  | cons member others ih =>
    rcases ih h with h | h
    · exact (mem_insertMember h).symm.imp id fun hm => List.mem_cons.mpr (.inl hm)
    · exact .inr (List.mem_cons_of_mem _ h)

theorem isSome_last?_iff (members : List (String × α)) (k : String) :
    (last? members k).isSome ↔ k ∈ keys members := by
  rw [last?, isSome_lookup_iff, keys, keys, List.map_reverse, List.mem_reverse]

/-- The keys that are there keep their places, and the new ones follow as they first come. -/
theorem keys_merge (members others : List (String × α)) :
    keys (merge members others) =
      keys members ++ ((keys others).filter (· ∉ keys members)).eraseDups := by
  induction others generalizing members with
  | nil => simp
  | cons member others ih =>
    rcases member with ⟨k, v⟩
    rw [merge_cons, ih, keys_insertMember, keys_cons]
    by_cases h : k ∈ keys members
    · rw [if_pos h, List.filter_cons_of_neg (by simpa using h)]
    · rw [if_neg h, List.filter_cons_of_pos (by simpa using h), List.eraseDups_cons,
        List.filter_filter, List.append_assoc, List.singleton_append]
      congr 3
      refine List.filter_congr fun i _ => ?_
      by_cases hi : i = k <;> simp [hi, h]

/-- Members of different keys that are merged into none are kept as they are. -/
theorem merge_of_nodup {members others : List (String × α)}
    (h : (keys (members ++ others)).Nodup) : merge members others = members ++ others := by
  induction others generalizing members with
  | nil => rw [merge_nil, List.append_nil]
  | cons member others ih =>
    rcases member with ⟨k, v⟩
    have hsplit : members ++ (k, v) :: others = members ++ [(k, v)] ++ others := by simp
    have hnew : k ∉ keys members := by
      rw [keys_append, keys_cons, List.nodup_append] at h
      exact fun hk => h.2.2 k hk k List.mem_cons_self rfl
    rw [hsplit] at h ⊢
    rw [merge_cons, insertMember_of_not_mem hnew, ih h]

theorem ofPairs_of_nodup {members : List (String × α)} (h : (keys members).Nodup) :
    ofPairs members = members := merge_of_nodup h

end UiTree.Json
