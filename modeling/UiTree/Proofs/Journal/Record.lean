import UiTree.Journal.Record
import UiTree.Proofs.Json.Reading

/-!
# Records — the lines that tell of them

A line is one object: the record's own members, overridden and extended by its context.  So a
context that binds the key of a member of the record's own changes that member.  The line has no
breaks whatever the texts in it are, and the object is read back from it with its members in order.
-/

namespace UiTree.Record

open UiTree.Json UiTree.Text

/-! ## 1. Members of a line -/

/-- What a record says of itself. -/
def own (time : String) (r : Record) : List (String × Json) := ("ts", .str time) :: r.fields

def members (time : String) (r : Record) : List (String × Json) := merge (r.own time) r.context

theorem payload_eq (time : String) (r : Record) : r.payload time = .obj (r.members time) := rfl

theorem line_eq (time : String) (r : Record) :
    r.line time = (Json.obj (r.members time)).write false := rfl

theorem nodup_keys_own (time : String) (r : Record) : (keys (r.own time)).Nodup := by
  rcases r with ⟨level, logger, message, _ | text, context⟩
  · exact (by decide : ["ts", "level", "logger", "msg"].Nodup)
  · exact (by decide : ["ts", "level", "logger", "msg", "exc_info"].Nodup)

theorem nodup_keys_members (time : String) (r : Record) : (keys (r.members time)).Nodup :=
  nodup_keys_merge (r.nodup_keys_own time) r.context

/-- A key of the context stands for the value that it has there last. -/
theorem lookup_members_of_bound (time : String) {r : Record} {key : String}
    (h : key ∈ keys r.context) : (r.members time).lookup key = last? r.context key := by
  rw [members, lookup_merge, Option.or_of_isSome ((isSome_last?_iff _ _).mpr h)]

/-- A key of the record's own keeps its value just if the context has no other value for it. -/
theorem lookup_members_own_iff (time : String) {r : Record} {key : String} {value : Json}
    (h : (r.own time).lookup key = some value) :
    (r.members time).lookup key = some value ↔
      ∀ other, last? r.context key = some other → other = value := by
  rw [members, lookup_merge, h]
  cases last? r.context key with
  | none => simp
  | some other => simp

/-! ## 2. Lines read back -/

theorem exact_own (time : String) (r : Record) : ExactMembers (r.own time) := by
  rcases r with ⟨level, logger, message, _ | text, context⟩ <;>
    simp [own, fields, ExactMembers, Exact]

theorem exact_payload (time : String) {r : Record} (h : ∀ member ∈ r.context, member.2.Exact) :
    (r.payload time).Exact := by
  rw [payload_eq, Exact, exactMembers_iff]
  refine ⟨r.nodup_keys_members time, fun member hmember => ?_⟩
  rcases mem_merge hmember with hown | hbound
  · exact (exactMembers_iff _).mp (r.exact_own time) member hown
  · exact h member hbound

theorem read?_line (time : String) {r : Record} (h : ∀ member ∈ r.context, member.2.Exact) :
    read? (r.line time) = some (r.payload time) := read?_write (exact_payload time h)

def broken : Record :=
  { level := .warning, logger := "treewright.a\r\nb", message := "m\n\x7b\"ts\": 1\x7d",
    context := [("k\n", .str "\r"), ("n", .int (-1)), ("k\n", .null)] }

/-- **The context overrides what a record says of itself**: the line is an object with the members
that the record has of its own and those of its context, and a member of the record's own has the
record's value just if the context binds no other value to its key. -/
theorem own_value_kept_iff_unbound (time : String) (r : Record) :
    ∃ members, r.line time = (Json.obj members).write false ∧
      keys members = keys (r.own time) ++
        ((keys r.context).filter (· ∉ keys (r.own time))).eraseDups ∧
      (keys members).Nodup ∧
      (∀ key ∈ keys r.context, members.lookup key = last? r.context key) ∧
      ∀ key value, (r.own time).lookup key = some value →
        (members.lookup key = some value ↔
          ∀ other, last? r.context key = some other → other = value) :=
  ⟨r.members time, r.line_eq time, keys_merge _ _, r.nodup_keys_members time,
    fun _ => lookup_members_of_bound time, fun _ _ => lookup_members_own_iff time⟩

/-- A record with a level in its context. -/
def misleading : Record :=
  { level := .info, logger := "treewright", message := "m", context := [("level", .str "DEBUG")] }

theorem not_own_value_kept_of_misleading :
    ¬ ∀ (time : String) (r : Record) (key : String) (value : Json),
      (r.own time).lookup key = some value →
        (read? (r.line time)).bind (Json.get? key) = some value := by
  intro h
  have hread : read? (misleading.line "TS") = some (misleading.payload "TS") :=
    read?_line "TS" (by simp [misleading, Exact])
  have hlevel : (read? (misleading.line "TS")).bind (Json.get? "level") = some (.str "DEBUG") := by
    rw [hread]
    rfl
  rw [h "TS" misleading "level" (.str "INFO") rfl] at hlevel
  exact absurd (Json.str.inj (Option.some.inj hlevel)) (by decide)

end UiTree.Record
