import LintReport.Json.Basic

/-!
# Payloads

What an analyzer says about a finding apart from its position: members in the order in which they
came. No key stands twice, and neither of the keys for the position stands at all.
-/

namespace LintReport

/-- The keys under which a position is written. -/
def positionKeys : List String := ["line", "character"]

/-- Members with distinct keys, none of them a key of the position. -/
structure Payload where
  members : Members
  distinct : members.keys.Nodup
  free : ∀ key ∈ positionKeys, key ∉ members.keys

namespace Payload

/-- No members. -/
def empty : Payload := ⟨[], by simp [Members.keys], by simp [Members.keys]⟩

/-- The payload with a member set; a key of the position is left out. -/
def put (payload : Payload) (key : String) (value : Json) : Payload :=
  if position : key ∈ positionKeys then payload
  else
    { members := payload.members.put key value
      distinct := payload.members.nodup_keys_put key value payload.distinct
      free := by
        intro other mark present
        rw [Members.keys_put] at present
        have absent := payload.free other mark
        split at present
        · exact absent present
        · rcases List.mem_append.mp present with old | new
          · exact absent old
          · rw [List.mem_singleton] at new
            exact position (new ▸ mark) }

/-- The members of an object that are not its position, each key at its first place with its last
value. -/
def ofMembers (members : Members) : Payload :=
  members.foldl (fun payload member => payload.put member.1 member.2) empty

/-- The value of a key. -/
def get? (payload : Payload) (key : String) : Option Json := payload.members.get? key

/-- The keys, in order. -/
def keys (payload : Payload) : List String := payload.members.keys

/-- Payloads with the same members are the same. -/
@[ext] theorem ext {left right : Payload} (same : left.members = right.members) : left = right := by
  cases left
  cases right
  cases same
  rfl

end Payload

end LintReport
