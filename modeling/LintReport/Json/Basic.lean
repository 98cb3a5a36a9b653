import LintReport.Binary64.Basic

/-!
# JSON values

A document is a tree of values. Whole numbers are kept exactly between `-2^63` and `2^64 - 1`;
every other number is a 64-bit floating-point number. The members of an object keep the order in
which their keys came, and writing to a key that is there already changes its value in place.
-/

namespace LintReport

/-- A whole number between `-2^63` and `2^64 - 1`. -/
structure Whole where
  val : Int
  lower : -9223372036854775808 ≤ val
  upper : val < 18446744073709551616
  deriving DecidableEq

namespace Whole

/-- A 64-bit natural number is whole. -/
def ofUInt64 (n : UInt64) : Whole := ⟨n.toNat, by omega, by have := n.toNat_lt; omega⟩

/-- The number as a 64-bit natural number, when it is not negative. -/
def toUInt64? (w : Whole) : Option UInt64 :=
  if 0 ≤ w.val then some (UInt64.ofNat w.val.toNat) else none

/-- A number in range. -/
def ofInt? (n : Int) : Option Whole :=
  if h : -9223372036854775808 ≤ n ∧ n < 18446744073709551616 then some ⟨n, h.1, h.2⟩ else none

/-- A number that was made a value is that number again. -/
@[simp] theorem toUInt64?_ofUInt64 (n : UInt64) : (ofUInt64 n).toUInt64? = some n := by
  simp [toUInt64?, ofUInt64]

end Whole

/-- A number of a JSON document. -/
inductive JsonNumber where
  | whole (n : Whole)
  | double (x : Binary64)
  deriving DecidableEq

/-- A JSON value. -/
inductive Json where
  | null
  | boolean (b : Bool)
  | number (n : JsonNumber)
  | string (s : String)
  | list (items : List Json)
  | object (members : List (String × Json))

/-- The members of an object, in the order of their keys. -/
abbrev Members := List (String × Json)

namespace Members

/-- The keys, in order. -/
def keys (members : Members) : List String := members.map Prod.fst

/-- The value of a key. -/
def get? (members : Members) (key : String) : Option Json := members.lookup key

/-- The members with a key set: in its place when it is there, at the end otherwise. -/
def put (key : String) (value : Json) : Members → Members
  | [] => [(key, value)]
  | member :: rest =>
    if member.1 = key then (key, value) :: rest else member :: put key value rest

end Members

namespace Json

/-- A 64-bit natural number as a value. -/
def ofUInt64 (n : UInt64) : Json := .number (.whole (Whole.ofUInt64 n))

/-- The 64-bit natural number that a value is, if it is one. A floating-point number never is,
whatever its magnitude. -/
def toUInt64? : Json → Option UInt64
  | .number (.whole n) => n.toUInt64?
  | _ => none

/-- The string that a value is, if it is one. -/
def toText? : Json → Option String
  | .string s => some s
  | _ => none

/-- The value of a member, if the value is an object that has it. -/
def member? (key : String) : Json → Option Json
  | .object members => Members.get? members key
  | _ => none

/-- What kind of value stands somewhere, with its article. -/
def kind : Json → String
  | .null => "null"
  | .boolean _ => "a boolean"
  | .number _ => "a number"
  | .string _ => "a string"
  | .list _ => "an array"
  | .object _ => "an object"

end Json

namespace Members

/-- Looking a key up sees the first member only if it has the key. -/
theorem get?_cons (member : String × Json) (rest : Members) (key : String) :
    get? (member :: rest) key = if key = member.1 then some member.2 else get? rest key := by
  unfold get?
  rw [List.lookup_cons]
  by_cases same : key = member.1
  · rw [beq_iff_eq.mpr same, if_pos same]
  · rw [beq_eq_false_iff_ne.mpr same, if_neg same]

/-- After a key is set, its value is the one given. -/
theorem get?_put_self (members : Members) (key : String) (value : Json) :
    (members.put key value).get? key = some value := by
  induction members with
  | nil => rw [put, get?_cons, if_pos rfl]
  | cons member rest ih =>
    unfold put
    by_cases same : member.1 = key
    · rw [if_pos same, get?_cons, if_pos rfl]
    · rw [if_neg same, get?_cons, if_neg (Ne.symm same), ih]

/-- Setting a key leaves the values of all others. -/
theorem get?_put_of_ne (members : Members) {key other : String} (value : Json)
    (different : other ≠ key) : (members.put key value).get? other = members.get? other := by
  induction members with
  | nil => rw [put, get?_cons, if_neg different]
  | cons member rest ih =>
    unfold put
    by_cases same : member.1 = key
    · rw [if_pos same, get?_cons, get?_cons, same, if_neg different, if_neg different]
    · rw [if_neg same, get?_cons, get?_cons, ih]

/-- The keys after one is set: the same keys, the new one last if it is new. -/
theorem keys_put (members : Members) (key : String) (value : Json) :
    (members.put key value).keys =
      if key ∈ members.keys then members.keys else members.keys ++ [key] := by
  induction members with
  | nil => simp [put, keys]
  | cons member rest ih =>
    by_cases same : member.1 = key
    · simp [put, keys, same]
    · simp only [keys] at ih
      simp only [put, keys, same, ↓reduceIte, List.map_cons, ih, List.mem_cons, Ne.symm same,
        false_or]
      by_cases present : key ∈ List.map Prod.fst rest <;> simp [present]

/-- Setting a key keeps the keys distinct. -/
theorem nodup_keys_put (members : Members) (key : String) (value : Json)
    (distinct : members.keys.Nodup) : (members.put key value).keys.Nodup := by
  rw [keys_put]
  split
  · exact distinct
  · next absent =>
    rw [List.nodup_append]
    refine ⟨distinct, by simp, ?_⟩
    intro present member final last
    rw [List.mem_singleton] at last
    subst last
    exact fun same => absent (same ▸ member)

end Members

end LintReport
