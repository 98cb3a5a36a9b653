import LintReport.Json.Reader

/-!
# Repeated keys

A key that is written more than once in an object counts once: at the place where it is written
first, and with the value that is written last (`Json.keys_collect`, `Json.get?_collect`). Settling
a value applies this rule to its objects at every depth (`Json.settle_object`). The outcome repeats
no key (`Json.distinct_settle`), and a value without repetitions stays as it is
(`Json.Distinct.settle_eq`).
-/

namespace LintReport

namespace Members

/-- The value that is written last for a key. -/
def last? (written : Members) (key : String) : Option Json := get? written.reverse key

/-- A member with a new key is put at the end. -/
theorem put_of_not_mem {members : Members} {key : String} (value : Json)
    (absent : key ∉ members.keys) : members.put key value = members ++ [(key, value)] := by
  induction members with
  | nil => rfl
  | cons member rest ih =>
      simp only [keys, List.map_cons, List.mem_cons, not_or] at absent
      simp only [put, Ne.symm absent.1, ↓reduceIte, ih absent.2, List.cons_append]

theorem mem_put {members : Members} {key : String} {value : Json} {member : String × Json}
    (present : member ∈ members.put key value) : member ∈ members ∨ member = (key, value) := by
  induction members with
  | nil => exact .inr (List.mem_singleton.mp present)
  | cons first rest ih =>
      unfold put at present
      split at present
      · rcases List.mem_cons.mp present with new | old
        · exact .inr new
        · exact .inl (List.mem_cons_of_mem first old)
      · rcases List.mem_cons.mp present with same | later
        · exact .inl (same ▸ List.mem_cons_self)
        · rcases ih later with old | new
          · exact .inl (List.mem_cons_of_mem first old)
          · exact .inr new

/-- What stands under a key is a member. -/
theorem mem_of_get? {members : Members} {key : String} {value : Json}
    (found : members.get? key = some value) : (key, value) ∈ members := by
  induction members with
  | nil => cases found
  | cons member rest ih =>
      rw [get?_cons] at found
      split at found
      · next same =>
          cases found
          exact same ▸ List.mem_cons_self
      · exact List.mem_cons_of_mem member (ih found)

end Members

namespace Json

/-- Members written after others that are settled already. -/
private abbrev continued (before : Members) (written : List (String × Json)) : Members :=
  written.foldl (fun members member => members.put member.1 member.2) before

/-- Putting members one after the other adds their new keys in the order in which each comes
first. -/
private theorem keys_continued (written : Members) : ∀ before : Members,
    (continued before written).keys =
      before.keys ++ (written.keys.filter (fun key => key ∉ before.keys)).eraseDups := by
  induction written with
  | nil =>
      intro before
      simp only [continued, List.foldl_nil, Members.keys, List.map_nil, List.filter_nil,
        List.eraseDups_nil, List.append_nil]
  | cons member rest ih =>
      intro before
      have step : continued before (member :: rest) =
        continued (before.put member.1 member.2) rest := rfl
      have written : Members.keys (member :: rest) = member.1 :: Members.keys rest := rfl
      rw [step, ih, Members.keys_put, written]
      by_cases present : member.1 ∈ before.keys
      · simp only [present, ↓reduceIte, not_true_eq_false, decide_false, Bool.false_eq_true,
          not_false_eq_true, List.filter_cons_of_neg]
      · simp only [present, ↓reduceIte, not_false_eq_true, decide_true, List.filter_cons_of_pos,
          List.eraseDups_cons, List.filter_filter, List.append_assoc, List.singleton_append]
        congr 3
        apply List.filter_congr
        intro key _
        by_cases same : key = member.1 <;> simp [same]

/-- **A repeated key keeps its first place.** -/
theorem keys_collect (written : Members) : (collect written).keys = written.keys.eraseDups := by
  have start := keys_continued written []
  have all : written.keys.filter (fun key => key ∉ Members.keys []) = written.keys := by
    apply List.filter_eq_self.mpr
    intro key _
    rfl
  rw [all] at start
  exact start

/-- Under each key stands the value put last, or else the one that was there before. -/
private theorem get?_continued (written : Members) (key : String) : ∀ before : Members,
    (continued before written).get? key = (written.last? key).or (before.get? key) := by
  induction written with
  | nil =>
      intro before
      rfl
  | cons member rest ih =>
      intro before
      have step : continued before (member :: rest) =
        continued (before.put member.1 member.2) rest := rfl
      have latest : Members.last? (member :: rest) key =
          (Members.last? rest key).or (if key = member.1 then some member.2 else none) := by
        unfold Members.last?
        rw [List.reverse_cons]
        unfold Members.get?
        rw [List.lookup_append]
        exact congrArg _ (Members.get?_cons member [] key)
      rw [step, ih, latest, Option.or_assoc]
      by_cases same : key = member.1
      · rw [if_pos same, same, Members.get?_put_self, Option.some_or]
      · rw [if_neg same, Members.get?_put_of_ne _ _ same, Option.none_or]

/-- **A repeated key takes its last value.** -/
theorem get?_collect (written : Members) (key : String) :
    (collect written).get? key = written.last? key := by
  have start := get?_continued written key []
  rw [show Members.get? [] key = none from rfl, Option.or_none] at start
  exact start

/-- Putting members one after the other brings in no others. -/
private theorem mem_continued (written : Members) {member : String × Json} :
    ∀ before : Members, member ∈ continued before written → member ∈ before ∨ member ∈ written := by
  induction written with
  | nil =>
      intro before present
      exact .inl present
  | cons first rest ih =>
      intro before present
      rcases ih (before.put first.1 first.2) present with earlier | later
      · rcases Members.mem_put earlier with old | new
        · exact .inl old
        · exact .inr (new ▸ List.mem_cons_self)
      · exact .inr (List.mem_cons_of_mem first later)

/-- Every member that counts stands in the text. -/
theorem mem_of_mem_collect {written : Members} {member : String × Json}
    (present : member ∈ collect written) : member ∈ written := by
  rcases mem_continued written [] present with impossible | stands
  · cases impossible
  · exact stands

/-- Members whose keys are all new and distinct are put at the end as they are. -/
private theorem continued_of_nodup (written : Members) : ∀ before : Members,
    (before ++ written).keys.Nodup → continued before written = before ++ written := by
  induction written with
  | nil =>
      intro before _
      exact (List.append_nil before).symm
  | cons member rest ih =>
      intro before distinct
      have absent : member.1 ∉ before.keys := by
        intro present
        simp only [Members.keys, List.map_append, List.map_cons] at distinct
        exact (List.nodup_append.mp distinct).2.2 _ present _ List.mem_cons_self rfl
      have step : continued before (member :: rest) =
        continued (before.put member.1 member.2) rest := rfl
      have moved : before ++ member :: rest = before ++ [member] ++ rest := by
        rw [List.append_assoc, List.singleton_append]
      rw [step, Members.put_of_not_mem member.2 absent, moved]
      exact ih _ (moved ▸ distinct)

/-- Members without a repeated key all count, as they stand. -/
theorem collect_of_nodup {written : Members} (distinct : written.keys.Nodup) :
    collect written = written := continued_of_nodup written [] distinct

/-- Members that are collected repeat no key. -/
theorem nodup_keys_collect (written : Members) : (collect written).keys.Nodup := by
  have continues : ∀ (rest before : Members), before.keys.Nodup →
      (continued before rest).keys.Nodup := by
    intro rest
    induction rest with
    | nil =>
        intro before distinct
        exact distinct
    | cons member rest ih =>
        intro before distinct
        exact ih _ (before.nodup_keys_put member.1 member.2 distinct)
  exact continues written [] List.nodup_nil

/-- A value has a property when it passes from the items of a list and from the values of an
object's members to the list and the object. -/
@[elab_as_elim]
theorem inductionOn {motive : Json → Prop} (value : Json) (null : motive .null)
    (boolean : ∀ b, motive (.boolean b)) (number : ∀ n, motive (.number n))
    (string : ∀ s, motive (.string s))
    (list : ∀ items, (∀ item ∈ items, motive item) → motive (.list items))
    (object : ∀ members : Members, (∀ member ∈ members, motive member.2) →
      motive (.object members)) : motive value := by
  refine @Json.rec motive (fun items => ∀ item ∈ items, motive item)
    (fun members => ∀ member ∈ members, motive member.2) (fun member => motive member.2)
    null boolean number string list object ?_ ?_ ?_ ?_ ?_ value
  · intro item member
    cases member
  · intro first rest here later item member
    rcases List.mem_cons.mp member with same | member
    · exact same ▸ here
    · exact later item member
  · intro item member
    cases member
  · intro first rest here later item member
    rcases List.mem_cons.mp member with same | member
    · exact same ▸ here
    · exact later item member
  · intro key value here
    exact here

/-- The items of a list are settled each for itself. -/
private theorem settleItems_eq_map (items : List Json) : settleItems items = items.map settle := by
  induction items with
  | nil => rfl
  | cons item rest ih => rw [settleItems, ih, List.map_cons]

private theorem settleMembers_eq_map (written : Members) :
    settleMembers written = written.map (fun member => (member.1, member.2.settle)) := by
  induction written with
  | nil => rfl
  | cons member rest ih => rw [settleMembers, ih, List.map_cons]

theorem mem_settleMembers {written : Members} {member : String × Json}
    (present : member ∈ settleMembers written) :
    ∃ first ∈ written, first.2.settle = member.2 := by
  rw [settleMembers_eq_map] at present
  obtain ⟨first, stands, rfl⟩ := List.mem_map.mp present
  exact ⟨first, stands, rfl⟩

theorem settle_list (items : List Json) : (list items).settle = .list (items.map settle) := by
  rw [settle, settleItems_eq_map]

/-- Only a list is settled to a list. -/
theorem settle_eq_list {value : Json} {items : List Json} :
    value.settle = .list items ↔ ∃ written, value = .list written ∧ items = written.map settle := by
  constructor
  · intro settles
    cases value with
    | list written =>
        rw [settle_list] at settles
        cases settles
        exact ⟨written, rfl, rfl⟩
    | object written =>
        rw [settle] at settles
        cases settles
    | null | boolean | number | string => cases settles
  · rintro ⟨written, rfl, rfl⟩
    exact settle_list written

/-- The last value under a key is the last one written, settled. -/
private theorem last?_settleMembers (written : Members) (key : String) :
    Members.last? (settleMembers written) key = (written.last? key).map settle := by
  have each (members : Members) :
      Members.get? (members.map (fun member => (member.1, member.2.settle))) key =
        (members.get? key).map settle := by
    induction members with
    | nil => rfl
    | cons member rest ih =>
        rw [List.map_cons, Members.get?_cons, Members.get?_cons, ih]
        by_cases same : key = member.1
        · rw [if_pos same, if_pos same, Option.map_some]
        · rw [if_neg same, if_neg same]
  unfold Members.last?
  rw [settleMembers_eq_map, ← List.map_reverse]
  exact each written.reverse

/-- **What an object settles to.** Its keys stand once, in the order in which they are first
written, each with the settled value that is written last for it. -/
theorem settle_object (written : Members) :
    ∃ members : Members, (object written).settle = .object members ∧
      members.keys = written.keys.eraseDups ∧
      ∀ key, members.get? key = (written.last? key).map settle := by
  refine ⟨collect (settleMembers written), by rw [settle], ?_, ?_⟩
  · have keys : Members.keys (settleMembers written) = written.keys := by
      rw [settleMembers_eq_map]
      exact List.map_map
    rw [keys_collect, keys]
  · intro key
    rw [get?_collect, last?_settleMembers]

/-- No key stands twice in an object of the value, at any depth. -/
inductive Distinct : Json → Prop
  | null : Distinct .null
  | boolean (b : Bool) : Distinct (.boolean b)
  | number (n : JsonNumber) : Distinct (.number n)
  | string (s : String) : Distinct (.string s)
  | list {items : List Json} (each : ∀ item ∈ items, Distinct item) : Distinct (.list items)
  | object {members : Members} (keys : members.keys.Nodup)
      (each : ∀ member ∈ members, Distinct member.2) : Distinct (.object members)

/-- A settled value repeats no key. -/
theorem distinct_settle (value : Json) : value.settle.Distinct := by
  induction value using inductionOn with
  | null => exact .null
  | boolean b => exact .boolean b
  | number n => exact .number n
  | string s => exact .string s
  | list items each =>
      rw [settle_list]
      refine .list fun item member => ?_
      obtain ⟨written, stands, rfl⟩ := List.mem_map.mp member
      exact each written stands
  | object written each =>
      rw [settle]
      refine .object (nodup_keys_collect _) fun member present => ?_
      obtain ⟨first, stands, same⟩ := mem_settleMembers (mem_of_mem_collect present)
      exact same ▸ each first stands

/-- A value without repeated keys settles to itself. -/
theorem Distinct.settle_eq {value : Json} (distinct : value.Distinct) : value.settle = value := by
  induction distinct with
  | null => rfl
  | boolean b => rfl
  | number n => rfl
  | string s => rfl
  | list _ each =>
      rw [settle_list, List.map_congr_left each, List.map_id']
  | object keys _ each =>
      have same : settleMembers _ = _ := (settleMembers_eq_map _).trans
        (List.map_congr_left (fun member present => congrArg (Prod.mk member.1)
          (each member present)))
      rw [List.map_id'] at same
      rw [settle, same, collect_of_nodup keys]

end Json

end LintReport
