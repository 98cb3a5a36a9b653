import LintReport.Finding.Record
import LintReport.Proofs.Json.Settled
import LintReport.Proofs.Steps

/-!
# Findings and records as values

A payload takes over the members of an object that are not its position, in their order
(`Payload.members_ofMembers`). A finding is read from an object exactly when both numbers of its
position are there (`Finding.ofJson_eq_ok`), and it is read back from the object that it makes
(`Finding.ofJson_toJson`), also where that object is wrapped in a record
(`Record.ofJson_wrapped`).
-/

namespace LintReport

/-- The whole numbers between `0` and `2^64 - 1` are the 64-bit natural numbers. -/
theorem Whole.toUInt64?_eq_some {w : Whole} {n : UInt64} :
    w.toUInt64? = some n ↔ w = ofUInt64 n := by
  constructor
  · intro natural
    unfold toUInt64? at natural
    split at natural
    · next nonnegative =>
        have below := w.upper
        rw [Option.some.injEq] at natural
        have small : w.val.toNat < UInt64.size := by
          unfold UInt64.size
          omega
        have same : w.val = n.toNat := by
          rw [← natural, UInt64.toNat_ofNat_of_lt' small]
          omega
        cases w
        subst same
        rfl
    · cases natural
  · rintro rfl
    exact toUInt64?_ofUInt64 n

theorem Json.toUInt64?_eq_some {value : Json} {n : UInt64} :
    value.toUInt64? = some n ↔ value = .ofUInt64 n := by
  constructor
  · intro natural
    cases value with
    | number number =>
        cases number with
        | whole w => rw [Whole.toUInt64?_eq_some.mp natural, ofUInt64]
        | double x => cases natural
    | null | boolean | string | list | object => cases natural
  · rintro rfl
    exact Whole.toUInt64?_ofUInt64 n

/-- The members that are not the position, in their order. -/
def Members.besidesPosition (members : Members) : Members :=
  members.filter (fun member => member.1 ∉ positionKeys)

namespace Payload

/-- A payload takes any member but one that names a position. -/
theorem members_put (payload : Payload) (key : String) (value : Json) :
    (payload.put key value).members =
      if key ∈ positionKeys then payload.members else payload.members.put key value := by
  unfold put
  by_cases position : key ∈ positionKeys
  · rw [dif_pos position, if_pos position]
  · rw [dif_neg position, if_neg position]

/-- A payload made from members collects those besides the position. -/
theorem members_ofMembers (members : Members) :
    (ofMembers members).members = Json.collect members.besidesPosition := by
  unfold ofMembers Json.collect Members.besidesPosition
  rw [List.foldl_filter]
  refine (List.foldl_hom Payload.members ?_).symm
  intro payload member
  rw [members_put]
  by_cases position : member.1 ∈ positionKeys
  · simp only [position, not_true_eq_false, decide_false, Bool.false_eq_true, ↓reduceIte]
  · simp only [position, not_false_eq_true, decide_true, ↓reduceIte]

/-- Of members that repeat no key, the payload takes over those that are not the position. -/
theorem members_ofMembers_of_nodup {members : Members} (distinct : members.keys.Nodup) :
    (ofMembers members).members = members.besidesPosition := by
  rw [members_ofMembers]
  exact Json.collect_of_nodup (distinct.sublist (List.filter_sublist.map Prod.fst))

/-- A payload made from members has no others. -/
theorem mem_of_mem_ofMembers {members : Members} {member : String × Json}
    (present : member ∈ (ofMembers members).members) : member ∈ members := by
  rw [members_ofMembers] at present
  exact (List.mem_filter.mp (Json.mem_of_mem_collect present)).1

theorem besidesPosition_members (payload : Payload) :
    payload.members.besidesPosition = payload.members := by
  refine List.filter_eq_self.mpr fun member present => decide_eq_true ?_
  intro position
  exact payload.free member.1 position (List.mem_map.mpr ⟨member, present, rfl⟩)

end Payload

namespace Finding

/-- A position is read exactly when a 64-bit natural number stands under its key. -/
theorem position_eq_ok {members : Members} {field : String} {n : UInt64} :
    position members field = .ok n ↔ members.get? field = some (Json.ofUInt64 n) := by
  unfold position
  constructor
  · intro reads
    split at reads
    · cases reads
    · cases reads
    · next value _ found =>
        split at reads
        · next natural =>
            cases reads
            rw [found, Json.toUInt64?_eq_some.mp natural]
        · cases reads
  · intro found
    rw [found]
    simp only [Json.ofUInt64, Json.toUInt64?, Whole.toUInt64?_ofUInt64]

/-- **What a finding is read from.** -/
theorem ofJson_eq_ok {value : Json} {finding : Finding} :
    ofJson value = .ok finding ↔ ∃ members : Members, value = .object members ∧
      members.get? "line" = some (Json.ofUInt64 finding.line) ∧
      members.get? "character" = some (Json.ofUInt64 finding.character) ∧
      finding.payload = Payload.ofMembers members := by
  constructor
  · intro reads
    cases value with
    | object members =>
        obtain ⟨line, lineReads, reads⟩ := Steps.bind_eq_ok.mp reads
        obtain ⟨character, characterReads, reads⟩ := Steps.bind_eq_ok.mp reads
        cases reads
        exact ⟨members, rfl, position_eq_ok.mp lineReads, position_eq_ok.mp characterReads, rfl⟩
    | null | boolean | number | string | list => cases reads
  · rintro ⟨members, rfl, line, character, payload⟩
    simp only [ofJson, position_eq_ok.mpr line, position_eq_ok.mpr character, Steps.ok_bind,
      Steps.pure_eq_ok, ← payload]

/-- The keys of the object that a finding makes: those of the position and those of the payload. -/
theorem nodup_keys_toJson (finding : Finding) :
    (Members.keys (("line", Json.ofUInt64 finding.line) ::
      ("character", Json.ofUInt64 finding.character) :: finding.payload.members)).Nodup := by
  have line := finding.payload.free "line" (by decide)
  have character := finding.payload.free "character" (by decide)
  have apart : "line" ≠ "character" := by decide
  simp only [Members.keys, List.map_cons, List.nodup_cons, List.mem_cons, not_or]
    at line character ⊢
  exact ⟨⟨apart, line⟩, character, finding.payload.distinct⟩

/-- **A finding is read back from the object that it makes.** -/
theorem ofJson_toJson (finding : Finding) : ofJson finding.toJson = .ok finding := by
  refine ofJson_eq_ok.mpr ⟨_, rfl, ?_, ?_, ?_⟩
  · rw [Members.get?_cons, if_pos rfl]
  · have apart : "character" ≠ "line" := by decide
    rw [Members.get?_cons, if_neg apart, Members.get?_cons, if_pos rfl]
  · refine Payload.ext (Eq.symm ?_)
    rw [Payload.members_ofMembers_of_nodup finding.nodup_keys_toJson]
    exact finding.payload.besidesPosition_members

end Finding

namespace Record

/-- The finding in a record of its own, as a value. -/
def wrap (value : Json) : Json := .object [("error", value)]

/-- A written finding is read back as the record that holds it. -/
theorem ofJson_wrapped (finding : Finding) :
    ofJson (wrap finding.toJson) = .ok (ofFinding finding) := by
  have file : fileOf [("error", finding.toJson)] = .ok none := rfl
  have wrapped : findingOf [("error", finding.toJson)] = Finding.ofJson finding.toJson := rfl
  simp only [wrap, ofJson, file, wrapped, Finding.ofJson_toJson, Steps.ok_bind,
    Steps.pure_eq_ok, ofFinding]

/-- The finding of a record is read from the value of its `error` member. -/
theorem ofJson_eq_ok {value : Json} {record : Record} :
    ofJson value = .ok record ↔ ∃ fields : Members, value = .object fields ∧
      fileOf fields = .ok record.file ∧
      ∃ wrapped, fields.get? "error" = some wrapped ∧
        Finding.ofJson wrapped = .ok record.finding := by
  constructor
  · intro reads
    cases value with
    | object fields =>
        obtain ⟨file, fileReads, reads⟩ := Steps.bind_eq_ok.mp reads
        obtain ⟨finding, findingReads, reads⟩ := Steps.bind_eq_ok.mp reads
        cases reads
        unfold findingOf at findingReads
        split at findingReads
        · cases findingReads
        · cases findingReads
        · next wrapped _ found => exact ⟨fields, rfl, fileReads, wrapped, found, findingReads⟩
    | null | boolean | number | string | list => cases reads
  · rintro ⟨fields, rfl, file, wrapped, found, finding⟩
    have reads : findingOf fields = .ok record.finding := by
      unfold findingOf
      rw [found]
      cases wrapped with
      | null => cases finding
      | object | boolean | number | string | list => exact finding
    simp only [ofJson, file, reads, Steps.ok_bind, Steps.pure_eq_ok]

end Record

end LintReport
