import LintReport.Proofs.Finding.Attached

/-!
# Records with their members in another order

The members of an object may come in any order, as long as no key stands twice. A finding is then
read as the same finding with its payload in another order, or refused for the same defect
(`Finding.ofJson_rearranged`). A record is looked through for two members only, so that all others
do not matter, nor does their order (`Record.ofJson_rewrapped`).
-/

namespace LintReport

namespace Members

/-- Where no key is repeated, what stands under a key is the member with this key. -/
theorem get?_eq_some_iff {members : Members} (distinct : members.keys.Nodup) {key : String}
    {value : Json} : members.get? key = some value ↔ (key, value) ∈ members := by
  refine ⟨mem_of_get?, fun present => ?_⟩
  induction members with
  | nil => cases present
  | cons member rest ih =>
      obtain ⟨fresh, others⟩ := List.nodup_cons.mp distinct
      rw [get?_cons]
      rcases List.mem_cons.mp present with rfl | later
      · rw [if_pos rfl]
      · have different : key ≠ member.1 := by
          rintro rfl
          exact fresh (List.mem_map.mpr ⟨_, later, rfl⟩)
        rw [if_neg different, ih others later]

/-- The order of members does not matter to who looks one up. -/
theorem get?_perm {members others : Members} (distinct : members.keys.Nodup)
    (moved : members.Perm others) (key : String) : others.get? key = members.get? key := by
  have distinctToo : others.keys.Nodup := (moved.map Prod.fst).nodup_iff.mp distinct
  apply Option.ext
  intro value
  rw [get?_eq_some_iff distinctToo, get?_eq_some_iff distinct]
  exact moved.symm.mem_iff

end Members

/-- A value and the same value, or an object with its members in another order. -/
inductive Json.Rearranges : Json → Json → Prop
  | same (value : Json) : Rearranges value value
  | object {members others : Members} (moved : members.Perm others) :
      Rearranges (.object members) (.object others)

namespace Finding

/-- A finding and the same finding with its payload in another order. -/
structure Rearranges (finding other : Finding) : Prop where
  line : other.line = finding.line
  character : other.character = finding.character
  payload : finding.payload.members.Perm other.payload.members

namespace Rearranges

theorem refl (finding : Finding) : finding.Rearranges finding := ⟨rfl, rfl, .refl _⟩

variable {finding other : Finding} (moved : finding.Rearranges other)
include moved

/-- Rearranging keeps what stands under each key. -/
theorem get? (key : String) : other.payload.get? key = finding.payload.get? key :=
  Members.get?_perm finding.payload.distinct moved.payload key

theorem reason? : other.reason? = finding.reason? := by
  unfold Finding.reason?
  rw [moved.get?]

theorem code? : other.code? = finding.code? := by
  unfold Finding.code?
  rw [moved.get?]

theorem severity? : other.severity? = finding.severity? :=
  severity?_congr (moved.get? "severity") (moved.get? "code")

end Rearranges

/-- A position depends only on what stands under its key. -/
theorem position_congr {members others : Members} {field : String}
    (same : others.get? field = members.get? field) :
    position others field = position members field := by
  unfold position
  rw [same]

/-- **The order of its members does not matter to a finding.** -/
theorem ofJson_rearranged {value other : Json} (distinct : value.Distinct)
    (moved : value.Rearranges other) :
    Steps.Agree Rearranges (ofJson value) (ofJson other) := by
  cases moved with
  | same => exact .refl .refl _
  | object moved =>
      cases distinct with
      | object keys _ =>
          have keysToo : Members.keys _ |>.Nodup := (moved.map Prod.fst).nodup_iff.mp keys
          have same (field : String) := position_congr (Members.get?_perm keys moved field)
          simp only [ofJson, same]
          refine .bind (.refl (fun _ => rfl) _) ?_
          rintro line _ rfl
          refine .bind (.refl (fun _ => rfl) _) ?_
          rintro character _ rfl
          refine .succeeded ⟨rfl, rfl, ?_⟩
          rw [Payload.members_ofMembers_of_nodup keys, Payload.members_ofMembers_of_nodup keysToo]
          exact moved.filter _

end Finding

namespace Record

/-- Two objects name the same file and wrap the same finding, up to the order of its members. What
else they hold does not matter. -/
inductive Rewraps : Json → Json → Prop
  | object {fields others : Members} (file : others.get? "file" = fields.get? "file")
      (finding : Option.Rel Json.Rearranges (fields.get? "error") (others.get? "error")) :
      Rewraps (.object fields) (.object others)

/-- A record and the same record with the payload of its finding in another order. -/
structure Rearranges (record other : Record) : Prop where
  file : other.file = record.file
  finding : record.finding.Rearranges other.finding

theorem fileOf_congr {fields others : Members} (same : others.get? "file" = fields.get? "file") :
    fileOf others = fileOf fields := by
  unfold fileOf
  rw [same]

/-- Only the wrapped finding matters to who looks for it. -/
theorem findingOf_rearranged {fields others : Members} (distinct : (Json.object fields).Distinct)
    (moved : Option.Rel Json.Rearranges (fields.get? "error") (others.get? "error")) :
    Steps.Agree Finding.Rearranges (findingOf fields) (findingOf others) := by
  have wrapped : ∀ value, fields.get? "error" = some value → value.Distinct := by
    intro value found
    cases distinct with
    | object _ each => exact each _ (Members.mem_of_get? found)
  unfold findingOf
  revert moved wrapped
  generalize fields.get? "error" = first
  generalize others.get? "error" = second
  intro moved wrapped
  cases moved with
  | none => exact .failed _
  | some moved =>
      cases moved with
      | same value => exact .refl .refl _
      | object moved => exact Finding.ofJson_rearranged (wrapped _ rfl) (.object moved)

/-- **Only two members matter to a record.** -/
theorem ofJson_rewrapped {value other : Json} (distinct : value.Distinct)
    (rewraps : Rewraps value other) : Steps.Agree Rearranges (ofJson value) (ofJson other) := by
  cases rewraps with
  | object file finding =>
      simp only [ofJson, fileOf_congr file]
      refine .bind (.refl (fun _ => rfl) _) ?_
      rintro name _ rfl
      refine .bind (findingOf_rearranged distinct finding) ?_
      intro given found moved
      exact .succeeded ⟨rfl, moved⟩

/-- A batch is read alike when each of its records is. -/
theorem ofJsonList_rewrapped {items others : List Json} (distinct : ∀ item ∈ items, item.Distinct)
    (rewraps : List.Forall₂ Rewraps items others) : ∀ index,
    Steps.Agree (List.Forall₂ Rearranges) (ofJsonList index items) (ofJsonList index others) := by
  induction rewraps with
  | nil => exact fun _ => .succeeded .nil
  | cons here _ ih =>
      intro index
      obtain ⟨first, rest⟩ := List.forall_mem_cons.mp distinct
      have agree := ofJson_rewrapped first here
      unfold ofJsonList
      revert agree
      generalize ofJson _ = given
      generalize ofJson _ = found
      intro agree
      cases agree with
      | failed defect => exact .failed _
      | succeeded same => exact (ih rest (index + 1)).map fun _ _ others => .cons same others

end Record

end LintReport
