import Mathlib.Data.List.Forall2
import LintReport.Report.Error
import LintReport.Proofs.Finding.Record

/-!
# Reading a batch of records

A list of records is read when each of its elements is (`Record.ofJsonList_eq_ok`); otherwise the
first element with a defect decides, whatever stands behind it (`Record.ofJsonList_eq_error`).
-/

namespace LintReport

namespace Record

/-- **All elements or none.** The records of a list are those of its elements, in order. -/
theorem ofJsonList_eq_ok {items : List Json} :
    ∀ {index : Nat} {records : List Record}, ofJsonList index items = .ok records ↔
      List.Forall₂ (fun item record => ofJson item = .ok record) items records := by
  induction items with
  | nil =>
      intro index records
      rw [List.forall₂_nil_left_iff]
      constructor
      · intro reads
        cases reads
        rfl
      · rintro rfl
        rfl
  | cons item items ih =>
      intro index records
      unfold ofJsonList
      constructor
      · intro reads
        split at reads
        · cases reads
        · next record here =>
            cases others : ofJsonList (index + 1) items with
            | error failure =>
                rw [others] at reads
                cases reads
            | ok later =>
                rw [others] at reads
                cases reads
                exact .cons here (ih.mp others)
      · intro each
        cases each with
        | cons here later => simp only [here, ih.mpr later, Steps.map_ok]

/-- Every record of a batch is read from one of its items. -/
theorem exists_of_mem_ofJsonList {index : Nat} {items : List Json} {records : List Record}
    (reads : ofJsonList index items = .ok records) {record : Record} (member : record ∈ records) :
    ∃ item ∈ items, ofJson item = .ok record := by
  have paired := ofJsonList_eq_ok.mp reads
  clear reads
  induction paired with
  | nil => cases member
  | @cons item first _ _ here _ ih =>
      rcases List.mem_cons.mp member with rfl | member
      · exact ⟨item, List.mem_cons_self, here⟩
      · obtain ⟨other, stands, there⟩ := ih member
        exact ⟨other, List.mem_cons_of_mem item stands, there⟩

/-- A list is read when a record is read from each of its elements. -/
theorem ofJsonList_succeeds_iff {items : List Json} : ∀ {index : Nat},
    (∃ records, ofJsonList index items = .ok records) ↔
      ∀ item ∈ items, ∃ record, ofJson item = .ok record := by
  induction items with
  | nil =>
      intro index
      exact ⟨fun _ => List.forall_mem_nil _, fun _ => ⟨[], rfl⟩⟩
  | cons item items ih =>
      intro index
      rw [List.forall_mem_cons, ← @ih (index + 1)]
      simp only [ofJsonList_eq_ok]
      constructor
      · rintro ⟨records, each⟩
        cases each with
        | cons here later => exact ⟨⟨_, here⟩, _, later⟩
      · rintro ⟨⟨record, here⟩, records, later⟩
        exact ⟨record :: records, .cons here later⟩

/-- Findings in records of their own are read back. -/
theorem ofJsonList_wrapped (index : Nat) (findings : List Finding) :
    ofJsonList index ((findings.map Finding.toJson).map wrap) = .ok (findings.map ofFinding) := by
  refine ofJsonList_eq_ok.mpr ?_
  rw [List.map_map, List.forall₂_map_left_iff, List.forall₂_map_right_iff, List.forall₂_same]
  exact fun finding _ => ofJson_wrapped finding

/-- **The first defect counts.** A list is refused for an element before which all others are in
order, and the place of that element is named. -/
theorem ofJsonList_eq_error {items : List Json} :
    ∀ {index place : Nat} {defect : Defect}, ofJsonList index items = .error (place, defect) ↔
      ∃ before item after, items = before ++ item :: after ∧
        (∀ earlier ∈ before, ∃ record, ofJson earlier = .ok record) ∧
        ofJson item = .error defect ∧ place = index + before.length := by
  induction items with
  | nil =>
      intro index place defect
      constructor
      · intro impossible
        cases impossible
      · rintro ⟨before, item, after, impossible, _⟩
        cases before <;> cases impossible
  | cons item items ih =>
      intro index place defect
      unfold ofJsonList
      constructor
      · intro refuses
        split at refuses
        · next found here =>
            cases refuses
            exact ⟨[], item, items, rfl, List.forall_mem_nil _, here, rfl⟩
        · next record here =>
            cases others : ofJsonList (index + 1) items with
            | ok later =>
                rw [others] at refuses
                cases refuses
            | error failure =>
                rw [others] at refuses
                cases refuses
                obtain ⟨before, faulty, after, rfl, sound, there, rfl⟩ := ih.mp others
                refine ⟨item :: before, faulty, after, rfl,
                  List.forall_mem_cons.mpr ⟨⟨record, here⟩, sound⟩, there, ?_⟩
                rw [List.length_cons]
                omega
      · rintro ⟨before, faulty, after, split, sound, there, rfl⟩
        cases before with
        | nil =>
            cases split
            rw [there]
            rfl
        | cons first before =>
            rw [List.cons_append, List.cons.injEq] at split
            obtain ⟨rfl, rfl⟩ := split
            obtain ⟨⟨record, here⟩, sound⟩ := List.forall_mem_cons.mp sound
            have later : ofJsonList (index + 1) (before ++ faulty :: after) =
                .error (index + 1 + before.length, defect) :=
              ih.mpr ⟨before, faulty, after, rfl, sound, there, rfl⟩
            have place : index + (item :: before).length = index + 1 + before.length := by
              rw [List.length_cons]
              omega
            rw [place]
            simp only [here, later, Steps.map_error]

end Record

/-- A batch is read from a list of which every item is a record. -/
theorem readBatch_eq_ok {text : String} {records : List Record} :
    readBatch text = .ok records ↔ ∃ items, Json.parse text = .ok (.list items) ∧
      Record.ofJsonList 0 items = .ok records := by
  unfold readBatch
  constructor
  · intro reads
    split at reads
    · cases reads
    · next items parses =>
        split at reads
        · cases reads
        · next found here =>
            cases reads
            exact ⟨items, parses, here⟩
    · cases reads
  · rintro ⟨items, parses, here⟩
    simp only [parses, here]

end LintReport
