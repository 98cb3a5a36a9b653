import LintReport.Proofs.Finding.Defects
import LintReport.Proofs.Json.Nesting
import LintReport.Proofs.Report.Batch

/-!
# Which batches are accepted

Every text has one of four outcomes, and each is decided by what stands in the text
(`readBatch_decided`): it is no JSON, it is no list, its records are read, or the first record that
is not in order is named. The records stand in the text with keys repeated as often as they are
written; they are judged by what they settle to, with every key at its first place and with its
last value.
-/

namespace LintReport

namespace Json

/-- A text is a list of values when it is a written list with these values. -/
theorem parse_eq_list {text : String} {items : List Json} :
    parse text = .ok (.list items) ↔
      ∃ written, parseWritten text = .ok (.list written) ∧ items = written.map settle := by
  unfold parse
  cases stands : parseWritten text with
  | error error =>
      constructor
      · intro impossible
        cases impossible
      · rintro ⟨written, impossible, _⟩
        cases impossible
  | ok value => simp only [Steps.map_ok, Except.ok.injEq, settle_eq_list]

end Json

/-- The only way in which a text is not readable is that no value stands in it. -/
theorem readBatch_eq_unreadable {text : String} {error : Json.Error} :
    readBatch text = .error (.unreadable error) ↔ Json.parseWritten text = .error error := by
  unfold readBatch Json.parse
  cases stands : Json.parseWritten text with
  | error found => simp only [Steps.map_error, Except.error.injEq, ReportError.unreadable.injEq]
  | ok value =>
      simp only [Steps.map_ok]
      constructor
      · intro impossible
        split at impossible
        · next same => cases same
        · split at impossible <;> cases impossible
        · cases impossible
      · intro impossible
        cases impossible

/-- A batch is refused as no list exactly when its text holds another value. -/
theorem readBatch_eq_notList {text : String} :
    readBatch text = .error .notList ↔
      ∃ value, Json.parseWritten text = .ok value ∧ ∀ items, value ≠ .list items := by
  constructor
  · intro refuses
    cases stands : Json.parseWritten text with
    | error error =>
        rw [readBatch_eq_unreadable.mpr stands] at refuses
        cases refuses
    | ok value =>
        refine ⟨value, rfl, ?_⟩
        rintro items rfl
        have parses := Json.parse_eq_list.mpr ⟨items, stands, rfl⟩
        simp only [readBatch, parses] at refuses
        split at refuses <;> cases refuses
  · rintro ⟨value, stands, other⟩
    unfold readBatch Json.parse
    rw [stands, Steps.map_ok]
    split
    · next impossible => cases impossible
    · next items settles =>
        rw [Except.ok.injEq] at settles
        obtain ⟨written, rfl, _⟩ := Json.settle_eq_list.mp settles
        exact (other written rfl).elim
    · rfl

/-- A batch is refused for a record when the elements of its list are. -/
theorem readBatch_eq_record {text : String} {index : Nat} {defect : Defect} :
    readBatch text = .error (.record index defect) ↔ ∃ items,
      Json.parse text = .ok (.list items) ∧ Record.ofJsonList 0 items = .error (index, defect) := by
  unfold readBatch
  constructor
  · intro refuses
    split at refuses
    · cases refuses
    · next items parses =>
        split at refuses
        · next found here =>
            cases refuses
            exact ⟨items, parses, here⟩
        · cases refuses
    · cases refuses
  · rintro ⟨items, parses, here⟩
    simp only [parses, here]

/-- Reading a batch writes nothing, so it does not fail for that. -/
theorem readBatch_ne_output (text : String) (error : StreamError) :
    readBatch text ≠ .error (.output error) := by
  unfold readBatch
  intro impossible
  split at impossible
  · cases impossible
  · split at impossible <;> cases impossible
  · cases impossible

/-- **Accepted batches.** The records are those that the elements of the list denote. -/
theorem readBatch_eq_ok_iff_denotes {text : String} {records : List Record} :
    readBatch text = .ok records ↔ ∃ written, Json.parseWritten text = .ok (.list written) ∧
      List.Forall₂ (fun item record => Record.Denotes item.settle record) written records := by
  have each (item : Json) (record : Record) :
      Record.ofJson item.settle = .ok record ↔ Record.Denotes item.settle record :=
    Record.ofJson_eq_ok_iff_denotes (Json.distinct_settle item)
  rw [readBatch_eq_ok]
  constructor
  · rintro ⟨items, parses, reads⟩
    obtain ⟨written, stands, rfl⟩ := Json.parse_eq_list.mp parses
    rw [Record.ofJsonList_eq_ok, List.forall₂_map_left_iff] at reads
    simp only [each] at reads
    exact ⟨written, stands, reads⟩
  · rintro ⟨written, stands, denotes⟩
    refine ⟨_, Json.parse_eq_list.mpr ⟨written, stands, rfl⟩, ?_⟩
    rw [Record.ofJsonList_eq_ok, List.forall₂_map_left_iff]
    simpa only [each] using denotes

/-- A batch is read exactly when its text is a list of records in order. -/
theorem readBatch_succeeds_iff {text : String} :
    (∃ records, readBatch text = .ok records) ↔
      ∃ written, Json.parseWritten text = .ok (.list written) ∧
        ∀ item ∈ written, Record.InOrder item.settle := by
  simp only [readBatch_eq_ok, Json.parse_eq_list, Record.inOrder_iff]
  constructor
  · rintro ⟨records, items, ⟨written, stands, rfl⟩, reads⟩
    have each := Record.ofJsonList_succeeds_iff.mp ⟨records, reads⟩
    exact ⟨written, stands, fun item member => each item.settle (List.mem_map_of_mem member)⟩
  · rintro ⟨written, stands, each⟩
    have settled : ∀ item ∈ written.map Json.settle, ∃ record, Record.ofJson item = .ok record := by
      rw [List.forall_mem_map]
      exact each
    obtain ⟨records, reads⟩ := (@Record.ofJsonList_succeeds_iff _ 0).mpr settled
    exact ⟨records, _, ⟨written, stands, rfl⟩, reads⟩

/-- **Refused batches.** The first element that is not in order counts. -/
theorem readBatch_eq_record_iff_defect {text : String} {index : Nat} {defect : Defect} :
    readBatch text = .error (.record index defect) ↔ ∃ before item after,
      Json.parseWritten text = .ok (.list (before ++ item :: after)) ∧
      (∀ earlier ∈ before, Record.InOrder earlier.settle) ∧
      Record.HasDefect item.settle defect ∧ index = before.length := by
  simp only [readBatch_eq_record, Json.parse_eq_list, Record.inOrder_iff, ← Record.ofJson_eq_error,
    Record.ofJsonList_eq_error, Nat.zero_add]
  constructor
  · rintro ⟨items, ⟨written, stands, settles⟩, before, item, after, rfl, sound, wrong, rfl⟩
    -- The settled elements before and behind the defect come from written ones.
    obtain ⟨first, rest, rfl, rfl, more⟩ := List.map_eq_append_iff.mp settles.symm
    obtain ⟨faulty, later, rfl, rfl, rfl⟩ := List.map_eq_cons_iff.mp more
    refine ⟨first, faulty, later, stands, ?_, wrong, List.length_map _⟩
    rw [List.forall_mem_map] at sound
    exact sound
  · rintro ⟨before, item, after, stands, sound, wrong, rfl⟩
    refine ⟨_, ⟨_, stands, rfl⟩, before.map Json.settle, item.settle, after.map Json.settle, ?_,
      ?_, wrong, (List.length_map _).symm⟩
    · rw [List.map_append, List.map_cons]
    · rw [List.forall_mem_map]
      exact sound

/-- **What becomes of a text.** It is refused when no JSON value stands in it and when that value
is no list. A list is read when every element is in order, and then gives one record for each,
in the same places; otherwise the first element out of order is named together with the first of
its defects. Elements settle before they are judged: a key that is written more than once counts
at its first place and with its last value. -/
theorem readBatch_decided (text : String) :
    (∀ error, readBatch text = .error (.unreadable error) ↔
      Json.parseWritten text = .error error) ∧
    (readBatch text = .error .notList ↔
      ∃ value, Json.parseWritten text = .ok value ∧ ∀ items, value ≠ .list items) ∧
    ((∃ records, readBatch text = .ok records) ↔
      ∃ written, Json.parseWritten text = .ok (.list written) ∧
        ∀ item ∈ written, Record.InOrder item.settle) ∧
    (∀ records, readBatch text = .ok records ↔
      ∃ written, Json.parseWritten text = .ok (.list written) ∧
        List.Forall₂ (fun item record => Record.Denotes item.settle record) written records) ∧
    (∀ index defect, readBatch text = .error (.record index defect) ↔
      ∃ before item after, Json.parseWritten text = .ok (.list (before ++ item :: after)) ∧
        (∀ earlier ∈ before, Record.InOrder earlier.settle) ∧
        Record.HasDefect item.settle defect ∧ index = before.length) ∧
    (∀ error, readBatch text ≠ .error (.output error)) ∧
    ∀ written : Members, ∃ members : Members, (Json.object written).settle = .object members ∧
      members.keys = written.keys.eraseDups ∧
      ∀ key, members.get? key = (written.last? key).map Json.settle :=
  ⟨fun _ => readBatch_eq_unreadable, readBatch_eq_notList, readBatch_succeeds_iff,
    fun _ => readBatch_eq_ok_iff_denotes, fun _ _ => readBatch_eq_record_iff_defect,
    readBatch_ne_output text, Json.settle_object⟩

-- The last value of a repeated key counts, and the line is looked at before the character that is
-- missing and before the record behind it.
example : readBatch "[\x7b\"error\": \x7b\"line\": null, \"line\": -1\x7d, \"file\": null\x7d, 7]" =
    .error (.record 0 (.notNatural "line" (.number (.whole ⟨-1, by decide, by decide⟩)))) := by
  cbv

end LintReport
