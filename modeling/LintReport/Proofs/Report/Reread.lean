import Mathlib
import LintReport.Proofs.Json.RoundTrip
import LintReport.Proofs.Report.Batch
import LintReport.Proofs.Report.Delivery
import LintReport.Proofs.Report.Order

/-!
# Reports that are read again

A JSON report says all that was read: its list, each element wrapped in a record of its own, is a
batch of the same findings, and reporting that batch gives the same report
(`Reporter.readBatch_rendered`). What was read is nested in a list, a record and a finding, so a
payload value has at most 124 lists and objects around each other. The report lacks the record and
the wrapped report has it again, so both stay within the limit of the reader.
-/

namespace LintReport

/-- A finding is nested once more than the values of its payload. -/
theorem Finding.restorable_toJson {finding : Finding} {depth : Nat}
    (each : ∀ member ∈ finding.payload.members, Json.Restorable depth member.2) :
    Json.Restorable (depth + 1) finding.toJson := by
  refine .object finding.nodup_keys_toJson fun member present => ?_
  rcases List.mem_cons.mp present with rfl | present
  · exact .ofUInt64 depth finding.line
  · rcases List.mem_cons.mp present with rfl | present
    · exact .ofUInt64 depth finding.character
    · exact each member present

/-- A wrapped value is given back by its text when the value is, one level deeper. -/
theorem Record.restorable_wrap {depth : Nat} {value : Json}
    (restorable : Json.Restorable depth value) : Json.Restorable (depth + 1) (wrap value) :=
  .object (List.nodup_singleton _) (List.forall_mem_singleton.mpr restorable)

/-- The value of a payload in a batch stands in an object, in a record, in a list. -/
theorem payload_of_readBatch {text : String} {records : List Record}
    (reads : readBatch text = .ok records) :
    ∀ record ∈ records, ∀ member ∈ record.finding.payload.members,
      Json.Nested (Json.nestingLimit - 3) member.2 ∧ member.2.Distinct := by
  intro record recordMember member present
  obtain ⟨items, parses, each⟩ := readBatch_eq_ok.mp reads
  obtain ⟨item, itemMember, reads⟩ := Record.exists_of_mem_ofJsonList each recordMember
  obtain ⟨fields, rfl, _, wrapped, found, reads⟩ := Record.ofJson_eq_ok.mp reads
  obtain ⟨members, rfl, _, _, payload⟩ := Finding.ofJson_eq_ok.mp reads
  rw [payload] at present
  have stands := Payload.mem_of_mem_ofMembers present
  constructor
  · cases Json.nested_of_parse parses with
    | list each =>
        cases each _ itemMember with
        | object each =>
            cases each _ (Members.mem_of_get? found) with
            | object each => exact each member stands
  · cases Json.distinct_of_parse parses with
    | list each =>
        cases each _ itemMember with
        | object _ each =>
            cases each _ (Members.mem_of_get? found) with
            | object _ each => exact each member stands

namespace Reporter

/-- **A JSON report loses nothing.** When no number of a batch is a floating-point number, the
report is the list of its findings; the list of its elements, each in a record of its own, is a
batch of exactly these findings in this order, and reporting it writes the same again. -/
theorem readBatch_rendered (options : Options) {text : String} {records : List Record}
    (reads : readBatch text = .ok records)
    (exact : ∀ record ∈ records, ∀ member ∈ record.finding.payload.members, member.2.Exact) :
    let reporter : Reporter := ⟨options, .json⟩
    ∃ items : List Json,
      Json.parse (reporter.render records) = .ok (.list items) ∧
      items.length = (reporter.collect records).length ∧
      ∃ again : List Record,
        readBatch (Json.list (items.map Record.wrap)).render = .ok again ∧
        again.map Record.finding = reporter.collect records ∧
        reporter.collect again = reporter.collect records ∧
        reporter.render again = reporter.render records ∧
        ∀ {σ : Type} [Outlet σ] (sink : σ),
          reporter.deliver again sink = reporter.deliver records sink := by
  intro reporter
  have again : reporter.collect ((reporter.collect records).map Record.ofFinding) =
    reporter.collect records := reporter.collect_collect records
  have restorable : ∀ finding ∈ reporter.collect records,
      Json.Restorable (Json.nestingLimit - 2) finding.toJson := by
    intro finding member
    obtain ⟨record, stands, rfl⟩ := reporter.exists_of_mem_collect member
    refine Finding.restorable_toJson fun member present => ?_
    obtain ⟨nested, distinct⟩ := payload_of_readBatch reads record stands member present
    exact ⟨nested, exact record stands member present, distinct⟩
  -- The report is a list of findings and a line feed.
  have report : Json.parse (reporter.render records) =
      .ok (.list ((reporter.collect records).map Finding.toJson)) := by
    refine (Json.Restorable.list ?_).parse_write (Json.Numeral.ends_cons _ (by decide)) rfl
    exact List.forall_mem_map.mpr fun finding member => (restorable finding member).mono (by decide)
  -- The wrapped list uses up the limit: a list, records, findings, and what their payloads hold.
  have wrapped : Json.parse (Json.list (((reporter.collect records).map Finding.toJson).map
      Record.wrap)).render =
      .ok (.list (((reporter.collect records).map Finding.toJson).map Record.wrap)) := by
    refine (Json.Restorable.list ?_).parse_render
    exact List.forall_mem_map.mpr (List.forall_mem_map.mpr fun finding member =>
      Record.restorable_wrap (restorable finding member))
  refine ⟨(reporter.collect records).map Finding.toJson, report, List.length_map _,
    (reporter.collect records).map Record.ofFinding,
    readBatch_eq_ok.mpr ⟨_, wrapped, Record.ofJsonList_wrapped 0 _⟩,
    map_finding_ofFinding _, again, ?_, fun sink => deliver_congr again sink⟩
  unfold render
  rw [again]

/-- Two records out of order, the first with a repeated key, an escape and a negative number, are
written in order and read again. -/
theorem readBatch_rendered_two :
    let text :=
      "[\x7b\"error\":\x7b\"character\":0,\"a\":1,\"line\":2,\"a\":[\"\\n\",-1]\x7d\x7d," ++
      "\x7b\"error\":\x7b\"line\":1,\"character\":0\x7d\x7d]"
    let late : Finding := (Finding.atPosition 2 0).attach "a"
      (.list [.string "\n", .number (.whole ⟨-1, by decide, by decide⟩)])
    let records : List Record := [.ofFinding late, .ofFinding (.atPosition 1 0)]
    let reporter : Reporter := .ofOptions .default
    readBatch text = .ok records ∧
    (∀ record ∈ records, ∀ member ∈ record.finding.payload.members, member.2.Exact) ∧
    ∃ items again, Json.parse (reporter.render records) = .ok (.list items) ∧
      readBatch (Json.list (items.map Record.wrap)).render = .ok again ∧
      again.map Record.finding = reporter.collect records := by
  intro text late records reporter
  have reads : readBatch text = .ok records := by
    unfold text
    cbv
  have exact : ∀ record ∈ records, ∀ member ∈ record.finding.payload.members,
      member.2.Exact := by
    refine List.forall_mem_cons.mpr ⟨List.forall_mem_singleton.mpr (.list ?_),
      List.forall_mem_singleton.mpr (List.forall_mem_nil _)⟩
    exact List.forall_mem_cons.mpr ⟨.string _, List.forall_mem_singleton.mpr (.whole _)⟩
  obtain ⟨items, report, _, again, rereads, same, _⟩ :=
    readBatch_rendered .default reads exact
  exact ⟨reads, exact, items, again, report, rereads, same⟩

end Reporter

end LintReport
