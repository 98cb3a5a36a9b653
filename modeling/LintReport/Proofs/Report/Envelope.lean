import LintReport.Proofs.Finding.Defects
import LintReport.Proofs.Finding.Rearranged
import LintReport.Proofs.Json.RoundTrip
import LintReport.Proofs.Report.Delivery

/-!
# What records are read for

Of a record only the file and the finding count, and of a finding it does not count in which order
its members come (`Record.envelope_immaterial`). What a reporter writes does not even depend on the
files: batches that wrap the same findings are reported alike (`Reporter.deliver_of_wrapped`).
-/

namespace LintReport

namespace Record

/-- Values that wrap the same findings are read as records of the same findings. -/
theorem map_finding_of_wrapped {items others : List Json}
    (alike : List.Forall₂ (fun item other => other.member? "error" = item.member? "error") items
      others) : ∀ {index start : Nat} {records more : List Record},
      ofJsonList index items = .ok records → ofJsonList start others = .ok more →
      more.map finding = records.map finding := by
  simp only [ofJsonList_eq_ok]
  induction alike with
  | nil =>
      intro _ _ records more reads readsToo
      cases reads
      cases readsToo
      rfl
  | cons same _ ih =>
      intro index start records more reads readsToo
      cases reads with
      | cons here later =>
          cases readsToo with
          | cons there laterToo =>
              obtain ⟨fields, rfl, _, wrapped, found, first⟩ := ofJson_eq_ok.mp here
              obtain ⟨others, rfl, _, again, foundToo, second⟩ := ofJson_eq_ok.mp there
              have wraps : others.get? "error" = fields.get? "error" := same
              rw [found, foundToo, Option.some.injEq] at wraps
              rw [wraps, first, Except.ok.injEq] at second
              rw [List.map_cons, List.map_cons, @ih index start _ _ later laterToo,
                second]

end Record

/-- Batches that wrap the same findings are reported alike. -/
theorem Reporter.deliver_of_wrapped {text other : String} {items others : List Json}
    (stands : Json.parse text = .ok (.list items))
    (standsToo : Json.parse other = .ok (.list others))
    (alike : List.Forall₂ (fun item other => other.member? "error" = item.member? "error") items
      others) {records more : List Record} (reads : readBatch text = .ok records)
    (readsToo : readBatch other = .ok more) (reporter : Reporter) :
    reporter.render more = reporter.render records ∧
      ∀ {σ : Type} [Outlet σ] (sink : σ), reporter.deliver more sink = reporter.deliver records sink := by
  obtain ⟨_, same, first⟩ := readBatch_eq_ok.mp reads
  obtain ⟨_, sameToo, second⟩ := readBatch_eq_ok.mp readsToo
  cases stands.symm.trans same
  cases standsToo.symm.trans sameToo
  have collects : reporter.collect more = reporter.collect records := by
    unfold collect
    rw [Record.map_finding_of_wrapped alike first second]
  refine ⟨?_, fun sink => deliver_congr collects sink⟩
  unfold render
  rw [collects]

namespace Record

/-- **Only findings and files count in records.** Take two objects that name the same file and wrap
the same finding, with its members in any order and with any other members beside it. Either both
are refused for the same defect, or records are read from both, which agree in the file, the
position, the severity, the message and the code, and whose payloads have the same members, each in
the order of its own object. Batches of such objects are read alike from any place on. Accepted
batches of the same findings are reported alike, whatever their files and their other members. -/
theorem envelope_immaterial :
    (∀ fields others : Members, (Json.object fields).Distinct → (Json.object others).Distinct →
      Rewraps (.object fields) (.object others) →
      Steps.Agree (fun record other : Record =>
          other.file = record.file ∧ other.finding.line = record.finding.line ∧
          other.finding.character = record.finding.character ∧
          other.finding.severity? = record.finding.severity? ∧
          other.finding.reason? = record.finding.reason? ∧
          other.finding.code? = record.finding.code? ∧
          record.finding.payload.members.Perm other.finding.payload.members ∧
          ∃ inner outer : Members, fields.get? "error" = some (.object inner) ∧
            others.get? "error" = some (.object outer) ∧
            record.finding.payload.members = inner.besidesPosition ∧
            other.finding.payload.members = outer.besidesPosition)
        (ofJson (.object fields)) (ofJson (.object others))) ∧
    (∀ items others : List Json, (∀ item ∈ items, item.Distinct) →
      List.Forall₂ Rewraps items others → ∀ index,
      Steps.Agree (List.Forall₂ Rearranges) (ofJsonList index items)
        (ofJsonList index others)) ∧
    ∀ (text other : String) (items others : List Json) (records more : List Record),
      Json.parse text = .ok (.list items) → Json.parse other = .ok (.list others) →
      List.Forall₂ (fun item other => other.member? "error" = item.member? "error") items
        others →
      readBatch text = .ok records → readBatch other = .ok more → ∀ reporter : Reporter,
      reporter.render more = reporter.render records ∧
        ∀ {σ : Type} [Outlet σ] (sink : σ), reporter.deliver more sink = reporter.deliver records sink := by
  refine ⟨fun fields others distinct distinctToo rewraps => ?_,
    fun _ _ distinct rewraps => ofJsonList_rewrapped distinct rewraps,
    fun _ _ _ _ _ _ stands standsToo alike reads readsToo =>
      Reporter.deliver_of_wrapped stands standsToo alike reads readsToo⟩
  refine (ofJson_rewrapped distinct rewraps).mono ?_
  rintro record other reads readsToo ⟨file, moved⟩
  refine ⟨file, moved.line, moved.character, moved.severity?, moved.reason?, moved.code?,
    moved.payload, ?_⟩
  obtain ⟨_, wraps, _, _, payload⟩ := (ofJson_eq_ok_iff_denotes distinct).mp reads
  obtain ⟨_, wrapsToo, _, _, payloadToo⟩ := (ofJson_eq_ok_iff_denotes distinctToo).mp readsToo
  exact ⟨_, _, wraps, wrapsToo, payload, payloadToo⟩

/-- A record with members beside the file and the finding, and the same with all members the other
way round; and two batches of which only one names a file. -/
theorem envelope_immaterial_shuffled :
    let inner : Members := [("line", .ofUInt64 4), ("code", .string "E1"),
      ("character", .ofUInt64 0), ("reason", .null)]
    let fields : Members := [("id", .null), ("error", .object inner), ("file", .string "a")]
    let others : Members := [("file", .string "a"), ("error", .object inner.reverse)]
    let finding : Finding := .atPosition 1 2
    let named : Json := .list [.object [("error", finding.toJson), ("file", .string "a")]]
    let bare : Json := .list [wrap finding.toJson]
    (∃ record other : Record, ofJson (.object fields) = .ok record ∧
      ofJson (.object others) = .ok other ∧
      other.finding.severity? = record.finding.severity? ∧
      record.finding.payload.keys = ["code", "reason"] ∧
      other.finding.payload.keys = ["reason", "code"]) ∧
    readBatch named.render = .ok [⟨some "a", finding⟩] ∧
    readBatch bare.render = .ok [ofFinding finding] ∧
    ∀ reporter : Reporter,
      reporter.render [ofFinding finding] = reporter.render [⟨some "a", finding⟩] := by
  intro inner fields others finding named bare
  obtain ⟨single, _, batches⟩ := envelope_immaterial
  have leaves : ∀ member ∈ inner, member.2.Distinct := by
    simp only [inner, List.forall_mem_cons, List.not_mem_nil, false_imp_iff, implies_true, and_true]
    exact ⟨.number _, .string _, .number _, .null⟩
  have distinct : (Json.object fields).Distinct := by
    refine .object (by decide) ?_
    simp only [fields, List.forall_mem_cons, List.not_mem_nil, false_imp_iff, implies_true,
      and_true]
    exact ⟨.null, .object (by decide) leaves, .string _⟩
  have distinctToo : (Json.object others).Distinct := by
    refine .object (by decide) ?_
    simp only [others, List.forall_mem_cons, List.not_mem_nil, false_imp_iff, implies_true,
      and_true]
    refine ⟨.string _, .object (by decide) fun member present => leaves member ?_⟩
    exact List.mem_reverse.mp present
  have rewraps : Rewraps (.object fields) (.object others) :=
    .object rfl (.some (.object inner.reverse_perm.symm))
  have agree := single fields others distinct distinctToo rewraps
  have reads : ofJson (.object fields) = .ok ⟨some "a", 4, 0, .ofMembers inner⟩ := rfl
  have readsToo : ofJson (.object others) = .ok ⟨some "a", 4, 0, .ofMembers inner.reverse⟩ := rfl
  rw [reads, readsToo] at agree
  have whole : Json.Restorable 1 finding.toJson := by
    refine .object finding.nodup_keys_toJson ?_
    exact List.forall_mem_cons.mpr ⟨.ofUInt64 0 _, List.forall_mem_singleton.mpr (.ofUInt64 0 _)⟩
  have text : Json.Restorable 1 (.string "a") := ⟨.string _, .string _, .string _⟩
  have standsNamed : Json.Restorable 3 named := by
    refine .list (List.forall_mem_singleton.mpr (.object (by decide) ?_))
    exact List.forall_mem_cons.mpr ⟨whole, List.forall_mem_singleton.mpr text⟩
  have standsBare : Json.Restorable 3 bare := by
    refine .list (List.forall_mem_singleton.mpr (.object (by decide) ?_))
    exact List.forall_mem_singleton.mpr whole
  have stands : Json.parse named.render = .ok named := (standsNamed.mono (by decide)).parse_render
  have standsToo : Json.parse bare.render = .ok bare := (standsBare.mono (by decide)).parse_render
  have readsNamed : readBatch named.render = .ok [⟨some "a", finding⟩] :=
    readBatch_eq_ok.mpr ⟨_, stands, rfl⟩
  have readsBare : readBatch bare.render = .ok [ofFinding finding] :=
    readBatch_eq_ok.mpr ⟨_, standsToo, ofJsonList_wrapped 0 [finding]⟩
  refine ⟨?_, readsNamed, readsBare, fun reporter => ?_⟩
  · cases agree with
    | succeeded relates =>
        obtain ⟨_, _, _, severity, _, _, _, _, _, wraps, wrapsToo, payload, payloadToo⟩ := relates
        cases wraps
        cases wrapsToo
        refine ⟨_, _, reads, readsToo, severity, ?_, ?_⟩
        · exact (congrArg Members.keys payload).trans (by decide)
        · exact (congrArg Members.keys payloadToo).trans (by decide)
  · obtain ⟨same, _⟩ :=
      batches _ _ _ _ _ _ standsToo stands (.cons rfl .nil) readsBare readsNamed reporter
    exact same.symm

end Record

end LintReport
