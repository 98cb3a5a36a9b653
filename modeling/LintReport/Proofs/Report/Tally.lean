import LintReport.Proofs.Text.Utf8
import LintReport.Proofs.Report.Delivery

/-!
# What a report counts

The tally of a batch is a count over its records, so it adds up over batches that follow each
other and does not see their order (`Tally.ofRecords_append`, `Tally.ofRecords_perm`). Sorting
permutes, and rendering takes no part in counting; hence every reporter returns the same tally,
the last line of a table states it, and being quiet only decides whether the text is written
(`Reporter.deliver_counts`).
-/

namespace LintReport

namespace Tally

/-- The tally of the findings of some records. -/
def ofRecords (records : List Record) : Tally := ofFindings (records.map Record.finding)

/-- The order of findings does not count. -/
theorem ofFindings_perm {first second : List Finding} (same : first.Perm second) :
    ofFindings first = ofFindings second := by
  simp only [ofFindings, count, same.countP_eq, same.length_eq]

theorem ofRecords_perm {first second : List Record} (same : first.Perm second) :
    ofRecords first = ofRecords second :=
  ofFindings_perm (same.map Record.finding)

/-- Batches that follow each other are counted by adding up. -/
theorem ofRecords_append (first second : List Record) :
    ofRecords (first ++ second) =
      ⟨(ofRecords first).errors + (ofRecords second).errors,
        (ofRecords first).warnings + (ofRecords second).warnings,
        (ofRecords first).infos + (ofRecords second).infos,
        (ofRecords first).total + (ofRecords second).total⟩ := by
  simp only [ofRecords, ofFindings, count, List.map_append, List.countP_append,
    List.length_append]

/-- The findings of a severity are counted over the records. -/
theorem count_map_finding (severity : Severity) (records : List Record) :
    count severity (records.map Record.finding) =
      records.countP (·.finding.severity? = some severity) := by
  unfold count
  rw [List.countP_map]
  apply List.countP_congr
  intro record _
  simp only [Function.comp_apply, beq_iff_eq, decide_eq_true_eq]

/-- Every record counts for its severity or for having none. -/
theorem total_eq (records : List Record) :
    (ofRecords records).errors + (ofRecords records).warnings + (ofRecords records).infos +
        records.countP (·.finding.severity?.isNone) =
      (ofRecords records).total := by
  induction records with
  | nil => rfl
  | cons record records ih =>
      simp only [ofRecords, ofFindings, count_map_finding, List.length_map, List.countP_cons,
        List.length_cons] at ih ⊢
      cases found : record.finding.severity? with
      | none =>
          simp only [reduceCtorEq, decide_false, Bool.false_eq_true, ↓reduceIte,
            Option.isNone_none]
          omega
      | some severity =>
          cases severity <;>
            simp only [Option.some.injEq, reduceCtorEq, decide_true, decide_false,
              Bool.false_eq_true, ↓reduceIte, Option.isNone_some] <;>
            omega

/-- The three numbers make up the total when every finding has a severity that is known. -/
theorem sum_eq_total_iff (records : List Record) :
    (ofRecords records).errors + (ofRecords records).warnings + (ofRecords records).infos =
        (ofRecords records).total ↔
      ∀ record ∈ records, ∃ severity, record.finding.severity? = some severity := by
  have unknown : records.countP (·.finding.severity?.isNone) = 0 ↔
      ∀ record ∈ records, ∃ severity, record.finding.severity? = some severity := by
    simp only [List.countP_eq_zero, Option.isNone_iff_eq_none, ← ne_eq,
      Option.ne_none_iff_exists']
  rw [← unknown, ← total_eq records]
  omega

/-- The line that sums a batch up states the numbers of errors and warnings. -/
theorem eq_of_text_eq {first second : Tally} (same : first.text = second.text) :
    first.errors = second.errors ∧ first.warnings = second.warnings := by
  unfold text at same
  simp only [List.append_assoc] at same
  obtain ⟨errors, more⟩ := Decimal.digits_append_inj (c := ' ') rfl same
  have behind : Decimal.digits first.warnings ++ ' ' :: "warning(s)".toList =
      Decimal.digits second.warnings ++ ' ' :: "warning(s)".toList :=
    List.append_cancel_left (List.cons.inj more).2
  obtain ⟨warnings, _⟩ := Decimal.digits_append_inj (c := ' ') rfl behind
  exact ⟨errors, warnings⟩

/-- The summary is one line. -/
theorem newline_not_mem_text (tally : Tally) : '\n' ∉ tally.text := by
  have plain := Decimal.not_mem_digits (c := '\n') rfl
  unfold text
  simp only [List.mem_append, not_or]
  exact ⟨⟨⟨plain _, by decide⟩, plain _⟩, by decide⟩

end Tally

/-- **The last line of a table states the tally,** whatever stands in the rows above it. -/
theorem Renderer.splitOn_write_footer (findings : List Finding) :
    ∃ above, ((Renderer.terminal true).write findings).splitOn '\n' =
      above ++ [(Tally.ofFindings findings).text, []] := by
  have last : ((Tally.ofFindings findings).text ++ ['\n']).splitOn '\n' =
      [(Tally.ofFindings findings).text, []] := by
    rw [List.splitOn_append_cons_self_of_not_mem (Tally.newline_not_mem_text _), List.splitOn_nil]
  unfold write footerLines
  cases findings with
  | nil => exact ⟨[], last⟩
  | cons finding findings =>
      refine ⟨(table (finding :: findings)).splitOn '\n', ?_⟩
      rw [← last, ← List.splitOn_append_cons_self]
      rfl

/-- Only a batch without findings may have an empty text. -/
theorem Renderer.write_ne_nil (renderer : Renderer) {findings : List Finding}
    (filled : findings ≠ []) : renderer.write findings ≠ [] := by
  cases renderer with
  | json => exact List.append_ne_nil_of_right_ne_nil _ (List.cons_ne_nil _ _)
  | terminal footer =>
      obtain ⟨finding, more, rfl⟩ := List.exists_cons_of_ne_nil filled
      unfold write table row
      exact List.append_ne_nil_of_left_ne_nil (List.cons_ne_nil _ _) _

namespace Reporter

/-- The same reporter, quiet or not. -/
def withQuiet (reporter : Reporter) (quiet : Bool) : Reporter :=
  { reporter with options := { reporter.options with quiet } }

/-- Sorting does not change the summary. -/
theorem tally_collect (reporter : Reporter) (records : List Record) :
    Tally.ofFindings (reporter.collect records) = Tally.ofRecords records :=
  Tally.ofFindings_perm (reporter.collect_perm records)

/-- A quiet reporter passes over a batch without errors and warnings. -/
theorem passesOver_iff {reporter : Reporter} {records : List Record} :
    reporter.PassesOver records ↔ reporter.options.quiet = true ∧
      (Tally.ofRecords records).errors = 0 ∧ (Tally.ofRecords records).warnings = 0 := by
  rw [← suppresses_iff, tally_collect]
  simp only [suppresses, Tally.hasProblems, Bool.and_eq_true, Bool.not_eq_true',
    Bool.or_eq_false_iff, decide_eq_false_iff_not, Nat.not_lt, Nat.le_zero]

/-- A batch with records is never rendered as nothing. -/
theorem render_ne_empty (reporter : Reporter) {records : List Record} (filled : records ≠ []) :
    reporter.render records ≠ "" := by
  have collected : reporter.collect records ≠ [] := by
    intro none
    have length := (reporter.collect_perm records).length_eq
    rw [none, List.length_map] at length
    exact filled (List.length_eq_zero_iff.mp length.symm)
  intro empty
  apply reporter.renderer.write_ne_nil collected
  rw [← String.toList_ofList (l := reporter.renderer.write _)]
  exact congrArg String.toList empty

/-- What a quiet reporter writes, next to what the same reporter writes when it is loud. -/
theorem deliver_withQuiet (reporter : Reporter) (records : List Record) {sink : Sink}
    (takes : sink.TakesAll) :
    let tally := Tally.ofRecords records
    let quiet := (reporter.withQuiet true).deliver records sink
    let loud := (reporter.withQuiet false).deliver records sink
    (quiet.sink = sink ↔ tally.errors = 0 ∧ tally.warnings = 0) ∧
    (quiet.sink.data = sink.data ↔ tally.errors = 0 ∧ tally.warnings = 0) ∧
    (¬ (tally.errors = 0 ∧ tally.warnings = 0) → quiet.sink = loud.sink ∧
      loud.sink.data = sink.data ++ utf8Bytes (reporter.render records)) := by
  intro tally quiet loud
  -- A text that is written is never empty here, so the bytes tell whether something was written.
  have passes : (reporter.withQuiet true).PassesOver records ↔
      tally.errors = 0 ∧ tally.warnings = 0 := by
    rw [passesOver_iff]
    exact and_iff_right rfl
  have reports : ¬ (reporter.withQuiet false).PassesOver records := by
    rintro ⟨⟨⟩, _⟩
  by_cases clean : tally.errors = 0 ∧ tally.warnings = 0
  · have same : quiet.sink = sink := (deliver_of_passesOver (passes.mpr clean) sink).1
    exact ⟨iff_of_true same clean, iff_of_true (congrArg Sink.data same) clean,
      fun other => absurd clean other⟩
  · have writes : ¬ (reporter.withQuiet true).PassesOver records :=
      fun silent => clean (passes.mp silent)
    have grows : quiet.sink.data = sink.data ++ utf8Bytes (reporter.render records) :=
      (deliver_of_takesAll _ records takes).2 writes
    have alike : quiet.sink = loud.sink := by
      rw [(deliver_of_not_passesOver writes sink).1, (deliver_of_not_passesOver reports sink).1]
      rfl
    have filled : records ≠ [] := by
      rintro rfl
      exact clean ⟨rfl, rfl⟩
    have changed : quiet.sink.data ≠ sink.data := by
      rw [grows, ne_eq, List.append_right_eq_self, utf8Bytes_eq_nil]
      exact reporter.render_ne_empty filled
    refine ⟨iff_of_false (fun same => changed (congrArg Sink.data same)) clean,
      iff_of_false changed clean, fun _ => ⟨alike, ?_⟩⟩
    rw [← alike, grows]

/-- **Counting does not depend on presentation.** Every reporter returns the same tally of a
batch, which counts its records by severity; the counts by severity fall short of the total by the
records without one. Tallies add up over batches that follow each other, and the order of the
records does not count. A table ends with a line that states the errors and warnings. A quiet
reporter leaves the sink alone when there are neither, and writes what a loud one does
otherwise. -/
theorem deliver_counts (records : List Record) :
    let tally := Tally.ofRecords records
    (∀ (reporter : Reporter) (sink : Sink), sink.TakesAll →
      (reporter.deliver records sink).result = .ok tally) ∧
    tally.errors = records.countP (·.finding.severity? = some .error) ∧
    tally.warnings = records.countP (·.finding.severity? = some .warning) ∧
    tally.infos = records.countP (·.finding.severity? = some .info) ∧
    tally.total = records.length ∧
    tally.errors + tally.warnings + tally.infos ≤ tally.total ∧
    (tally.errors + tally.warnings + tally.infos = tally.total ↔
      ∀ record ∈ records, ∃ severity, record.finding.severity? = some severity) ∧
    (∀ more : List Record, Tally.ofRecords (records ++ more) =
      ⟨tally.errors + (Tally.ofRecords more).errors,
        tally.warnings + (Tally.ofRecords more).warnings,
        tally.infos + (Tally.ofRecords more).infos, tally.total + (Tally.ofRecords more).total⟩) ∧
    (∀ others : List Record, others.Perm records → Tally.ofRecords others = tally) ∧
    (∀ reporter : Reporter, reporter.renderer = .terminal true → ∃ above,
      (reporter.render records).toList.splitOn '\n' = above ++ [tally.text, []]) ∧
    (∀ other : Tally, other.text = tally.text →
      other.errors = tally.errors ∧ other.warnings = tally.warnings) ∧
    ∀ (reporter : Reporter) (sink : Sink), sink.TakesAll →
      let quiet := (reporter.withQuiet true).deliver records sink
      let loud := (reporter.withQuiet false).deliver records sink
      (quiet.sink = sink ↔ tally.errors = 0 ∧ tally.warnings = 0) ∧
      (quiet.sink.data = sink.data ↔ tally.errors = 0 ∧ tally.warnings = 0) ∧
      (¬ (tally.errors = 0 ∧ tally.warnings = 0) → quiet.sink = loud.sink ∧
        loud.sink.data = sink.data ++ utf8Bytes (reporter.render records)) := by
  intro tally
  have result (reporter : Reporter) (sink : Sink) (takes : sink.TakesAll) :
      (reporter.deliver records sink).result = .ok tally := by
    rw [(reporter.deliver_of_takesAll records takes).1, tally_collect]
  have atMost : tally.errors + tally.warnings + tally.infos ≤ tally.total := by
    rw [← Tally.total_eq records]
    exact Nat.le_add_right _ _
  have footer (reporter : Reporter) (table : reporter.renderer = .terminal true) : ∃ above,
      (reporter.render records).toList.splitOn '\n' = above ++ [tally.text, []] := by
    rw [render, table, Renderer.render, String.toList_ofList]
    have splits := Renderer.splitOn_write_footer (reporter.collect records)
    rw [tally_collect] at splits
    exact splits
  exact ⟨result, Tally.count_map_finding .error records, Tally.count_map_finding .warning records,
    Tally.count_map_finding .info records, List.length_map _, atMost,
    Tally.sum_eq_total_iff records, Tally.ofRecords_append records,
    fun _ permuted => Tally.ofRecords_perm permuted, footer, fun _ => Tally.eq_of_text_eq,
    fun reporter _ takes => reporter.deliver_withQuiet records takes⟩

/-- An error, a finding without a severity and a piece of information, as a table for a quiet
reporter and as JSON, in two orders and for two sinks. -/
theorem deliver_counts_mixed :
    let records : List Record := [
      .ofFinding ((Finding.atPosition 9 0).attach "code" (.string "E7")),
      .ofFinding (.atPosition 1 0),
      .ofFinding ((Finding.atPosition 5 2).attach "severity" (.string "Info"))]
    let slow : Sink := ⟨[10], some 1, none, .closed, 2, false, 0, 0⟩
    let table : Reporter := .ofOptions ⟨true, true, .text⟩
    let json : Reporter := .ofOptions ⟨false, false, .json⟩
    slow.TakesAll ∧ Sink.unbounded.TakesAll ∧ records.reverse.Perm records ∧
    (table.deliver records slow).result = .ok ⟨1, 0, 1, 3⟩ ∧
    (json.deliver records.reverse Sink.unbounded).result = .ok ⟨1, 0, 1, 3⟩ ∧
    (table.deliver records slow).sink.data = 10 :: utf8Bytes (table.render records) ∧
    ∃ above, (table.render records).toList.splitOn '\n' =
      above ++ ["1 error(s), 0 warning(s)".toList, []] := by
  intro records slow table json
  have tally : Tally.ofRecords records = ⟨1, 0, 1, 3⟩ := by decide +kernel
  have slowTakes : slow.TakesAll := ⟨by decide, rfl, rfl⟩
  have unboundedTakes : Sink.unbounded.TakesAll := ⟨by decide, rfl, rfl⟩
  have permuted : records.reverse.Perm records := records.reverse_perm
  obtain ⟨result, _, _, _, _, _, _, _, order, footer, _, writes⟩ := deliver_counts records
  obtain ⟨other, _⟩ := deliver_counts records.reverse
  rw [order _ permuted] at other
  rw [tally] at result other footer writes
  obtain ⟨_, _, loud⟩ := writes table slow slowTakes
  obtain ⟨same, whole⟩ := loud (by decide)
  refine ⟨slowTakes, unboundedTakes, permuted, result table slow slowTakes,
    other json .unbounded unboundedTakes, ?_, footer table rfl⟩
  exact (congrArg Sink.data same).trans whole

end Reporter

end LintReport
