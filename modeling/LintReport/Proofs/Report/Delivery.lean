import LintReport.Report.Delivery
import LintReport.Proofs.Report.Order
import LintReport.Proofs.Report.Sink

/-!
# Delivering a report

A report that is not passed over reaches the sink as far as the sink takes it, byte for byte from
the beginning of its text. The result says whether all of it did and the sink was flushed, and it
is noted that a report has been written exactly then (`Reporter.deliver_accounts`).
-/

namespace LintReport

namespace Sink

/-- A sink is flushed once after it has taken all bytes, and not at all otherwise. -/
theorem deliver_outcome (sink : Sink) (bytes : List UInt8) :
    (Outlet.deliver sink bytes).2.data = sink.data ++ bytes.take (sink.share bytes.length) ∧
    (Outlet.deliver sink bytes).2.flushes =
      sink.flushes + (if sink.share bytes.length = bytes.length then 1 else 0) ∧
    ((Outlet.deliver sink bytes).1 = .ok () ↔
      sink.share bytes.length = bytes.length ∧ sink.failsFlush = false) := by
  obtain ⟨data, alike, succeeds⟩ := sink.writeAll_outcome bytes
  unfold Outlet.deliver
  split
  · next error after writes =>
      rw [writes] at data alike succeeds
      have part : sink.share bytes.length ≠ bytes.length := by
        intro whole
        cases succeeds.mpr whole
      refine ⟨data, ?_, ?_⟩
      · rw [if_neg part, Nat.add_zero]
        exact alike.flushes
      · exact iff_of_false (by rintro ⟨⟩) fun whole => part whole.1
  · next after writes =>
      rw [writes] at data alike succeeds
      have whole : sink.share bytes.length = bytes.length := succeeds.mp rfl
      refine ⟨data, ?_, ?_⟩
      · rw [if_pos whole]
        exact congrArg (· + 1) alike.flushes
      · have settings : after.failsFlush = sink.failsFlush := alike.failsFlush
        simp only [outlet_flush, flush, settings, whole, true_and]
        cases sink.failsFlush <;> simp

/-- What takes everything takes every text whole. -/
theorem TakesAll.deliver {sink : Sink} (takes : sink.TakesAll) (bytes : List UInt8) :
    (Outlet.deliver sink bytes).1 = .ok () ∧
    (Outlet.deliver sink bytes).2.data = sink.data ++ bytes := by
  obtain ⟨data, _, succeeds⟩ := sink.deliver_outcome bytes
  have whole := takes.share_eq bytes.length
  refine ⟨succeeds.mpr ⟨whole, takes.flushes⟩, ?_⟩
  rw [data, whole, List.take_length]

end Sink

/-- What a delivery notes about a report that has been written. -/
def Delivery.noted {σ : Type} (delivery : Delivery σ) : List Event :=
  delivery.events.filter (·.message = "report written")

namespace Reporter

section

variable {σ : Type} [Outlet σ]

/-- What a reporter writes depends on the collected findings only. -/
theorem deliver_congr {reporter : Reporter} {records others : List Record}
    (same : reporter.collect others = reporter.collect records) (sink : σ) :
    reporter.deliver others sink = reporter.deliver records sink := by
  unfold deliver prepare
  rw [same]

/-- Nothing is to be written about a batch: the reporter is quiet, and no finding is an error or a
warning. -/
def PassesOver (reporter : Reporter) (records : List Record) : Prop :=
  reporter.options.quiet = true ∧ ∀ record ∈ records,
    record.finding.severity? ≠ some .error ∧ record.finding.severity? ≠ some .warning

/-- The reporter is silent about exactly the batches that it passes over. -/
theorem suppresses_iff {reporter : Reporter} {records : List Record} :
    reporter.suppresses (Tally.ofFindings (reporter.collect records)) = true ↔
      reporter.PassesOver records := by
  have counts (severity : Severity) : Tally.count severity (reporter.collect records) = 0 ↔
      ∀ record ∈ records, record.finding.severity? ≠ some severity := by
    unfold Tally.count
    rw [(reporter.collect_perm records).countP_eq, List.countP_eq_zero, List.forall_mem_map]
    simp only [beq_iff_eq, ne_eq]
  have errors : (Tally.ofFindings (reporter.collect records)).errors = 0 ↔ _ := counts .error
  have warnings : (Tally.ofFindings (reporter.collect records)).warnings = 0 ↔ _ :=
    counts .warning
  simp only [suppresses, Tally.hasProblems, PassesOver, Bool.and_eq_true, Bool.not_eq_true',
    Bool.or_eq_false_iff, decide_eq_false_iff_not, Nat.not_lt, Nat.le_zero, errors, warnings,
    forall_and]

/-- A batch that is passed over leaves the sink alone. -/
theorem deliver_of_passesOver {reporter : Reporter} {records : List Record}
    (passes : reporter.PassesOver records) (sink : σ) :
    (reporter.deliver records sink).sink = sink ∧
    (reporter.deliver records sink).result = .ok (Tally.ofFindings (reporter.collect records)) ∧
    (reporter.deliver records sink).noted = [] := by
  have suppressed := suppresses_iff.mpr passes
  simp only [deliver, prepare, suppressed, ↓reduceIte, Prepared.tally, Prepared.events,
    Delivery.noted, true_and]
  rfl

/-- Any other batch is rendered, and its text is written. -/
theorem deliver_of_not_passesOver {reporter : Reporter} {records : List Record}
    (reports : ¬ reporter.PassesOver records) (sink : σ) :
    let bytes := utf8Bytes (reporter.render records)
    let delivery := reporter.deliver records sink
    delivery.sink = (Outlet.deliver sink bytes).2 ∧
    (delivery.result = match (Outlet.deliver sink bytes).1 with
      | .error error => .error (.output error)
      | .ok () => .ok (Tally.ofFindings (reporter.collect records))) ∧
    delivery.noted = match (Outlet.deliver sink bytes).1 with
      | .error _ => []
      | .ok () => [⟨.trace, .reporting, "report written", [("bytes", toString bytes.length)]⟩] := by
  have writes : reporter.suppresses (Tally.ofFindings (reporter.collect records)) = false :=
    Bool.eq_false_iff.mpr fun suppressed => reports (suppresses_iff.mp suppressed)
  simp only [deliver, prepare, writes, Bool.false_eq_true, ↓reduceIte, Prepared.tally,
    Prepared.events, render, Delivery.noted]
  cases Outlet.deliver sink (utf8Bytes (reporter.renderer.render (reporter.collect records))) with
  | mk result after =>
      cases result with
      | error error => exact ⟨rfl, rfl, rfl⟩
      | ok given => exact ⟨rfl, rfl, rfl⟩

end

/-- A sink that takes everything gets the whole text, and the delivery succeeds. -/
theorem deliver_of_takesAll (reporter : Reporter) (records : List Record) {sink : Sink}
    (takes : sink.TakesAll) :
    (reporter.deliver records sink).result =
      .ok (Tally.ofFindings (reporter.collect records)) ∧
    (¬ reporter.PassesOver records →
      (reporter.deliver records sink).sink.data =
        sink.data ++ utf8Bytes (reporter.render records)) := by
  obtain ⟨succeeds, whole⟩ := takes.deliver (utf8Bytes (reporter.render records))
  by_cases passes : reporter.PassesOver records
  · obtain ⟨_, result, _⟩ := deliver_of_passesOver passes sink
    exact ⟨result, fun reports => absurd passes reports⟩
  · obtain ⟨reaches, result, _⟩ := deliver_of_not_passesOver passes sink
    rw [succeeds] at result
    refine ⟨result, fun _ => ?_⟩
    rw [reaches, whole]

/-- **A delivery tells the truth about the sink.** A batch that is passed over leaves the sink as
it was. Of any other batch the sink takes the text from its beginning, all of it when it takes
something at a time and has room for all. The delivery succeeds when the sink has taken all and
was flushed, and fails with an error of the sink otherwise; the sink is flushed once when it has
taken all and never else, and the number of bytes is noted when the delivery succeeds. -/
theorem deliver_accounts (reporter : Reporter) (records : List Record) (sink : Sink) :
    let text := utf8Bytes (reporter.render records)
    let tally := Tally.ofFindings (reporter.collect records)
    let delivery := reporter.deliver records sink
    (reporter.PassesOver records →
      delivery.sink = sink ∧ delivery.result = .ok tally ∧ delivery.noted = []) ∧
    (¬ reporter.PassesOver records → ∃ taken, taken <+: text ∧
      taken.length = sink.share text.length ∧ delivery.sink.data = sink.data ++ taken ∧
      (taken = text ↔ text = [] ∨ sink.chunk ≠ some 0 ∧
        ∀ limit, sink.limit = some limit → sink.data.length + text.length ≤ limit) ∧
      (delivery.result = .ok tally ↔ taken = text ∧ sink.failsFlush = false) ∧
      (delivery.result ≠ .ok tally → ∃ error, delivery.result = .error (.output error)) ∧
      delivery.sink.flushes = sink.flushes + (if taken = text then 1 else 0) ∧
      delivery.noted = if taken = text ∧ sink.failsFlush = false then
        [⟨.trace, .reporting, "report written", [("bytes", toString taken.length)]⟩] else []) := by
  intro text tally delivery
  refine ⟨fun passes => deliver_of_passesOver passes sink, fun reports => ?_⟩
  obtain ⟨reaches, ends, notes⟩ := deliver_of_not_passesOver reports sink
  obtain ⟨data, flushes, succeeds⟩ := sink.deliver_outcome text
  have size : (text.take (sink.share text.length)).length = sink.share text.length := by
    rw [List.length_take, Nat.min_eq_left (sink.share_le _)]
  have whole : text.take (sink.share text.length) = text ↔
      sink.share text.length = text.length := by
    constructor
    · intro same
      rw [← size, same]
    · intro all
      rw [all, List.take_length]
  rw [← whole] at succeeds
  refine ⟨text.take (sink.share text.length), List.take_prefix _ text, size, ?_, ?_, ?_⟩
  · exact (congrArg Sink.data reaches).trans data
  · rw [whole, Sink.share_eq_iff, List.length_eq_zero_iff]
  have flushed : delivery.sink.flushes = sink.flushes +
      (if text.take (sink.share text.length) = text then 1 else 0) := by
    simp only [whole]
    exact (congrArg Sink.flushes reaches).trans flushes
  cases written : (Outlet.deliver sink text).1 with
  | error error =>
      rw [written] at ends notes succeeds
      have fails : ¬ (text.take (sink.share text.length) = text ∧ sink.failsFlush = false) := by
        intro all
        cases succeeds.mpr all
      refine ⟨iff_of_false ?_ fails, fun _ => ⟨error, ends⟩, flushed, ?_⟩
      · rw [ends]
        rintro ⟨⟩
      · rw [notes, if_neg fails]
  | ok given =>
      rw [written] at ends notes succeeds
      have all := succeeds.mp rfl
      refine ⟨iff_of_true ends all, fun other => (other ends).elim, flushed, ?_⟩
      rw [notes, if_pos all, all.1]

/-- A report that does not fit is written as far as it does, after two interruptions and in two
pieces; a quiet reporter passes over a batch without problems. -/
theorem deliver_accounts_part :
    let sink : Sink := ⟨[10], some 4, some 8, .noSpace, 2, false, 0, 0⟩
    let records : List Record := [.ofFinding (.atPosition 1 0)]
    let reporter : Reporter := .ofOptions .default
    let quiet : Reporter := .ofOptions ⟨true, true, .text⟩
    ¬ reporter.PassesOver records ∧ quiet.PassesOver records ∧
    (reporter.deliver records sink).sink.data = 10 :: utf8Bytes "[\x7b\"line" ∧
    (reporter.deliver records sink).sink.flushes = 0 ∧
    (∃ error, (reporter.deliver records sink).result = .error (.output error)) ∧
    (quiet.deliver records sink).sink = sink := by
  intro sink records reporter quiet
  have loud : ¬ reporter.PassesOver records := by
    rintro ⟨⟨⟩, _⟩
  have silent : quiet.PassesOver records :=
    ⟨rfl, List.forall_mem_singleton.mpr ⟨by decide, by decide⟩⟩
  have text : reporter.render records = "[\x7b\"line\":1,\"character\":0\x7d]\n" := by
    decide +kernel
  obtain ⟨taken, starts, share, data, whole, succeeds, fails, flushes, _⟩ :=
    (deliver_accounts reporter records sink).2 loud
  obtain ⟨same, _, _⟩ := (deliver_accounts quiet records sink).1 silent
  have piece : taken = utf8Bytes "[\x7b\"line" := by
    rw [List.prefix_iff_eq_take.mp starts, share, text]
    decide
  have part : taken ≠ utf8Bytes (reporter.render records) := by
    rw [piece, text]
    decide
  refine ⟨loud, silent, ?_, ?_, fails fun whole => part (succeeds.mp whole).1, same⟩
  · rw [data, piece]
    rfl
  · rw [flushes, if_neg part]

end Reporter

end LintReport
