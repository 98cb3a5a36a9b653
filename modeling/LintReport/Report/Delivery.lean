import LintReport.Text.Utf8
import LintReport.Report.Order
import LintReport.Report.Format
import LintReport.Report.Sink

/-!
# Reports

A reporter takes the findings out of a batch of records, puts them in order, renders them, and
writes the text to a sink. A quiet reporter writes nothing about a batch without errors and
warnings.
-/

namespace LintReport

/-- What a report is to look like: whether findings are put in order, whether batches without
problems are passed over, and the format. -/
structure Options where
  sort : Bool
  quiet : Bool
  format : Format
  deriving DecidableEq, Repr

/-- Sorted JSON, of every batch. -/
def Options.default : Options := ⟨true, false, .json⟩

/-- Options, and the renderer that turns findings into text. -/
structure Reporter where
  options : Options
  renderer : Renderer
  deriving DecidableEq, Repr

/-- A report that is ready to be written: its findings, and their text unless it is suppressed. -/
structure Prepared where
  findings : List Finding
  text? : Option String

/-- How writing a report ended: the tally or the error, what became of the outlet, and the
events. -/
structure Delivery (σ : Type) where
  result : Except ReportError Tally
  sink : σ
  events : List Event

namespace Reporter

/-- The reporter with the renderer of its format. -/
def ofOptions (options : Options) : Reporter := ⟨options, options.format.renderer⟩

/-- The findings of a batch, sorted if the options say so. -/
def collect (reporter : Reporter) (records : List Record) : List Finding :=
  let findings := records.map Record.finding
  if reporter.options.sort then Finding.sort findings else findings

/-- What is noted when findings are collected. -/
def collectEvent (reporter : Reporter) (findings : List Finding) : Event :=
  ⟨.debug, .reporting, "collected diagnostics",
    [("count", toString findings.length), ("sorted", toString reporter.options.sort)]⟩

/-- The text of a batch. -/
def render (reporter : Reporter) (records : List Record) : String :=
  reporter.renderer.render (reporter.collect records)

/-- Whether nothing is to be written about a batch. -/
def suppresses (reporter : Reporter) (tally : Tally) : Bool :=
  reporter.options.quiet && !tally.hasProblems

/-- The report of a batch. -/
def prepare (reporter : Reporter) (records : List Record) : Prepared :=
  let findings := reporter.collect records
  if reporter.suppresses (Tally.ofFindings findings) then ⟨findings, none⟩
  else ⟨findings, some (reporter.renderer.render findings)⟩

end Reporter

namespace Prepared

/-- The tally of the findings. -/
def tally (prepared : Prepared) : Tally := Tally.ofFindings prepared.findings

/-- What is noted before anything is written. -/
def events (prepared : Prepared) (reporter : Reporter) : List Event :=
  reporter.collectEvent prepared.findings ::
    if prepared.text?.isNone then
      [⟨.debug, .reporting, "quiet mode, nothing to report",
        [("total", toString prepared.tally.total)]⟩]
    else []

/-- What is noted when a text has been written. -/
def writtenEvent (text : String) : Event :=
  ⟨.trace, .reporting, "report written", [("bytes", toString text.utf8ByteSize)]⟩

end Prepared

/-- Writes the report of a batch to an outlet. -/
def Reporter.deliver {σ : Type} [Outlet σ] (reporter : Reporter) (records : List Record)
    (sink : σ) : Delivery σ :=
  let prepared := reporter.prepare records
  let events := prepared.events reporter
  match prepared.text? with
  | none => ⟨.ok prepared.tally, sink, events⟩
  | some text =>
    match Outlet.deliver sink (utf8Bytes text) with
    | (.error error, sink) => ⟨.error (.output error), sink, events⟩
    | (.ok (), sink) => ⟨.ok prepared.tally, sink, events ++ [Prepared.writtenEvent text]⟩

end LintReport
