import Mathlib
import LintReport.Proofs.Steps
import LintReport.Proofs.Report.Tally
import LintReport.Proofs.Command.Run
import LintReport.Proofs.Command.Shortened

/-!
# The report as a command

A report needs its settings, its input and the records in it, in this order, and fails with the
first that there is not (`World.batchFor`). None of them depends on how the report is to look, so
flags and the format decide what is written but not how the run ends; the log decides nothing
(`Command.run_report`).
-/

namespace LintReport

open Command

/-- How the settings want reports to look, and the records to report. -/
def World.batchFor (world : World) (globals : Globals) (request : ReportRequest) :
    Except Failure (ReportSettings × List Record) := do
  let loaded ← world.settingsFor globals
  let text ← (world.readText (sourceOf request)).mapError Failure.input
  let records ← (readBatch text).mapError Failure.report
  return (loaded.settings.report, records)

namespace Command

variable {world : World} {globals : Globals} {request : ReportRequest} {wording : Toml.Wording}

/-- Of writing a report one sees what the standard output took. -/
theorem seen_writeReport (world : World) (reporter : Reporter) (records : List Record) :
    (world.answer (writeReport reporter records)).seen =
      ((reporter.deliver records world.output).result.mapError Failure.report,
        (reporter.deliver records world.output).sink, []) := by
  unfold writeReport Reporter.deliver
  simp only
  rw [World.seen_noteAll]
  cases (reporter.prepare records).text? with
  | none => rfl
  | some text =>
      simp only
      rw [World.seen_printText]
      cases Outlet.deliver world.output (utf8Bytes text) with
      | mk written after =>
          cases written with
          | error error => rfl
          | ok given => rfl

/-- The exit code counts the errors of the batch. -/
theorem codeOf_ofRecords (records : List Record) :
    codeOf (Tally.ofRecords records) =
      if ∃ record ∈ records, record.finding.severity? = some .error then 1 else 0 := by
  have counts : 0 < (Tally.ofRecords records).errors ↔
      ∃ record ∈ records, record.finding.severity? = some .error := by
    have errors : (Tally.ofRecords records).errors = _ := Tally.count_map_finding .error records
    rw [errors, List.countP_pos_iff]
    simp only [decide_eq_true_eq]
  simp only [codeOf, Tally.hasErrors, decide_eq_true_eq, counts]

/-- Of reporting a text one sees its report, or that it cannot be read. -/
theorem seen_reportText (takes : world.output.TakesAll) (options : Options) (text : String) :
    (world.answer (reportText options text)).seen =
      match readBatch text with
      | .error error => (.error (.report error), world.output, [])
      | .ok records =>
        (.ok (codeOf (Tally.ofRecords records)),
          ((Reporter.ofOptions options).deliver records world.output).sink, []) := by
  unfold reportText
  cases readBatch text with
  | error error => rfl
  | ok records =>
      have written := seen_writeReport world (.ofOptions options) records
      rw [(Reporter.deliver_of_takesAll _ records takes).1, Reporter.tally_collect] at written
      simp only
      rw [World.seen_andThen _ _ world written]
      rfl

/-- What is seen of the command that reports. -/
theorem seen_runReport (takes : world.output.TakesAll) (globals : Globals)
    (request : ReportRequest) :
    (world.answer (runReport request globals)).seen =
      match world.batchFor globals request with
      | .error failure => (.error failure, world.output, [])
      | .ok (settings, records) =>
        (.ok (codeOf (Tally.ofRecords records)),
          ((Reporter.ofOptions (optionsOf settings request globals)).deliver records
            world.output).sink, []) := by
  unfold runReport World.batchFor
  rw [World.seen_bind (silent_loadSettings globals), result_loadSettings]
  cases world.settingsFor globals with
  | error failure => rfl
  | ok loaded =>
      simp only
      rw [World.seen_bind (.askText _), World.result_askText]
      cases world.readText (sourceOf request) with
      | error error => rfl
      | ok text =>
          simp only
          rw [seen_reportText takes]
          simp only [Steps.ok_bind, Except.mapError]
          cases readBatch text with
          | error error => rfl
          | ok records => rfl

/-- What is seen of a command line that asks for a report. -/
theorem seen_report (takes : world.output.TakesAll) (setting : Option String)
    {arguments : List String} (accepted : read arguments = .ok ⟨globals, .report request⟩) :
    (world.answer (run setting arguments wording)).seen =
      match world.batchFor globals request with
      | .error failure => (1, world.output, ["error: " ++ failure.message wording ++ "\n"])
      | .ok (settings, records) =>
        (codeOf (Tally.ofRecords records),
          ((Reporter.ofOptions (optionsOf settings request globals)).deliver records
            world.output).sink, []) := by
  have performs : (world.answer (perform ⟨globals, .report request⟩)).seen = _ :=
    seen_runReport takes globals request
  rw [seen_run setting accepted]
  cases batch : world.batchFor globals request with
  | error failure =>
      rw [batch] at performs
      exact seen_execute performs
  | ok given =>
      rw [batch] at performs
      exact seen_execute performs

/-- The exit code depends on the batch. -/
theorem result_report (takes : world.output.TakesAll) (setting : Option String)
    {arguments : List String} (accepted : read arguments = .ok ⟨globals, .report request⟩) :
    (world.answer (run setting arguments wording)).result =
      match world.batchFor globals request with
      | .error _ => 1
      | .ok (_, records) => codeOf (Tally.ofRecords records) := by
  have result : (world.answer (run setting arguments wording)).result = _ :=
    congrArg Prod.fst (seen_report takes setting accepted)
  rw [result]
  cases world.batchFor globals request with
  | error failure => rfl
  | ok given => rfl

/-- Without a batch the run fails with the message of what is lacking. -/
theorem failed_of_batchFor (takes : world.output.TakesAll) (setting : Option String)
    {arguments : List String} (accepted : read arguments = .ok ⟨globals, .report request⟩)
    {failure : Failure} (batch : world.batchFor globals request = .error failure) :
    Failed world [] (failure.message wording) (world.answer (run setting arguments wording)) := by
  have performs : (world.answer (perform ⟨globals, .report request⟩)).seen = _ :=
    seen_runReport takes globals request
  rw [batch] at performs
  exact failed_of_seen setting accepted performs

/-- With a batch the run writes its report, and the exit code tells of errors. -/
theorem writes_of_batchFor (takes : world.output.TakesAll) (setting : Option String)
    {arguments : List String} (accepted : read arguments = .ok ⟨globals, .report request⟩)
    {configured : ReportSettings} {records : List Record}
    (batch : world.batchFor globals request = .ok (configured, records)) :
    let transcript := world.answer (run setting arguments wording)
    transcript.result =
      (if ∃ record ∈ records, record.finding.severity? = some .error then 1 else 0) ∧
    transcript.output = ((Reporter.ofOptions (optionsOf configured request globals)).deliver
      records world.output).sink ∧
    transcript.messages = [] := by
  intro transcript
  have seen : transcript.seen = _ := seen_report takes setting accepted
  rw [batch] at seen
  rw [← codeOf_ofRecords]
  exact Transcript.seen_eq.mp seen

section Same

variable {otherGlobals : Globals} {other : ReportRequest} {arguments otherArguments : List String}

/-- The batch depends on which settings file is given, and on what the input holds. -/
theorem batchFor_congr (config : otherGlobals.config = globals.config)
    (input : world.readText (sourceOf other) = world.readText (sourceOf request)) :
    world.batchFor otherGlobals other = world.batchFor globals request := by
  unfold World.batchFor World.settingsFor
  rw [config, input]

/-- All that is seen depends on the batch and on how the report is to look. -/
theorem seen_congr (takes : world.output.TakesAll) (setting otherSetting : Option String)
    (accepted : read arguments = .ok ⟨globals, .report request⟩)
    (otherAccepted : read otherArguments = .ok ⟨otherGlobals, .report other⟩)
    (same : world.batchFor otherGlobals other = world.batchFor globals request)
    (noSort : other.noSort = request.noSort) (format : other.format = request.format)
    (quiet : otherGlobals.quiet = globals.quiet) :
    (world.answer (run otherSetting otherArguments wording)).seen =
      (world.answer (run setting arguments wording)).seen := by
  rw [seen_report takes setting accepted, seen_report takes otherSetting otherAccepted, same]
  unfold optionsOf
  rw [noSort, format, quiet]

end Same

/-- It makes no difference whether the input stands in a file or is handed over. -/
theorem readText_handedOver {other : ReportRequest} {path : Path}
    (named : request.input = some path) (notDash : path.isDash = false)
    (held : world.readFile path = .ok world.input)
    (handed : ∀ otherPath, other.input = some otherPath → otherPath.isDash = true) :
    world.readText (sourceOf other) = world.readText (sourceOf request) := by
  have file : sourceOf request = .file path := by
    simp only [sourceOf, named, notDash, Bool.false_eq_true, ↓reduceIte]
  have input : sourceOf other = .input := by
    unfold sourceOf
    cases given : other.input with
    | none => rfl
    | some otherPath => exact if_pos (handed otherPath given)
  have reads : world.readText (.file path) = world.readText .input :=
    congrArg (Except.bind · decodeText) held
  rw [file, input, reads]

/-- Without settings there is no batch. -/
theorem batchFor_of_failure {failure : Failure}
    (lacks : world.settingsFor globals = .error failure) :
    world.batchFor globals request = .error failure := by
  unfold World.batchFor
  rw [lacks]
  rfl

/-- Without a text there is no batch. -/
theorem batchFor_of_streamError {loaded : Loaded} {error : StreamError}
    (loads : world.settingsFor globals = .ok loaded)
    (fails : world.readText (sourceOf request) = .error error) :
    world.batchFor globals request = .error (.input error) := by
  unfold World.batchFor
  rw [loads, fails]
  rfl

/-- With settings and a text the batch is what the text holds. -/
theorem batchFor_of_text {loaded : Loaded} {text : String}
    (loads : world.settingsFor globals = .ok loaded)
    (reads : world.readText (sourceOf request) = .ok text) :
    world.batchFor globals request =
      match readBatch text with
      | .error error => .error (.report error)
      | .ok records => .ok (loaded.settings.report, records) := by
  unfold World.batchFor
  rw [loads, reads]
  simp only [Steps.ok_bind, Except.mapError]
  cases readBatch text with
  | error error => rfl
  | ok records => rfl

/-- When there is no batch. -/
theorem batchFor_eq_error_iff :
    (∃ failure, world.batchFor globals request = .error failure) ↔
      (∃ failure, world.settingsFor globals = .error failure) ∨
      (∃ error, world.readText (sourceOf request) = .error error) ∨
      ∃ text error, world.readText (sourceOf request) = .ok text ∧
        readBatch text = .error error := by
  cases loads : world.settingsFor globals with
  | error failure =>
      exact iff_of_true ⟨failure, batchFor_of_failure loads⟩ (.inl ⟨failure, rfl⟩)
  | ok loaded =>
      cases reads : world.readText (sourceOf request) with
      | error error =>
          exact iff_of_true ⟨_, batchFor_of_streamError loads reads⟩ (.inr (.inl ⟨error, rfl⟩))
      | ok text =>
          rw [batchFor_of_text loads reads]
          cases parses : readBatch text with
          | error error => exact iff_of_true ⟨_, rfl⟩ (.inr (.inr ⟨text, error, rfl, parses⟩))
          | ok records =>
              refine iff_of_false ?_ ?_
              · rintro ⟨_, ⟨⟩⟩
              · rintro (⟨_, ⟨⟩⟩ | ⟨_, ⟨⟩⟩ | ⟨_, error, ⟨⟩, rejects⟩)
                rw [parses] at rejects
                cases rejects

/-- What only says how a report is to look and how much is told. -/
def presentation : List Item :=
  [.flag .quiet, .flag .verbose, .flag .noSort, .parameter .format]

/-- Command lines that differ in nothing else ask for a report of the same input with the same
settings file, and when they differ in verbosity only, for one that looks the same. -/
theorem alike_of_leavingOut {items : List Item} {arguments otherArguments : List String}
    {other : Invocation} (within : items ⊆ presentation)
    (accepted : read arguments = .ok ⟨globals, .report request⟩)
    (acceptedToo : read otherArguments = .ok other)
    (differ : otherArguments = leavingOut items arguments ∨
      leavingOut items otherArguments = leavingOut items arguments) :
    ∃ otherGlobals otherRequest, other = ⟨otherGlobals, .report otherRequest⟩ ∧
      otherGlobals.config = globals.config ∧ otherRequest.input = request.input ∧
      (items ⊆ [.flag .verbose] → otherRequest.noSort = request.noSort ∧
        otherRequest.format = request.format ∧ otherGlobals.quiet = globals.quiet) := by
  have kept {item : Item} (outside : item ∉ presentation) : item ∉ items :=
    fun member => outside (within member)
  have config : Item.parameter .config ∉ items := kept (by decide)
  have same := without_eq_of_leavingOut (kept (by decide)) accepted acceptedToo differ
  obtain ⟨otherGlobals, otherRequest | otherRequest⟩ := other
  · simp only [Invocation.without, Globals.without, Request.without, Invocation.mk.injEq,
      Globals.mk.injEq, Request.report.injEq, ReportRequest.mk.injEq, if_neg config] at same
    obtain ⟨⟨quiet, _, sameConfig⟩, input, noSort, format⟩ := same
    refine ⟨otherGlobals, otherRequest, rfl, sameConfig, input, fun verbosity => ?_⟩
    have stays {item : Item} (other : item ≠ .flag .verbose) : item ∉ items :=
      fun member => other (List.mem_singleton.mp (verbosity member))
    rw [if_neg (stays (by decide)), if_neg (stays (by decide))] at format
    simp only [stays (show Item.flag .quiet ≠ .flag .verbose by decide),
      stays (show Item.flag .noSort ≠ .flag .verbose by decide), not_false_eq_true, decide_true,
      Bool.and_true] at quiet noSort
    exact ⟨noSort, format, quiet⟩
  · cases congrArg Invocation.request same

/-- **The report as a command.** It fails when there are no settings, else when the input cannot be
read, else when the text is no batch, and says what the first of these failures is; what is said of
a settings file that breaks the grammar of documents is whatever the reader of documents says.
Otherwise it writes what a reporter with the settings and flags put together writes, and its exit
code is one when the batch holds an error. Flags and the format may be left out of the command line
or added to it, and the log filter may be another: the exit code stays the same, and as long as only
verbosity changes, so does all that is written. Altogether the exit code depends only on the
settings file that is given and on the input, and it makes no difference whether the input stands in
a file or is handed over. -/
theorem run_report (takes : world.output.TakesAll) (wording : Toml.Wording)
    (setting : Option String) {arguments : List String}
    (accepted : read arguments = .ok ⟨globals, .report request⟩) :
    let transcript := world.answer (run setting arguments wording)
    let settings := world.settingsFor globals
    let input := world.readText (sourceOf request)
    ((∃ message, Failed world [] message transcript) ↔
      (∃ failure, settings = .error failure) ∨ (∃ error, input = .error error) ∨
        ∃ text error, input = .ok text ∧ readBatch text = .error error) ∧
    (∀ failure, settings = .error failure →
      Failed world [] (failure.message wording) transcript) ∧
    (∀ loaded error, settings = .ok loaded → input = .error error →
      Failed world [] error.message transcript) ∧
    (∀ loaded text error, settings = .ok loaded → input = .ok text →
      readBatch text = .error error → Failed world [] error.message transcript) ∧
    (∀ loaded text records, settings = .ok loaded → input = .ok text →
      readBatch text = .ok records →
      let configured := loaded.settings.report
      let options : Options := ⟨configured.sort && !request.noSort,
        configured.quiet || globals.quiet, request.format.getD configured.format⟩
      transcript.result =
        (if ∃ record ∈ records, record.finding.severity? = some .error then 1 else 0) ∧
      transcript.output = ((Reporter.ofOptions options).deliver records world.output).sink ∧
      transcript.messages = []) ∧
    (∀ items ⊆ presentation,
      (∃ shorter, read (leavingOut items arguments) = .ok shorter) ∧
      ∀ otherSetting otherArguments otherInvocation,
        read otherArguments = .ok otherInvocation →
        otherArguments = leavingOut items arguments ∨
          leavingOut items otherArguments = leavingOut items arguments →
        let other := world.answer (run otherSetting otherArguments wording)
        other.result = transcript.result ∧ (items ⊆ [.flag .verbose] →
          other.output = transcript.output ∧ other.messages = transcript.messages)) ∧
    ∀ otherSetting otherArguments otherGlobals otherRequest,
      read otherArguments = .ok ⟨otherGlobals, .report otherRequest⟩ →
      otherGlobals.config = globals.config →
      let other := world.answer (run otherSetting otherArguments wording)
      let alike := otherRequest.noSort = request.noSort ∧
        otherRequest.format = request.format ∧ otherGlobals.quiet = globals.quiet
      let handedOver := ∃ path, request.input = some path ∧ path.isDash = false ∧
        world.readFile path = .ok world.input ∧
        ∀ otherPath, otherRequest.input = some otherPath → otherPath.isDash = true
      (otherRequest.input = request.input ∨ handedOver → other.result = transcript.result ∧
        (alike → other.output = transcript.output ∧ other.messages = transcript.messages)) := by
  intro transcript settings input
  have fails {failure : Failure} (batch : world.batchFor globals request = .error failure) :
      Failed world [] (failure.message wording) transcript :=
    failed_of_batchFor takes setting accepted batch
  -- Two command lines that lead to the same text have the same batch; what they do not share only
  -- shows in the options of the reporter.
  have compares {otherSetting : Option String} {otherArguments : List String}
      {otherGlobals : Globals} {otherRequest : ReportRequest}
      (otherAccepted : read otherArguments = .ok ⟨otherGlobals, .report otherRequest⟩)
      (config : otherGlobals.config = globals.config)
      (texts : world.readText (sourceOf otherRequest) = world.readText (sourceOf request)) :
      let other := world.answer (run otherSetting otherArguments wording)
      other.result = transcript.result ∧
        (otherRequest.noSort = request.noSort ∧ otherRequest.format = request.format ∧
          otherGlobals.quiet = globals.quiet →
          other.output = transcript.output ∧ other.messages = transcript.messages) := by
    intro other
    have same := batchFor_congr config texts
    have code : other.result = transcript.result := by
      have there : other.result = _ := result_report takes otherSetting otherAccepted
      rw [there, same]
      exact (result_report takes setting accepted).symm
    refine ⟨code, ?_⟩
    rintro ⟨noSort, format, quiet⟩
    have seenAlike : other.seen = transcript.seen := seen_congr takes setting otherSetting accepted
      otherAccepted same noSort format quiet
    exact (Transcript.seen_inj.mp seenAlike).2
  refine ⟨⟨?_, ?_⟩, ?_, ?_, ?_, ?_, ?_, ?_⟩
  · rintro ⟨message, failed⟩
    apply batchFor_eq_error_iff.mp
    cases batch : world.batchFor globals request with
    | error failure => exact ⟨failure, rfl⟩
    | ok given =>
        have nothing : transcript.messages = [] :=
          (writes_of_batchFor takes setting accepted batch).2.2
        cases nothing.symm.trans failed.messages
  · intro lacking
    obtain ⟨failure, batch⟩ := batchFor_eq_error_iff.mpr lacking
    exact ⟨failure.message wording, fails batch⟩
  · intro failure lacks
    exact fails (batchFor_of_failure lacks)
  · intro loaded error loads breaks
    exact fails (batchFor_of_streamError loads breaks)
  · intro loaded text error loads reads rejects
    have batch := batchFor_of_text loads reads
    rw [rejects] at batch
    exact fails batch
  · intro loaded text records loads reads accepts
    have batch := batchFor_of_text loads reads
    rw [accepts] at batch
    exact writes_of_batchFor takes setting accepted batch
  · intro items within
    have input : Item.parameter .input ∉ items := fun member =>
      absurd (within member) (by decide)
    refine ⟨⟨_, read_leavingOut input accepted⟩, ?_⟩
    intro otherSetting otherArguments otherInvocation otherAccepted differ
    obtain ⟨otherGlobals, otherRequest, rfl, config, named, looks⟩ :=
      alike_of_leavingOut within accepted otherAccepted differ
    have texts : world.readText (sourceOf otherRequest) = world.readText (sourceOf request) := by
      unfold sourceOf
      rw [named]
    obtain ⟨code, alike⟩ := compares otherAccepted config texts
    exact ⟨code, fun verbosity => alike (looks verbosity)⟩
  · intro otherSetting otherArguments otherGlobals otherRequest otherAccepted config other alike
      handedOver source
    have texts : world.readText (sourceOf otherRequest) = world.readText (sourceOf request) := by
      rcases source with same | ⟨path, named, notDash, held, handed⟩
      · unfold sourceOf
        rw [same]
      · exact readText_handedOver named notDash held handed
    exact compares otherAccepted config texts

/-- An error in a file and on the standard input, reported with and without flags and in another
format; a file that is not there, and a settings file that is no document. -/
theorem run_report_error :
    let text := "[\x7b\"error\":\x7b\"line\":1,\"character\":0,\"code\":\"E1\"\x7d\x7d]"
    let files : Files := ⟨fun _ => false, fun path =>
      if path = .ofString "/r.json" then .ok (utf8Bytes text)
      else if path = .ofString "/broken.toml" then .ok (utf8Bytes "= =")
      else .error .notFound⟩
    let world : World := ⟨files, ⟨.ofString "/", 0⟩, none, utf8Bytes text, .unbounded⟩
    let wording : Toml.Wording := fun text => "no document in " ++ toString text.length
    let plain := world.answer (run none ["report", "r.json"] wording)
    let flagged := world.answer
      (run (some "trace") ["-qv", "report", "--no-sort", "-f", "text", "r.json"] wording)
    let noted := world.answer (run (some "trace") ["report", "r.json", "-v"] wording)
    let handed := world.answer (run none ["report", "-"] wording)
    let absent := world.answer (run none ["report", "s.json"] wording)
    let broken := world.answer (run none ["report", "--config", "broken.toml"] wording)
    world.output.TakesAll ∧ plain.result = 1 ∧ plain.messages = [] ∧
    plain.output.data =
      utf8Bytes ("[\x7b\"line\":1,\"character\":0,\"code\":\"E1\"\x7d]" ++ "\n") ∧
    flagged.result = plain.result ∧ noted.output = plain.output ∧
    handed.output = plain.output ∧
    Failed world [] "No such file or directory (os error 2)" absent ∧
    Failed world [] "failed to parse configuration: no document in 3" broken := by
  intro text files world wording plain flagged noted handed absent broken
  have takes : world.output.TakesAll := ⟨by decide, rfl, rfl⟩
  have named : read ["report", "r.json"] =
      .ok ⟨⟨false, false, none⟩, .report ⟨some (.ofString "r.json"), false, none⟩⟩ := by
    cbv
  have dressed : read ["-qv", "report", "--no-sort", "-f", "text", "r.json"] =
      .ok ⟨⟨true, true, none⟩, .report ⟨some (.ofString "r.json"), true, some .text⟩⟩ := by
    cbv
  have verbose : read ["report", "r.json", "-v"] =
      .ok ⟨⟨false, true, none⟩, .report ⟨some (.ofString "r.json"), false, none⟩⟩ := by
    cbv
  have dash : read ["report", "-"] =
      .ok ⟨⟨false, false, none⟩, .report ⟨some (.ofString "-"), false, none⟩⟩ := by
    cbv
  have other : read ["report", "s.json"] =
      .ok ⟨⟨false, false, none⟩, .report ⟨some (.ofString "s.json"), false, none⟩⟩ := by
    cbv
  have configured : read ["report", "--config", "broken.toml"] =
      .ok ⟨⟨false, false, some (.ofString "broken.toml")⟩, .report ⟨none, false, none⟩⟩ := by
    cbv
  have settings : world.settingsFor ⟨false, false, none⟩ = .ok ⟨.default, none⟩ := rfl
  have held : world.readFile (.ofString "r.json") = .ok world.input := rfl
  have missing : world.readText (.file (.ofString "s.json")) = .error .notFound := rfl
  have reads : world.readText (.file (.ofString "r.json")) = .ok text :=
    World.readText_of_readFile held
  have malformed : Settings.parse "= =" = .error (.malformed ['=', ' ', '=']) := by
    cbv
  have unusable : world.settingsFor ⟨false, false, some (.ofString "broken.toml")⟩ =
      .error (.settings (.malformed ['=', ' ', '='])) := by
    have reads : world.readText (.file (.ofString "broken.toml")) = .ok "= =" :=
      World.readText_of_readFile rfl
    simp only [World.settingsFor, World.settingsIn, reads, malformed]
  have accepts : readBatch text =
      .ok [.ofFinding ((Finding.atPosition 1 0).attach "code" (.string "E1"))] := by
    unfold text
    cbv
  obtain ⟨_, _, _, _, writes, flags, same⟩ := run_report takes wording none named
  obtain ⟨result, output, messages⟩ := writes _ _ _ settings reads accepts
  have code : plain.result = 1 :=
    result.trans (if_pos ⟨_, List.mem_singleton_self _, by decide⟩)
  have bytes : plain.output.data = _ := congrArg Sink.data output
  have unlike := (flags presentation (List.Subset.refl _)).2 (some "trace") _ _ dressed
    (.inr (by decide))
  have alike := (flags [.flag .verbose] (by decide)).2 (some "trace") _ _ verbose
    (.inr (by decide))
  have source : ∀ path, some (Path.ofString "-") = some path → path.isDash = true := by
    rintro _ ⟨⟩
    decide
  have handedOver := same none _ _ _ dash rfl
    (.inr ⟨.ofString "r.json", rfl, by decide, held, source⟩)
  obtain ⟨_, _, fails, _⟩ := run_report takes wording none other
  obtain ⟨_, breaks, _⟩ := run_report takes wording none configured
  refine ⟨takes, code, messages, ?_, unlike.1, (alike.2 (List.Subset.refl _)).1,
    (handedOver.2 ⟨rfl, rfl, rfl⟩).1, fails _ _ settings missing, breaks _ unusable⟩
  rw [bytes]
  decide +kernel

end Command

end LintReport
