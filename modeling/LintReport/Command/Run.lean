import LintReport.Log.Filter
import LintReport.Settings.Load
import LintReport.Command.Arguments

/-!
# Running a command

A run reads the command line and does what it asks for. Reports and the outcome of a check go to
the standard output, and everything else to the messages. The exit code is one when a report holds
an error or the run fails, and two when the command line is not in order.
-/

namespace LintReport.Command

/-- Why a run fails. -/
inductive Failure where
  | directory (error : StreamError)
  | settings (error : SettingsError)
  | input (error : StreamError)
  | report (error : ReportError)
  | noManifest
  | manifest (error : ManifestError)
  | output (error : StreamError)

/-- What is said of a failure. -/
def Failure.message (failure : Failure) (wording : Toml.Wording := .brief) : String :=
  match failure with
  | directory error => error.message
  | settings error => error.message wording
  | input error => error.message
  | report error => error.message
  | noManifest =>
    "no release manifest given; pass --latest or --manifest, or set [update] manifest"
  | manifest error => error.message
  | output error => error.message

/-- The settings of a run: those of the file that is named, else those that apply to the current
directory. -/
def loadSettings (globals : Globals) : Inquiry (Except Failure Loaded) := do
  match globals.config with
  | some path => return (← Settings.loadSource path).mapError Failure.settings
  | none =>
    match ← Inquiry.askDirectory with
    | .error error => return .error (.directory error)
    | .ok directory => return (← Settings.discover directory).mapError Failure.settings

/-- The options of a report. Arguments only switch sorting off and quiet on, and replace the
format. -/
def optionsOf (settings : ReportSettings) (request : ReportRequest) (globals : Globals) :
    Options where
  sort := settings.sort && !request.noSort
  quiet := settings.quiet || globals.quiet
  format := request.format.getD settings.format

/-- Where the records of a report come from. -/
def sourceOf (request : ReportRequest) : Source :=
  match request.input with
  | some path => if path.isDash then .input else .file path
  | none => .input

/-- Writes a report to the standard output. -/
def writeReport (reporter : Reporter) (records : List Record) :
    Inquiry (Except Failure Tally) := do
  let prepared := reporter.prepare records
  Inquiry.noteAll (prepared.events reporter)
  match prepared.text? with
  | none => return .ok prepared.tally
  | some text =>
    match ← Inquiry.printText text with
    | .error error => return .error (.report (.output error))
    | .ok () => do
      Inquiry.noteAll [Prepared.writtenEvent text]
      return .ok prepared.tally

/-- What is noted when a report is complete. -/
def completeEvent (tally : Tally) : Event :=
  ⟨.info, .reportCommand, "report complete",
    [("total", toString tally.total), ("errors", toString tally.errors),
      ("warnings", toString tally.warnings)]⟩

/-- The exit code that goes with a tally. -/
def codeOf (tally : Tally) : Nat := if tally.hasErrors then 1 else 0

/-- Reads records and reports them. -/
def reportText (options : Options) (text : String) : Inquiry (Except Failure Nat) := do
  match readBatch text with
  | .error error => return .error (.report error)
  | .ok records =>
    match ← writeReport (.ofOptions options) records with
    | .error failure => return .error failure
    | .ok tally => do
      Inquiry.noteAll [completeEvent tally]
      return .ok (codeOf tally)

/-- The command that reports. -/
def runReport (request : ReportRequest) (globals : Globals) : Inquiry (Except Failure Nat) := do
  match ← loadSettings globals with
  | .error failure => return .error failure
  | .ok loaded =>
    match ← Inquiry.askText (sourceOf request) with
    | .error error => return .error (.input error)
    | .ok text => reportText (optionsOf loaded.settings.report request globals) text

/-- The manifest that the settings name. -/
def configuredManifest (globals : Globals) : Inquiry (Except Failure Path) := do
  match ← loadSettings globals with
  | .error failure => return .error failure
  | .ok loaded =>
    match loaded.settings.update.manifest with
    | none => return .error .noManifest
    | some manifest => return .ok (loaded.resolve (.ofString manifest))

/-- The manifest to read: the one that is named, else the one that the settings name. -/
def manifestPath (request : UpdateRequest) (globals : Globals) :
    Inquiry (Except Failure Path) :=
  match request.manifest with
  | some path => pure (.ok path)
  | none => configuredManifest globals

/-- What is noted before a manifest is read. -/
def manifestEvent (path : Path) : Event :=
  ⟨.debug, .updateCommand, "reading release manifest", [("path", path.text)]⟩

/-- The text that names the latest version: the one that is given, else that of a manifest. -/
def latestVersion (request : UpdateRequest) (globals : Globals) :
    Inquiry (Except Failure String) := do
  match request.latest with
  | some latest => return .ok latest
  | none =>
    match ← manifestPath request globals with
    | .error failure => return .error failure
    | .ok path => do
      Inquiry.noteAll [manifestEvent path]
      match ← Manifest.load path with
      | .error error => return .error (.manifest error)
      | .ok manifest => return .ok manifest.version

/-- The version that is checked: the one that is given, else that of this program. -/
def currentVersion (request : UpdateRequest) : String :=
  request.current.getD Help.programVersion

/-- What is shown while the latest version is looked for. -/
def checkingMessage : String := "   " ++ UpdateStatus.checking.render ++ "\n"

/-- The command that checks for updates. -/
def runCheck (request : UpdateRequest) (globals : Globals) : Inquiry (Except Failure Nat) := do
  if !globals.quiet then Inquiry.tellText checkingMessage
  match ← latestVersion request globals with
  | .error failure => return .error failure
  | .ok latest => do
    let current := currentVersion request
    Inquiry.noteAll (UpdateStatus.resolveEvents current latest)
    match ← Inquiry.printText ((UpdateStatus.resolve current latest).render ++ "\n") with
    | .error error => return .error (.output error)
    | .ok () => return .ok 0

/-- Does what a command line asks for. -/
def perform (invocation : Invocation) : Inquiry (Except Failure Nat) :=
  match invocation.request with
  | .report request => runReport request invocation.globals
  | .checkUpdate request => runCheck request invocation.globals

/-- What is noted first. -/
def startEvent : Event :=
  ⟨.debug, .start, "hintpane starting",
    [("version", "\"" ++ Help.programVersion ++ "\"")]⟩

/-- Does what a command line asks for, and tells why it fails if it does; gives the exit code. -/
def execute (invocation : Invocation) (wording : Toml.Wording := .brief) : Inquiry Nat := do
  Inquiry.noteAll [startEvent]
  match ← perform invocation with
  | .ok code => return code
  | .error failure => do
    Inquiry.tellText ("error: " ++ failure.message wording ++ "\n")
    return 1

/-- The filter for the events of a run. -/
def filterOf (setting : Option String) (globals : Globals) : Filter :=
  .ofSetting setting globals.verbose globals.quiet

/-- A run of the program with a log filter and arguments; gives the exit code. What is said of a
settings file that breaks the grammar of documents is up to the wording. -/
def run (setting : Option String) (arguments : List String) (wording : Toml.Wording := .brief) :
    Inquiry Nat :=
  match read arguments with
  | .error (.show help) => do
    let _ ← Inquiry.printText help.text
    return 0
  | .error (.refuse error) => do
    Inquiry.tellText (error.message ++ "\n")
    return 2
  | .ok invocation =>
    (execute invocation wording).keepNotes (filterOf setting invocation.globals).shows

end LintReport.Command
