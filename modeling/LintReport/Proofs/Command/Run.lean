import LintReport.Command.Run
import LintReport.Proofs.Settings.Silent

/-!
# Following a run

A run has the settings of the file that it is given, else those of the file that applies to the
current directory, else the default ones (`World.settingsFor`); they are found silently. An
accepted command line is performed whatever the log filter is (`seen_run`), and a failure is told
after everything else, and ends with the exit code one (`seen_execute`).
-/

namespace LintReport

open Command

namespace World

/-- The settings that a file gives. -/
def settingsIn (world : World) (path : Path) : Except Failure Loaded :=
  match world.readText (.file path) with
  | .error error => .error (.settings (.unreadable error))
  | .ok text =>
    match Settings.parse text with
    | .error error => .error (.settings error)
    | .ok settings => .ok ⟨settings, some path⟩

/-- The settings file that applies to a directory. -/
def settingsFile (world : World) (directory : Path) : Option Path :=
  (world.answer (Discovery.find (some directory))).result

/-- The settings of a run. -/
def settingsFor (world : World) (globals : Globals) : Except Failure Loaded :=
  match globals.config with
  | some path => world.settingsIn path
  | none =>
    match world.standpoint.directory with
    | .error error => .error (.directory error)
    | .ok directory =>
      match world.settingsFile directory with
      | some path => world.settingsIn path
      | none => .ok ⟨.default, none⟩

end World

/-- Settings are loaded from a text that holds them. -/
theorem World.settingsIn_eq_ok {world : World} {path : Path} {loaded : Loaded} :
    world.settingsIn path = .ok loaded ↔ ∃ text settings,
      world.readText (.file path) = .ok text ∧ Settings.parse text = .ok settings ∧
      loaded = ⟨settings, some path⟩ := by
  unfold settingsIn
  cases world.readText (.file path) with
  | error error => simp only [reduceCtorEq, false_and, exists_false]
  | ok text =>
      simp only [Except.ok.injEq, exists_and_left, exists_eq_left']
      cases Settings.parse text with
      | error error => simp only [reduceCtorEq, false_and, exists_false]
      | ok settings => simp only [Except.ok.injEq, exists_eq_left', eq_comm]

namespace Command

open Inquiry

/-- Loading the settings for a command is silent. -/
theorem silent_loadSettings (globals : Globals) : (loadSettings globals).Silent := by
  unfold loadSettings
  cases globals.config with
  | some path => exact .bind (Settings.silent_loadSource path) fun _ => .pure _
  | none =>
      refine .bind .askDirectory fun answer => ?_
      cases answer with
      | error error => exact .pure _
      | ok directory => exact .bind (Settings.silent_discover directory) fun _ => .pure _

/-- Loading a settings file gives the settings in it. -/
theorem result_loadSource (world : World) (path : Path) :
    ((world.answer (Settings.loadSource path)).result).mapError Failure.settings =
      world.settingsIn path := by
  unfold Settings.loadSource
  rw [World.result_bind (Settings.silent_load path)]
  unfold Settings.load World.settingsIn
  rw [World.result_bind (.askText _), World.result_askText]
  cases world.readText (.file path) with
  | error error => rfl
  | ok text =>
      have parsed : (world.answer (do
          noteAll [Settings.loadingEvent path]
          return Settings.parse text)).result = Settings.parse text := rfl
      simp only [parsed]
      cases Settings.parse text with
      | error error => rfl
      | ok settings => rfl

/-- Discovering settings gives those of the file that is found, or the defaults. -/
theorem result_discover (world : World) (directory : Path) :
    ((world.answer (Settings.discover directory)).result).mapError Failure.settings =
      match world.settingsFile directory with
      | some path => world.settingsIn path
      | none => .ok ⟨.default, none⟩ := by
  unfold Settings.discover
  rw [World.result_bind (Discovery.silent_find _)]
  have found : (world.answer (Discovery.find (some directory))).result =
    world.settingsFile directory := rfl
  rw [found]
  cases world.settingsFile directory with
  | none => rfl
  | some path => exact result_loadSource world path

/-- A run has the settings that the world has for it. -/
theorem result_loadSettings (world : World) (globals : Globals) :
    (world.answer (loadSettings globals)).result = world.settingsFor globals := by
  unfold loadSettings World.settingsFor
  cases globals.config with
  | some path =>
      simp only
      rw [World.result_bind (Settings.silent_loadSource path)]
      exact result_loadSource world path
  | none =>
      simp only
      rw [World.result_bind .askDirectory]
      have stands : (world.answer askDirectory).result = world.standpoint.directory := rfl
      rw [stands]
      cases world.standpoint.directory with
      | error error => rfl
      | ok directory =>
          simp only
          rw [World.result_bind (Settings.silent_discover directory)]
          exact result_discover world directory

/-- The run fails with an error: its exit code is one, nothing was written, and the error is the
last that is told. -/
structure Failed (world : World) (told : List String) (message : String)
    (transcript : Transcript Nat) : Prop where
  code : transcript.result = 1
  output : transcript.output = world.output
  messages : transcript.messages = told ++ ["error: " ++ message ++ "\n"]

variable {world : World} {invocation : Invocation} {told : List String} {output : Sink}
  {wording : Toml.Wording}

/-- A failure is told at the end, and the exit code is one. -/
theorem seen_execute {result : Except Failure Nat}
    (performs : (world.answer (perform invocation)).seen = (result, output, told)) :
    (world.answer (execute invocation wording)).seen =
      match result with
      | .ok code => (code, output, told)
      | .error failure => (1, output, told ++ ["error: " ++ failure.message wording ++ "\n"]) := by
  unfold execute
  rw [World.seen_noteAll, World.seen_andThen _ _ world performs]
  cases result with
  | ok code => exact congrArg (fun told => (code, output, told)) (List.append_nil told)
  | error failure => rfl

/-- A log filter is not seen. -/
theorem seen_run (setting : Option String) {arguments : List String}
    (accepted : read arguments = .ok invocation) :
    (world.answer (run setting arguments wording)).seen =
      (world.answer (execute invocation wording)).seen := by
  unfold run
  rw [accepted]
  exact World.seen_keepNotes _ _ world

/-- A command that fails silently makes the run fail. -/
theorem failed_of_seen (setting : Option String) {arguments : List String} {failure : Failure}
    (accepted : read arguments = .ok invocation)
    (performs : (world.answer (perform invocation)).seen = (.error failure, world.output, told)) :
    Failed world told (failure.message wording) (world.answer (run setting arguments wording)) := by
  have seen : (world.answer (run setting arguments wording)).seen = _ :=
    (seen_run setting accepted).trans (seen_execute performs)
  obtain ⟨code, output, messages⟩ := Transcript.seen_eq.mp seen
  exact ⟨code, output, messages⟩

end Command

end LintReport
