import Mathlib
import LintReport.Proofs.Steps
import LintReport.Proofs.Release.Status
import LintReport.Proofs.Report.Delivery
import LintReport.Proofs.Command.Run

/-!
# The check for updates as a command

The latest version is what the command line says, else what a manifest says, which the command line
or the settings name (`World.Latest`). Without such a text the check fails. Whatever the text is,
the check succeeds otherwise, and only two versions of which the current one is below the latest
make it say that there is an update (`Command.run_check`).
-/

namespace LintReport

open Command

namespace World

/-- The manifest to read is the one that the command line names, else the one that the settings
name. -/
inductive ManifestAt (world : World) (globals : Globals) (request : UpdateRequest) : Path → Prop
  | named {path : Path} (given : request.manifest = some path) :
      ManifestAt world globals request path
  | configured {loaded : Loaded} {name : String} (absent : request.manifest = none)
      (loads : world.settingsFor globals = .ok loaded)
      (names : loaded.settings.update.manifest = some name) :
      ManifestAt world globals request (loaded.resolve (.ofString name))

/-- The text that names the latest version is the one that the command line gives, else the one in
the manifest. -/
inductive Latest (world : World) (globals : Globals) (request : UpdateRequest) : String → Prop
  | given {latest : String} (given : request.latest = some latest) :
      Latest world globals request latest
  | read {path : Path} {text latest : String} (absent : request.latest = none)
      (place : world.ManifestAt globals request path)
      (reads : world.readText (.file path) = .ok text)
      (states : Manifest.parse text = .ok ⟨latest⟩) : Latest world globals request latest

/-- The text that names the latest version in the manifest of a file. -/
def manifestIn (world : World) (path : Path) : Except Failure String :=
  match world.readText (.file path) with
  | .error error => .error (.manifest (.unreadable error))
  | .ok text => ((Manifest.parse text).map Manifest.version).mapError Failure.manifest

end World

namespace Command

variable {world : World} {globals : Globals} {request : UpdateRequest} {wording : Toml.Wording}

/-- Looking for a manifest in the settings is silent. -/
theorem silent_configuredManifest (globals : Globals) : (configuredManifest globals).Silent := by
  refine .bind (silent_loadSettings globals) fun loaded => ?_
  cases loaded with
  | error failure => exact .pure _
  | ok loaded =>
      simp only
      cases loaded.settings.update.manifest with
      | none => exact .pure _
      | some name => exact .pure _

/-- Deciding which manifest to read is silent. -/
theorem silent_manifestPath (request : UpdateRequest) (globals : Globals) :
    (manifestPath request globals).Silent := by
  unfold manifestPath
  cases request.manifest with
  | some path => exact .pure _
  | none => exact silent_configuredManifest globals

/-- Finding the latest version is silent. -/
theorem silent_latestVersion (request : UpdateRequest) (globals : Globals) :
    (latestVersion request globals).Silent := by
  unfold latestVersion
  cases request.latest with
  | some latest => exact .pure _
  | none =>
      refine .bind (silent_manifestPath request globals) fun place => ?_
      cases place with
      | error failure => exact .pure _
      | ok path =>
          refine .bind (.noteAll _) fun _ => .bind (Manifest.silent_load path) fun manifest => ?_
          cases manifest with
          | error error => exact .pure _
          | ok manifest => exact .pure _

/-- The manifest that is read is the given one, or else the configured one. -/
theorem result_manifestPath {path : Path} :
    (world.answer (manifestPath request globals)).result = .ok path ↔
      world.ManifestAt globals request path := by
  unfold manifestPath
  cases named : request.manifest with
  | some given =>
      constructor
      · rintro ⟨⟩
        exact .named named
      · intro place
        cases place with
        | named same => rw [← Option.some.inj (named.symm.trans same)]; rfl
        | configured absent => cases named.symm.trans absent
  | none =>
      unfold configuredManifest
      simp only
      rw [World.result_bind (silent_loadSettings globals), result_loadSettings]
      constructor
      -- Only one way through the steps ends with a path; the others end with a failure.
      · intro finds
        cases loads : world.settingsFor globals with
        | error failure =>
            rw [loads] at finds
            cases finds
        | ok loaded =>
            rw [loads] at finds
            simp only at finds
            cases names : loaded.settings.update.manifest with
            | none =>
                rw [names] at finds
                cases finds
            | some name =>
                rw [names] at finds
                cases finds
                exact .configured named loads names
      · intro place
        cases place with
        | named same => cases named.symm.trans same
        | configured absent loads names =>
            rw [loads]
            simp only
            rw [names]
            rfl

/-- Loading a manifest gives what its text holds, or why there is none. -/
theorem result_loadManifest (world : World) (path : Path) :
    (world.answer (Manifest.load path)).result =
      match world.readText (.file path) with
      | .error error => .error (.unreadable error)
      | .ok text => Manifest.parse text := by
  unfold Manifest.load
  rw [World.result_bind (.askText _), World.result_askText]
  cases world.readText (.file path) with
  | error error => rfl
  | ok text => rfl

/-- Neither a manifest nor the settings are looked at when the latest version is given. -/
theorem latestVersion_of_given {latest : String} (given : request.latest = some latest)
    (globals : Globals) : latestVersion request globals = pure (.ok latest) := by
  unfold latestVersion
  rw [given]

/-- Otherwise the manifest gives the latest version, once it is known which one is to be read. -/
theorem result_latestVersion_of_absent (absent : request.latest = none) (world : World)
    (globals : Globals) :
    (world.answer (latestVersion request globals)).result =
      (world.answer (manifestPath request globals)).result.bind world.manifestIn := by
  unfold latestVersion World.manifestIn
  rw [absent]
  simp only
  rw [World.result_bind (silent_manifestPath request globals)]
  cases (world.answer (manifestPath request globals)).result with
  | error failure => rfl
  | ok path =>
      simp only
      rw [World.result_noteAll, World.result_bind (Manifest.silent_load path), result_loadManifest]
      simp only [Except.bind]
      cases world.readText (.file path) with
      | error error => rfl
      | ok text =>
          simp only
          cases Manifest.parse text with
          | error error => rfl
          | ok manifest => rfl

/-- The version in a manifest is what its text says. -/
theorem manifestIn_eq_ok {path : Path} {latest : String} :
    world.manifestIn path = .ok latest ↔
      ∃ text, world.readText (.file path) = .ok text ∧ Manifest.parse text = .ok ⟨latest⟩ := by
  unfold World.manifestIn
  cases world.readText (.file path) with
  | error error => simp only [reduceCtorEq, false_and, exists_false]
  | ok text =>
      simp only [Except.ok.injEq, exists_eq_left']
      cases Manifest.parse text with
      | error error => simp only [Steps.map_error, Except.mapError, reduceCtorEq]
      | ok manifest =>
          cases manifest
          simp only [Steps.map_ok, Except.mapError, Except.ok.injEq, Manifest.mk.injEq]

/-- The latest version is the given one, or else the one in the manifest. -/
theorem result_latestVersion {latest : String} :
    (world.answer (latestVersion request globals)).result = .ok latest ↔
      world.Latest globals request latest := by
  cases given : request.latest with
  | some text =>
      rw [latestVersion_of_given given, World.result_pure, Except.ok.injEq]
      constructor
      · rintro rfl
        exact .given given
      · intro known
        cases known with
        | given same => exact Option.some.inj (given.symm.trans same)
        | read absent => cases given.symm.trans absent
  | none =>
      rw [result_latestVersion_of_absent given]
      constructor
      · intro finds
        obtain ⟨path, place, here⟩ := Steps.bind_eq_ok.mp finds
        obtain ⟨text, reads, states⟩ := manifestIn_eq_ok.mp here
        exact .read given (result_manifestPath.mp place) reads states
      · intro known
        cases known with
        | given same => cases given.symm.trans same
        | read absent place reads states =>
            rw [result_manifestPath.mpr place]
            exact manifestIn_eq_ok.mpr ⟨_, reads, states⟩

/-- What is told while the latest version is looked for: nothing by a quiet run. -/
def checkingTold (globals : Globals) : List String :=
  if globals.quiet then [] else [checkingMessage]

/-- Unless it is to be quiet, a check first tells that it checks. -/
theorem seen_checking {α : Type} (world : World) (globals : Globals) (more : Unit → Inquiry α) :
    (world.answer (if !globals.quiet then Inquiry.tellText checkingMessage >>= more
      else more ())).seen =
      let rest := (world.answer (more ())).seen
      (rest.1, rest.2.1, checkingTold globals ++ rest.2.2) := by
  unfold checkingTold
  cases globals.quiet with
  | true => rfl
  | false => exact World.seen_tellText world checkingMessage more

/-- The line that says what came of a check. -/
def lineFor (request : UpdateRequest) (latest : String) : String :=
  (UpdateStatus.resolve (currentVersion request) latest).render ++ "\n"

/-- What is seen of the command that checks for updates, whatever the standard output takes. -/
theorem seen_runCheck (world : World) (globals : Globals) (request : UpdateRequest) :
    (world.answer (runCheck request globals)).seen =
      match (world.answer (latestVersion request globals)).result with
      | .error failure => (.error failure, world.output, checkingTold globals)
      | .ok latest =>
        let (written, output) := Outlet.deliver world.output (utf8Bytes (lineFor request latest))
        ((written.map fun _ => 0).mapError Failure.output, output, checkingTold globals) := by
  unfold runCheck lineFor
  refine (seen_checking world globals _).trans ?_
  rw [World.seen_bind (silent_latestVersion request globals)]
  cases (world.answer (latestVersion request globals)).result with
  | error failure => simp only [World.seen_pure, List.append_nil]
  | ok latest =>
      simp only
      rw [World.seen_noteAll, World.seen_printText]
      cases Outlet.deliver world.output _ with
      | mk written output =>
          cases written with
          | error error => simp only [World.seen_pure, List.append_nil]; rfl
          | ok given => simp only [World.seen_pure, List.append_nil]; rfl

/-- What is seen of a command line that asks for a check. -/
theorem seen_check (setting : Option String) {arguments : List String}
    (accepted : read arguments = .ok ⟨globals, .checkUpdate request⟩) :
    (world.answer (run setting arguments wording)).seen =
      match (world.answer (latestVersion request globals)).result with
      | .error failure =>
        (1, world.output, checkingTold globals ++ ["error: " ++ failure.message wording ++ "\n"])
      | .ok latest =>
        match Outlet.deliver world.output (utf8Bytes (lineFor request latest)) with
        | (.ok (), output) => (0, output, checkingTold globals)
        | (.error error, output) =>
          (1, output, checkingTold globals ++ ["error: " ++ error.message ++ "\n"]) := by
  have performs : (world.answer (perform ⟨globals, .checkUpdate request⟩)).seen = _ :=
    seen_runCheck world globals request
  rw [seen_run setting accepted]
  cases found : (world.answer (latestVersion request globals)).result with
  | error failure =>
      rw [found] at performs
      exact seen_execute performs
  | ok latest =>
      rw [found] at performs
      simp only at performs ⊢
      cases delivered : Outlet.deliver world.output (utf8Bytes (lineFor request latest)) with
      | mk written output =>
          rw [delivered] at performs
          cases written with
          | error error => exact seen_execute performs
          | ok given => exact seen_execute performs

/-- A standard output that takes everything gets the line. -/
theorem seen_check_of_takesAll (takes : world.output.TakesAll) (setting : Option String)
    {arguments : List String} (accepted : read arguments = .ok ⟨globals, .checkUpdate request⟩) :
    (world.answer (run setting arguments wording)).seen =
      match (world.answer (latestVersion request globals)).result with
      | .error failure =>
        (1, world.output, checkingTold globals ++ ["error: " ++ failure.message wording ++ "\n"])
      | .ok latest =>
        (0, (Outlet.deliver world.output (utf8Bytes (lineFor request latest))).2,
          checkingTold globals) := by
  rw [seen_check setting accepted]
  cases (world.answer (latestVersion request globals)).result with
  | error failure => rfl
  | ok latest =>
      have written := (takes.deliver (utf8Bytes (lineFor request latest))).1
      simp only
      split
      · next ends => rw [ends]
      · next ends =>
          rw [ends] at written
          cases written

/-- **The manifest decides.** A check that finds a manifest to read comes to what the manifest says:
the line about the version in it is written, and the check succeeds unless the standard output
fails. When the file holds no manifest, nothing is written and the check fails. -/
theorem check_of_manifest {path : Path} (absent : request.latest = none)
    (place : (world.answer (manifestPath request globals)).result = .ok path)
    (setting : Option String) {arguments : List String}
    (accepted : read arguments = .ok ⟨globals, .checkUpdate request⟩) :
    let transcript := world.answer (run setting arguments wording)
    (∀ text latest, world.readText (.file path) = .ok text →
      Manifest.parse text = .ok ⟨latest⟩ →
      let delivered := Outlet.deliver world.output (utf8Bytes (lineFor request latest))
      transcript.output = delivered.2 ∧
        transcript.result = if delivered.1.isOk then 0 else 1) ∧
    ((∀ text latest, world.readText (.file path) = .ok text →
        Manifest.parse text ≠ .ok ⟨latest⟩) →
      transcript.output = world.output ∧ transcript.result = 1) := by
  intro transcript
  have seen : transcript.seen = _ := seen_check setting accepted
  have latest : (world.answer (latestVersion request globals)).result = world.manifestIn path := by
    rw [result_latestVersion_of_absent absent, place]
    rfl
  rw [latest] at seen
  refine ⟨fun text latest reads states => ?_, fun unknown => ?_⟩
  · rw [manifestIn_eq_ok.mpr ⟨text, reads, states⟩] at seen
    intro delivered
    have comes : Outlet.deliver world.output (utf8Bytes (lineFor request latest)) = delivered := rfl
    simp only [comes] at seen
    rcases delivered with ⟨error | given, output⟩
    · obtain ⟨result, output, _⟩ := Transcript.seen_eq.mp seen
      exact ⟨output, result⟩
    · obtain ⟨result, output, _⟩ := Transcript.seen_eq.mp seen
      exact ⟨output, result⟩
  · cases found : world.manifestIn path with
    | ok latest =>
        obtain ⟨text, reads, states⟩ := manifestIn_eq_ok.mp found
        exact absurd states (unknown text latest reads)
    | error failure =>
        rw [found] at seen
        obtain ⟨result, output, _⟩ := Transcript.seen_eq.mp seen
        exact ⟨output, result⟩

/-- **The check for updates as a command.** It fails when no text names the latest version.
Otherwise it succeeds with one line, and the line says that an update is available exactly when the
current and the latest text denote versions of which the first is below the second; it names these
two. Whatever else the texts are, the line says that the program is up to date, and shows the
current version if it can be read. -/
theorem run_check (takes : world.output.TakesAll) (wording : Toml.Wording)
    (setting : Option String) {arguments : List String}
    (accepted : read arguments = .ok ⟨globals, .checkUpdate request⟩) :
    let transcript := world.answer (run setting arguments wording)
    let current := request.current.getD Help.programVersion
    ((∃ message, Failed world (checkingTold globals) message transcript) ↔
      ∀ latest, ¬ world.Latest globals request latest) ∧
    ∀ latest, world.Latest globals request latest →
      transcript.result = 0 ∧ transcript.messages = checkingTold globals ∧
      ∃ line : String,
        transcript.output.data = world.output.data ++ utf8Bytes (line ++ "\n") ∧
        '\n' ∉ line.toList ∧
        (∀ older newer : Version,
          line = "update available: " ++ older.render ++ " -> " ++ newer.render ↔
            Version.parse current = .ok older ∧ Version.parse latest = .ok newer ∧
              older.Below newer) ∧
        ((¬ ∃ older newer, Version.parse current = .ok older ∧
            Version.parse latest = .ok newer ∧ older.Below newer) →
          line = match Version.parse current with
            | .ok version => "up to date (" ++ version.render ++ ")"
            | .error _ => "up to date") := by
  intro transcript current
  have seen : transcript.seen = _ := seen_check_of_takesAll takes setting accepted
  have shows {latest : String}
      (found : (world.answer (latestVersion request globals)).result = .ok latest) :
      transcript.result = 0 ∧ transcript.output = (Outlet.deliver world.output (utf8Bytes
        ((UpdateStatus.resolve current latest).render ++ "\n"))).2 ∧
        transcript.messages = checkingTold globals := by
    rw [found] at seen
    exact Transcript.seen_eq.mp seen
  refine ⟨⟨?_, ?_⟩, ?_⟩
  · rintro ⟨message, failed⟩ latest known
    obtain ⟨succeeds, _, _⟩ := shows (result_latestVersion.mpr known)
    cases succeeds.symm.trans failed.code
  · intro unknown
    cases found : (world.answer (latestVersion request globals)).result with
    | error failure =>
        rw [found] at seen
        obtain ⟨code, output, messages⟩ := Transcript.seen_eq.mp seen
        exact ⟨failure.message wording, code, output, messages⟩
    | ok latest => exact absurd (result_latestVersion.mp found) (unknown latest)
  · intro latest known
    obtain ⟨succeeds, written, messages⟩ := shows (result_latestVersion.mpr known)
    refine ⟨succeeds, messages, (UpdateStatus.resolve current latest).render, ?_, ?_, ?_, ?_⟩
    · rw [written]
      exact (takes.deliver _).2
    · rw [UpdateStatus.render, String.toList_ofList]
      exact UpdateStatus.newline_not_mem_text _
    · intro older newer
      rw [← UpdateStatus.render_updateAvailable, UpdateStatus.render_inj]
      exact UpdateStatus.resolve_eq_updateAvailable_iff
    · intro lacks
      simp only [← UpdateStatus.resolve_eq_updateAvailable_iff] at lacks
      rw [UpdateStatus.resolve_eq_upToDate lacks]
      cases Version.parse current with
      | error error => rfl
      | ok version => exact UpdateStatus.render_upToDate version

/-- A manifest that names a newer release, and no manifest at all. -/
theorem run_check_newer :
    let manifest := "\x7b\"version\":\"1.10.0\"\x7d"
    let files : Files := ⟨fun _ => false, fun path =>
      if path = .ofString "/m.json" then .ok (utf8Bytes manifest) else .error .notFound⟩
    let world : World := ⟨files, ⟨.ofString "/", 0⟩, none, [], .unbounded⟩
    let newer := world.answer
      (run none ["check-update", "--manifest", "m.json", "--current", "1.9.0"])
    let lacking := world.answer (run none ["-q", "check-update"])
    world.output.TakesAll ∧ newer.result = 0 ∧ newer.messages = [checkingMessage] ∧
    newer.output.data = utf8Bytes ("update available: 1.9.0 -> 1.10.0" ++ "\n") ∧
    ∃ message, Failed world [] message lacking := by
  intro manifest files world newer lacking
  have takes : world.output.TakesAll := ⟨by decide, rfl, rfl⟩
  have named : read ["check-update", "--manifest", "m.json", "--current", "1.9.0"] =
      .ok ⟨⟨false, false, none⟩,
        .checkUpdate ⟨some "1.9.0", none, some (.ofString "m.json")⟩⟩ := by
    cbv
  have bare : read ["-q", "check-update"] =
      .ok ⟨⟨true, false, none⟩, .checkUpdate ⟨none, none, none⟩⟩ := by
    cbv
  have held : world.readText (.file (.ofString "m.json")) = .ok manifest :=
    World.readText_of_readFile rfl
  have states : Manifest.parse manifest = .ok ⟨"1.10.0"⟩ := by
    unfold manifest
    cbv
  have known : world.Latest ⟨false, false, none⟩
      ⟨some "1.9.0", none, some (.ofString "m.json")⟩ "1.10.0" :=
    .read rfl (.named rfl) held states
  have unknown : ∀ latest, ¬ world.Latest ⟨true, false, none⟩ ⟨none, none, none⟩ latest := by
    rintro latest (⟨⟨⟩⟩ | ⟨_, ⟨⟨⟩⟩ | ⟨_, loads, states⟩, _, _⟩)
    cases loads
    cases states
  obtain ⟨_, shows⟩ := run_check takes .brief none named
  obtain ⟨result, messages, line, written, _, available, _⟩ := shows _ known
  have update : line = _ := (available ⟨1, 9, 0⟩ ⟨1, 10, 0⟩).mpr
    ⟨by cbv, by cbv, .inr ⟨rfl, .inl (by decide)⟩⟩
  refine ⟨takes, result, messages, ?_, (run_check takes .brief none bare).1.mpr unknown⟩
  rw [written, update]
  decide

end Command

end LintReport
