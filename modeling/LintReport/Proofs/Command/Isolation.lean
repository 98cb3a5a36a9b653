import Mathlib
import LintReport.Proofs.Command.Shortened
import LintReport.Proofs.Command.Update

/-!
# What a check for updates depends on

What a check writes and its exit code depend on the text that names the latest version, if there is
one, and on nothing else (`Command.check_outcome`). A text that the command line gives is not looked
for anywhere, and a manifest that it names is read without the settings. Flags and the log filter
have no part in either, so two checks in two worlds come out alike (`Command.check_isolated`).
-/

namespace LintReport.Command

variable {world other : World} {globals otherGlobals : Globals} {request : UpdateRequest}
  {arguments otherArguments : List String} {wording : Toml.Wording}

/-- The arguments without those that only say how much is told. -/
def unflagged (arguments : List String) : List String :=
  leavingOut [.flag .quiet, .flag .verbose] arguments

/-- What a check writes when the latest version is known or not. -/
def writtenFor (request : UpdateRequest) : Option String → List UInt8
  | some latest => utf8Bytes (lineFor request latest)
  | none => []

/-- The exit code of a check when the latest version is known or not. -/
def codeFor : Option String → Nat
  | some _ => 0
  | none => 1

/-- The text that names the latest version decides what a check writes, and its exit code. -/
theorem check_outcome (takes : world.output.TakesAll) (setting : Option String)
    (accepted : read arguments = .ok ⟨globals, .checkUpdate request⟩) :
    let transcript := world.answer (run setting arguments wording)
    let latest := (world.answer (latestVersion request globals)).result.toOption
    transcript.result = codeFor latest ∧
      transcript.output.data = world.output.data ++ writtenFor request latest := by
  intro transcript latest
  have seen : transcript.seen = _ := seen_check_of_takesAll takes setting accepted
  cases found : (world.answer (latestVersion request globals)).result with
  | error failure =>
      rw [found] at seen
      have unknown : latest = none := congrArg Except.toOption found
      rw [unknown]
      obtain ⟨result, output, _⟩ := Transcript.seen_eq.mp seen
      exact ⟨result, (congrArg Sink.data output).trans (List.append_nil _).symm⟩
  | ok text =>
      rw [found] at seen
      have known : latest = some text := congrArg Except.toOption found
      rw [known]
      obtain ⟨result, output, _⟩ := Transcript.seen_eq.mp seen
      exact ⟨result, (congrArg Sink.data output).trans (takes.deliver _).2⟩

/-- A manifest that is named is read without the settings. -/
theorem toOption_latestVersion_of_named {path : Path} (absent : request.latest = none)
    (named : request.manifest = some path) :
    (world.answer (latestVersion request globals)).result.toOption =
      (world.readText (.file path)).toOption.bind fun text =>
        (Manifest.parse text).toOption.map Manifest.version := by
  have place : (world.answer (manifestPath request globals)).result = .ok path :=
    result_manifestPath.mpr (.named named)
  have here : (world.answer (latestVersion request globals)).result = world.manifestIn path := by
    rw [result_latestVersion_of_absent absent, place]
    rfl
  rw [here]
  unfold World.manifestIn
  cases world.readText (.file path) with
  | error error => rfl
  | ok text =>
      simp only [Except.toOption, Option.bind_some]
      cases Manifest.parse text with
      | error error => rfl
      | ok manifest => rfl

/-- The latest version depends on no flag but the settings file that is given. -/
theorem result_latestVersion_congr (config : otherGlobals.config = globals.config) :
    (world.answer (latestVersion request otherGlobals)).result =
      (world.answer (latestVersion request globals)).result := by
  have settings : world.settingsFor otherGlobals = world.settingsFor globals := by
    unfold World.settingsFor
    rw [config]
  cases given : request.latest with
  | some latest => rw [latestVersion_of_given given, latestVersion_of_given given]
  | none =>
      rw [result_latestVersion_of_absent given, result_latestVersion_of_absent given]
      congr 1
      unfold manifestPath
      cases request.manifest with
      | some path => rfl
      | none =>
          unfold configuredManifest
          simp only
          rw [World.result_bind (silent_loadSettings _), World.result_bind (silent_loadSettings _),
            result_loadSettings, result_loadSettings, settings]

/-- A check is still in order without the flags that say how much is told, and asks for the same with
the same settings file. -/
theorem read_unflagged (accepted : read arguments = .ok ⟨globals, .checkUpdate request⟩) :
    read (unflagged arguments) = .ok ⟨⟨false, false, globals.config⟩, .checkUpdate request⟩ := by
  refine (read_leavingOut (by decide) accepted).trans ?_
  simp [Invocation.without, Globals.without, Request.without]

/-- Checks that differ only in those flags ask for the same. -/
theorem same_of_unflagged {otherRequest : UpdateRequest}
    (accepted : read arguments = .ok ⟨globals, .checkUpdate request⟩)
    (acceptedToo : read otherArguments = .ok ⟨otherGlobals, .checkUpdate otherRequest⟩)
    (same : unflagged otherArguments = unflagged arguments) :
    otherRequest = request ∧ otherGlobals.config = globals.config := by
  have here := read_unflagged accepted
  have there := read_unflagged acceptedToo
  rw [same, here] at there
  simp only [Except.ok.injEq, Invocation.mk.injEq, Globals.mk.injEq, Request.checkUpdate.injEq,
    true_and] at there
  exact ⟨there.2.symm, there.1.symm⟩

/-- **What a check depends on.** Take two worlds and two command lines that ask for the same check.
If the latest version is given, both runs succeed and write the same, whatever is in the worlds and
whichever settings files are given. If a manifest is named, both runs end alike and write the same
as soon as the two worlds hold the same text in that place or none. In one world neither the exit
code nor what is written changes with the log filter and with the flags that say how much is told;
without these the command line is still in order. -/
theorem check_isolated (takes : world.output.TakesAll) (takesToo : other.output.TakesAll)
    (wording : Toml.Wording) (setting otherSetting : Option String)
    (accepted : read arguments = .ok ⟨globals, .checkUpdate request⟩)
    (acceptedToo : read otherArguments = .ok ⟨otherGlobals, .checkUpdate request⟩) :
    let first := world.answer (run setting arguments wording)
    let second := other.answer (run otherSetting otherArguments wording)
    let alike := second.result = first.result ∧ ∃ written,
      first.output.data = world.output.data ++ written ∧
      second.output.data = other.output.data ++ written
    (∀ latest, request.latest = some latest → first.result = 0 ∧ alike) ∧
    (∀ path, request.manifest = some path →
      (other.readText (.file path)).toOption = (world.readText (.file path)).toOption → alike) ∧
    (∃ plain, read (unflagged arguments) = .ok ⟨plain, .checkUpdate request⟩) ∧
    ∀ flagged flaggedGlobals flaggedRequest, unflagged flagged = unflagged arguments →
      read flagged = .ok ⟨flaggedGlobals, .checkUpdate flaggedRequest⟩ →
      ∀ flaggedSetting,
        let again := world.answer (run flaggedSetting flagged wording)
        again.result = first.result ∧ again.output.data = first.output.data := by
  intro first second alike
  obtain ⟨result, output⟩ := check_outcome takes setting accepted
  obtain ⟨resultToo, outputToo⟩ := check_outcome takesToo otherSetting acceptedToo
  have same (latest : (other.answer (latestVersion request otherGlobals)).result.toOption =
      (world.answer (latestVersion request globals)).result.toOption) : alike := by
    rw [latest] at resultToo outputToo
    exact ⟨resultToo.trans result.symm, _, output, outputToo⟩
  have known {latest : String} (given : request.latest = some latest) :
      first.result = 0 ∧ alike := by
    have here := latestVersion_of_given given globals
    have there := latestVersion_of_given given otherGlobals
    refine ⟨?_, same ?_⟩
    · rw [here] at result
      exact result
    · rw [here, there]
      rfl
  refine ⟨fun latest => known, ?_, ?_, ?_⟩
  · intro path named reads
    cases given : request.latest with
    | some latest => exact (known given).2
    | none =>
        apply same
        rw [toOption_latestVersion_of_named given named, reads,
          toOption_latestVersion_of_named given named]
  · exact ⟨_, read_unflagged accepted⟩
  · intro flagged flaggedGlobals flaggedRequest unchanged acceptedStill flaggedSetting again
    obtain ⟨rfl, config⟩ := same_of_unflagged accepted acceptedStill unchanged
    obtain ⟨resultAgain, outputAgain⟩ := check_outcome takes flaggedSetting acceptedStill
    rw [result_latestVersion_congr config] at resultAgain outputAgain
    exact ⟨resultAgain.trans result.symm, outputAgain.trans output.symm⟩

/-- A settings file that is not there, one that is broken, and a manifest in both worlds. -/
theorem check_isolated_broken :
    let file : Path := .ofString "/hintpane.toml"
    let holding (settings : String) (home : Option Path) : World := ⟨⟨(· = file),
      fun path =>
        if path = file then .ok (utf8Bytes settings)
        else if path = .ofString "/m.json" then .ok (utf8Bytes "\x7b\"latest\":\"2.0.0\"\x7d")
        else .error .notFound⟩, ⟨.ofString "/", 0⟩, home, [], .unbounded⟩
    let sound := holding "" none
    let broken := holding "= =" (some (.ofString "/h"))
    let given := ["--config", "gone.toml", "check-update", "--latest", "2.0.0"]
    let plain := ["check-update", "--manifest", "m.json"]
    let flagged := ["-q", "check-update", "-v", "--manifest", "m.json"]
    (sound.answer (run none given)).result = 0 ∧ (broken.answer (run none given)).result = 0 ∧
    (broken.answer (run none plain)).result = (sound.answer (run none plain)).result ∧
    (sound.answer (run (some "trace") flagged)).output.data =
      (sound.answer (run none plain)).output.data := by
  intro file holding sound broken given plain flagged
  have takes : sound.output.TakesAll := ⟨by decide, rfl, rfl⟩
  have takesToo : broken.output.TakesAll := ⟨by decide, rfl, rfl⟩
  have latest : read given = .ok ⟨⟨false, false, some (.ofString "gone.toml")⟩,
      .checkUpdate ⟨none, some "2.0.0", none⟩⟩ := by
    unfold given
    cbv
  have named : read plain = .ok ⟨⟨false, false, none⟩,
      .checkUpdate ⟨none, none, some (.ofString "m.json")⟩⟩ := by
    unfold plain
    cbv
  have namedToo : read flagged = .ok ⟨⟨true, true, none⟩,
      .checkUpdate ⟨none, none, some (.ofString "m.json")⟩⟩ := by
    unfold flagged
    cbv
  have held : broken.readText (.file (.ofString "m.json")) =
      sound.readText (.file (.ofString "m.json")) := rfl
  obtain ⟨succeeds, _⟩ := check_isolated takes takesToo .brief none none latest latest
  obtain ⟨result, resultToo, _⟩ := succeeds _ rfl
  obtain ⟨_, reads, _⟩ := check_isolated takes takesToo .brief none none named named
  obtain ⟨_, _, _, flags⟩ := check_isolated takes takesToo .brief none none named named
  exact ⟨result, resultToo.trans result, (reads _ rfl (congrArg Except.toOption held)).1,
    (flags flagged _ _ (by decide) namedToo (some "trace")).2⟩

end LintReport.Command
