import Mathlib
import LintReport.Proofs.Files.Tree
import LintReport.Proofs.Settings.Discovery
import LintReport.Proofs.Command.Update

/-!
# Checks below a project

A project is a directory from the root with a settings file that names a manifest
(`World.Project`). From every place below it, as long as nothing on the way hides its settings file
(`World.Unhidden`) and the search goes up far enough, the same settings apply, and the same manifest
is read, for a path in the settings is taken from the directory of their file. So a check for
updates comes out alike wherever below the project it is run (`Command.project_below`).
-/

namespace LintReport

open Discovery

namespace World

/-- The world as a run sees it whose current directory is another one. -/
def standing (world : World) (directory : Path) : World :=
  { world with standpoint := ⟨directory, 0⟩ }

/-- A directory from the root whose settings file names a manifest. Its files are the same however
many slashes and dots close the path of the directory. -/
structure Project (world : World) (project : Path) (settings : Settings) (manifest : String) :
    Prop where
  absolute : project.isAbsolute = true
  file : world.isFile (project.join settingsName) = true
  loads : world.settingsIn (project.join settingsName) =
    .ok ⟨settings, some (project.join settingsName)⟩
  names : settings.update.manifest = some manifest
  spelled : ∀ name ∈ [packageName, settingsName],
    world.isFile (project.tidy.join name) = world.isFile (project.join name)
  reads : world.readText (.file (project.tidy.join settingsName)) =
    world.readText (.file (project.join settingsName))

/-- There is no package description on the way up from a place, and no settings file before so many
steps. -/
structure Unhidden (world : World) (place : Path) (depth : Nat) : Prop where
  noPackage : ∀ above outer, place.ascend above = some outer →
    world.isFile (outer.join packageName) = false
  noSettings : ∀ above < depth, ∀ outer, place.ascend above = some outer →
    world.isFile (outer.join settingsName) = false

variable {world : World} {place project : Path} {depth : Nat} {settings : Settings}
  {manifest : String}

/-! ## The current directory -/

/-- A path from the root leads to the same place from every directory. -/
theorem resolve_standing {path : Path} (absolute : path.isAbsolute = true) (directory : Path) :
    (world.standing directory).resolve path = world.resolve path := by
  unfold resolve
  simp only [absolute, ↓reduceIte]

theorem isFile_standing {path : Path} (absolute : path.isAbsolute = true) (directory : Path) :
    (world.standing directory).isFile path = world.isFile path := by
  unfold isFile
  rw [resolve_standing absolute]
  rfl

theorem readText_standing {path : Path} (absolute : path.isAbsolute = true) (directory : Path) :
    (world.standing directory).readText (.file path) = world.readText (.file path) := by
  simp only [readText, readFile, resolve_standing absolute]
  rfl

theorem settingsIn_standing {path : Path} (absolute : path.isAbsolute = true)
    (directory : Path) : (world.standing directory).settingsIn path = world.settingsIn path := by
  unfold settingsIn
  rw [readText_standing absolute]

theorem manifestIn_standing {path : Path} (absolute : path.isAbsolute = true)
    (directory : Path) : (world.standing directory).manifestIn path = world.manifestIn path := by
  unfold manifestIn
  rw [readText_standing absolute]

/-- A project is one for runs from every directory. -/
theorem Project.standing (holds : world.Project project settings manifest) (directory : Path) :
    (world.standing directory).Project project settings manifest := by
  have joined (name : Path) := Path.isAbsolute_join holds.absolute name
  have joinedToo (name : Path) := Path.isAbsolute_join (Path.isAbsolute_tidy holds.absolute) name
  refine ⟨holds.absolute, ?_, ?_, holds.names, fun name member => ?_, ?_⟩
  · rw [isFile_standing (joined _), holds.file]
  · rw [settingsIn_standing (joined _), holds.loads]
  · rw [isFile_standing (joined _), isFile_standing (joinedToo _), holds.spelled name member]
  · rw [readText_standing (joined _), readText_standing (joinedToo _), holds.reads]

/-- In a tree of files it makes no difference how the path of a project is closed. -/
theorem Project.ofTree {tree : Tree} (files : world.files = tree.files)
    (absolute : project.isAbsolute = true)
    (loads : world.settingsIn (project.join settingsName) =
      .ok ⟨settings, some (project.join settingsName)⟩)
    (file : world.isFile (project.join settingsName) = true)
    (names : settings.update.manifest = some manifest) :
    world.Project project settings manifest := by
  have isName : Path.IsName settingsName.chars := ⟨by decide, by decide, by decide⟩
  have isNameToo : Path.IsName packageName.chars := ⟨by decide, by decide, by decide⟩
  have follows := resolve_of_isFile (Path.isAbsolute_join absolute settingsName) file
  have followsToo := resolve_join_of_le absolute isName isNameToo (by decide) (by decide) follows
  refine ⟨absolute, file, loads, names, fun name member => ?_,
    readText_join_tidy files absolute isName follows⟩
  simp only [List.mem_cons, List.not_mem_nil, or_false] at member
  rcases member with rfl | rfl
  · exact isFile_join_tidy files absolute isNameToo followsToo
  · exact isFile_join_tidy files absolute isName follows

/-- What is not hidden is not hidden from runs in another directory. -/
theorem Unhidden.standing (absolute : place.isAbsolute = true)
    (clear : world.Unhidden place depth) (directory : Path) :
    (world.standing directory).Unhidden place depth := by
  constructor
  · intro above outer reached
    have root := Path.isAbsolute_ascend above absolute reached
    rw [isFile_standing (Path.isAbsolute_join root _), clear.noPackage above outer reached]
  · intro above before outer reached
    have root := Path.isAbsolute_ascend above absolute reached
    rw [isFile_standing (Path.isAbsolute_join root _), clear.noSettings above before outer reached]

/-! ## The settings that apply -/

/-- Without package descriptions on the way no file is named by one. -/
theorem Unhidden.unnamed (clear : world.Unhidden place depth) (path : Path) :
    ¬ world.Named place path := by
  rintro ⟨⟨above, _, outer, reached, rfl, file, _⟩, _, _, _, _, _⟩
  rw [clear.noPackage above outer reached] at file
  cases file

/-- The settings file so many steps above is found when the search goes that far. -/
theorem Unhidden.settingsFile {reached : Path} (clear : world.Unhidden place depth)
    (within : depth < mostDirectories) (leads : place.ascend depth = some reached)
    (file : world.isFile (reached.join settingsName) = true) :
    world.settingsFile place = some (reached.join settingsName) := by
  apply (result_findFrom_eq_some clear.unnamed).mpr
  exact .inl ⟨depth, within, reached, leads, rfl, file, clear.noSettings⟩

/-- A search that does not go that far leaves only the user's own file. -/
theorem Unhidden.settingsFile_of_far (clear : world.Unhidden place depth)
    (far : mostDirectories ≤ depth) :
    world.settingsFile place = (world.answer fromHome).result := by
  apply Option.ext
  intro path
  have decides : world.settingsFile place = some path ↔ _ := result_findFrom_eq_some clear.unnamed
  have none (nearest : Path) : ¬ world.Nearest settingsName mostDirectories place nearest := by
    rintro ⟨above, within, outer, reached, rfl, file, _⟩
    rw [clear.noSettings above (Nat.lt_of_lt_of_le within far) outer reached] at file
    cases file
  rw [decides, result_fromHome]
  constructor
  · rintro (nearest | ⟨_, own⟩)
    · exact absurd nearest (none path)
    · exact own
  · exact fun own => .inr ⟨none, own⟩

/-- What the search finds above a place is also not hidden from the project itself. -/
theorem Project.unhidden (holds : world.Project project settings manifest)
    (below : project.Below depth place) (clear : world.Unhidden place depth) :
    world.Unhidden project 0 := by
  obtain ⟨reached, leads, spelled⟩ := below.ascend_cases holds.absolute
  refine ⟨fun above outer further => ?_, fun above before => absurd before (Nat.not_lt_zero _)⟩
  have here := clear.noPackage depth reached leads
  cases above with
  | zero =>
      cases further
      rcases spelled with rfl | rfl
      · exact here
      · rwa [holds.spelled packageName (by simp)] at here
  | succ above =>
      apply clear.noPackage (depth + (above + 1)) outer
      rw [Path.ascend_add, leads, Option.bind_some]
      rcases spelled with rfl | rfl
      · exact further
      · rw [Path.ascend_tidy holds.absolute, further]

/-- The settings of a project apply to all places below it within reach. -/
theorem Project.settingsFile (holds : world.Project project settings manifest)
    (below : project.Below depth place) (clear : world.Unhidden place depth)
    (within : depth < mostDirectories) :
    ∃ directory, world.settingsFile place = some (directory.join settingsName) ∧
      (directory = project ∨ directory = project.tidy) := by
  obtain ⟨reached, leads, spelled⟩ := below.ascend_cases holds.absolute
  refine ⟨reached, clear.settingsFile within leads ?_, spelled⟩
  rcases spelled with rfl | rfl
  · exact holds.file
  · rw [holds.spelled settingsName (by simp), holds.file]

/-- In the project itself its settings file is found at once. -/
theorem Project.settingsFile_self (holds : world.Project project settings manifest)
    (clear : world.Unhidden project 0) :
    world.settingsFile project = some (project.join settingsName) :=
  clear.settingsFile (by decide) rfl holds.file

/-- The settings of a project are loaded however its path is closed. -/
theorem Project.settingsIn (holds : world.Project project settings manifest) {directory : Path}
    (spelled : directory = project ∨ directory = project.tidy) :
    world.settingsIn (directory.join settingsName) =
      .ok ⟨settings, some (directory.join settingsName)⟩ := by
  rcases spelled with rfl | rfl
  · exact holds.loads
  · obtain ⟨text, found, reads, parses, same⟩ := settingsIn_eq_ok.mp holds.loads
    obtain ⟨rfl, _⟩ := Loaded.mk.inj same
    exact settingsIn_eq_ok.mpr ⟨text, settings, holds.reads.trans reads, parses, rfl⟩

/-- Settings are discovered by loading the file that is found. -/
theorem result_discover_of_settingsFile {directory path : Path} {loaded : Loaded}
    (found : world.settingsFile directory = some path)
    (loads : world.settingsIn path = .ok loaded) :
    (world.answer (Settings.discover directory)).result = .ok loaded := by
  rw [← Steps.mapError_eq_ok, Command.result_discover, found]
  exact loads

end World

/-- A path in the settings of a project is taken from the project, however its path is closed. -/
theorem Loaded.resolve_project {project directory : Path} (absolute : project.isAbsolute = true)
    (spelled : directory = project ∨ directory = project.tidy) (settings : Settings)
    (path : Path) :
    Loaded.resolve ⟨settings, some (directory.join settingsName)⟩ path =
      if path.isAbsolute then path else project.tidy.join path := by
  have isName : Path.IsName settingsName.chars := ⟨by decide, by decide, by decide⟩
  have parent : (directory.join settingsName).parent? = some project.tidy := by
    rcases spelled with rfl | rfl
    · exact Path.parent?_join absolute isName
    · rw [Path.parent?_join (Path.isAbsolute_tidy absolute) isName, Path.tidy_tidy absolute]
  unfold Loaded.resolve
  rw [Option.bind_some, parent]

namespace Command

variable {world : World} {place project : Path} {depth : Nat} {settings : Settings}
  {manifest : String} {globals : Globals} {request : UpdateRequest}

/-- The manifest of a project is read by every check below it that is given nothing else. -/
theorem result_manifestPath_below (holds : world.Project project settings manifest)
    (absolute : place.isAbsolute = true) (below : project.Below depth place)
    (clear : world.Unhidden place depth) (within : depth < mostDirectories)
    (config : globals.config = none) (absent : request.manifest = none) :
    ((world.standing place).answer (manifestPath request globals)).result =
      .ok (if (Path.ofString manifest).isAbsolute then .ofString manifest
        else project.tidy.join (.ofString manifest)) := by
  have holdsHere := holds.standing place
  obtain ⟨directory, found, spelled⟩ :=
    holdsHere.settingsFile below (clear.standing absolute place) within
  have loads : (world.standing place).settingsFor globals =
      .ok ⟨settings, some (directory.join settingsName)⟩ := by
    have stands : (world.standing place).standpoint.directory = .ok place := rfl
    unfold World.settingsFor
    rw [config, stands]
    simp only
    rw [found]
    exact holdsHere.settingsIn spelled
  rw [← Loaded.resolve_project holds.absolute spelled settings]
  exact result_manifestPath.mpr (.configured absent loads holds.names)

/-- Runs that find the same latest version are seen alike. -/
theorem seen_run_congr {first second : World} (output : first.output = second.output)
    (latest : (first.answer (latestVersion request globals)).result =
      (second.answer (latestVersion request globals)).result)
    (wording : Toml.Wording) (setting : Option String) {arguments : List String}
    (accepted : read arguments = .ok ⟨globals, .checkUpdate request⟩) :
    (first.answer (run setting arguments wording)).seen =
      (second.answer (run setting arguments wording)).seen := by
  rw [seen_check setting accepted, seen_check setting accepted, latest, output]

/-- **Checks below a project.** Fewer than thirty names below a project whose settings file nothing
hides, the search for settings gives the same settings and the same file as in the project. A check
that is given no version, manifest or settings file reads in both places the manifest that the
settings name, taken from the project unless its path begins at the root. Both runs are seen alike:
they write the line about the version in that manifest, and fail without writing when the file
holds none. From thirty names below the settings file is not found. -/
theorem project_below (below : project.Below depth place)
    (holds : world.Project project settings manifest) (clear : world.Unhidden place depth) :
    (depth ≤ 29 →
      (∃ source,
        (world.answer (Settings.discover place)).result = .ok ⟨settings, some source⟩ ∧
        (world.answer (Settings.discover project)).result =
          .ok ⟨settings, some (project.join settingsName)⟩ ∧
        source.Respells (project.join settingsName) ∧
        (project.tidy = project → source = project.join settingsName)) ∧
      ∀ globals request, globals.config = none → request.latest = none → request.manifest = none →
        ∃ path,
          ((world.standing place).answer (manifestPath request globals)).result = .ok path ∧
          ((world.standing project).answer (manifestPath request globals)).result = .ok path ∧
          (let named := Path.ofString manifest
          (named.isAbsolute = true → path = named) ∧
          (named.isAbsolute = false → path.Respells (project.join named) ∧
            (project.tidy = project → path = project.join named))) ∧
          ∀ wording setting arguments, read arguments = .ok ⟨globals, .checkUpdate request⟩ →
            let here := (world.standing place).answer (run setting arguments wording)
            let there := (world.standing project).answer (run setting arguments wording)
            here.seen = there.seen ∧
            (∀ text latest, world.readText (.file path) = .ok text →
              Manifest.parse text = .ok ⟨latest⟩ →
              let line := utf8Bytes
                ((UpdateStatus.resolve (currentVersion request) latest).render ++ "\n")
              let delivered := Outlet.deliver world.output line
              there.output = delivered.2 ∧
              (there.result = if delivered.1.isOk then 0 else 1) ∧
              (world.output.TakesAll →
                there.result = 0 ∧ there.output.data = world.output.data ++ line)) ∧
            ((∀ text latest, world.readText (.file path) = .ok text →
                Manifest.parse text ≠ .ok ⟨latest⟩) →
              there.output = world.output ∧ there.result = 1)) ∧
    (30 ≤ depth →
      ∀ path, path.Respells (project.join settingsName) →
        (world.answer (Discovery.find (some place))).result ≠ some path) := by
  have absolute := holds.absolute
  have absoluteToo := below.absolute absolute
  have unhidden := holds.unhidden below clear
  have relative : settingsName.isAbsolute = false := by decide
  refine ⟨fun near => ⟨?_, ?_⟩, fun far path spelled finds => ?_⟩
  · have within : depth < mostDirectories := Nat.lt_succ_of_le near
    obtain ⟨directory, found, spelled⟩ := holds.settingsFile below clear within
    have found := World.result_discover_of_settingsFile found (holds.settingsIn spelled)
    have foundToo :=
      World.result_discover_of_settingsFile (holds.settingsFile_self unhidden) holds.loads
    refine ⟨directory.join settingsName, found, foundToo, ?_, ?_⟩
    · rcases spelled with rfl | rfl
      · have root := Path.isAbsolute_join absolute settingsName
        exact ⟨root, root, rfl⟩
      · exact Path.respells_join absolute relative
    · rintro tidied
      rcases spelled with rfl | rfl
      · rfl
      · rw [tidied]
  · intro globals request config latest absent
    have within : depth < mostDirectories := Nat.lt_succ_of_le near
    have here := result_manifestPath_below holds absoluteToo below clear within config absent
    have there := result_manifestPath_below holds absolute .here unhidden (by decide) config absent
    have root : (if (Path.ofString manifest).isAbsolute then Path.ofString manifest
        else project.tidy.join (.ofString manifest)).isAbsolute = true := by
      split
      · assumption
      · exact Path.isAbsolute_join (Path.isAbsolute_tidy absolute) _
    refine ⟨_, here, there, ⟨fun outside => if_pos outside, fun inside => ?_⟩, ?_⟩
    · rw [if_neg (by rw [inside]; exact Bool.false_ne_true)]
      refine ⟨Path.respells_join absolute inside, ?_⟩
      intro tidied
      rw [tidied]
    intro wording setting arguments accepted
    have same : ((world.standing place).answer (latestVersion request globals)).result =
        ((world.standing project).answer (latestVersion request globals)).result := by
      rw [result_latestVersion_of_absent latest, result_latestVersion_of_absent latest, here,
        there]
      simp only [Except.bind]
      rw [World.manifestIn_standing root, World.manifestIn_standing root]
    obtain ⟨writes, fails⟩ := check_of_manifest latest there setting accepted
    rw [World.readText_standing root] at writes fails
    have output : (world.standing place).output = (world.standing project).output := rfl
    refine ⟨seen_run_congr output same wording setting accepted, ?_, fails⟩
    intro text version reads states line delivered
    obtain ⟨output, result⟩ := writes text version reads states
    refine ⟨output, result, fun takes => ?_⟩
    obtain ⟨succeeds, whole⟩ := takes.deliver line
    refine ⟨result.trans (if_pos ?_), (congrArg Sink.data output).trans whole⟩
    exact congrArg Except.isOk succeeds
  -- Only the user's own file is left, and that has another name.
  · have own : world.settingsFile place = some path := finds
    rw [clear.settingsFile_of_far far, World.result_fromHome] at own
    obtain ⟨home, _, rfl, _⟩ := own
    have isName : Path.IsName settingsName.chars := ⟨by decide, by decide, by decide⟩
    have isNameToo : Path.IsName homeName.chars := ⟨by decide, by decide, by decide⟩
    have names := spelled.names
    rw [Path.names_join relative, Path.names_join (by decide), Path.names_of_isName isName,
      Path.names_of_isName isNameToo] at names
    have last := congrArg List.getLast? names
    rw [List.getLast?_concat, List.getLast?_concat] at last
    exact absurd last (by decide)

/-- Two directories below a project whose settings name a manifest beside them, which names a newer
release. -/
theorem project_below_subdirectory :
    let project : Path := .ofString "/p"
    let place : Path := .ofString "/p/a/b"
    let source : Path := .ofString "/p/hintpane.toml"
    let configured := "[update]\nmanifest = \"m.json\"\n"
    let release := "\x7b\"version\":\"2.0.0\"\x7d"
    let tree : Tree :=
      ((Tree.empty.makeDirectories [] place).1.place [] source (.file (utf8Bytes configured))).place
        [] (.ofString "/p/m.json") (.file (utf8Bytes release))
    let world : World := ⟨tree.files, ⟨.ofString "/", 0⟩, none, [], .unbounded⟩
    let settings : Settings := ⟨.default, ⟨some "m.json"⟩⟩
    let here := world.standing place
    let there := world.standing project
    let arguments := ["check-update", "--current", "1.0.0"]
    let line := utf8Bytes ("update available: 1.0.0 -> 2.0.0" ++ "\n")
    (world.answer (Settings.discover place)).result = .ok ⟨settings, some source⟩ ∧
    (here.answer (manifestPath ⟨some "1.0.0", none, none⟩ ⟨false, false, none⟩)).result =
      .ok (.ofString "/p/m.json") ∧
    (here.answer (run none arguments)).seen = (there.answer (run none arguments)).seen ∧
    (here.answer (run none arguments)).result = 0 ∧
    (here.answer (run none arguments)).output.data = line ∧
    (there.answer (run none arguments)).result = 0 ∧
    (there.answer (run none arguments)).output.data = line := by
  intro project place source configured release tree world settings here there arguments line
  have isName : Path.IsName ['a'] := ⟨by decide, by decide, by decide⟩
  have isNameToo : Path.IsName ['b'] := ⟨by decide, by decide, by decide⟩
  have below : project.Below 2 place := .inside (.inside .here isName) isNameToo
  have read : world.readText (.file source) = .ok configured :=
    World.readText_of_readFile (Steps.toOption_eq_some.mp (by decide +kernel))
  have parses : Settings.parse configured = .ok settings :=
    Steps.toOption_eq_some.mp (by decide +kernel)
  have loads : world.settingsIn source = .ok ⟨settings, some source⟩ :=
    World.settingsIn_eq_ok.mpr ⟨_, settings, read, parses, rfl⟩
  have holds : world.Project project settings "m.json" :=
    .ofTree rfl (by decide) loads (by decide +kernel) rfl
  have clear : world.Unhidden place 2 := by
    refine ⟨fun above outer reached => ?_, by decide +kernel⟩
    have near : ∀ above < 4, ∀ outer, place.ascend above = some outer →
        world.isFile (outer.join packageName) = false := by
      decide +kernel
    by_cases inside : above < 4
    · exact near above inside outer reached
    · obtain ⟨more, rfl⟩ := Nat.exists_eq_add_of_le (Nat.le_of_not_lt inside)
      have root : place.ascend 4 = none := by decide
      rw [Path.ascend_add, root] at reached
      cases reached
  have accepted : Command.read arguments =
      .ok ⟨⟨false, false, none⟩, .checkUpdate ⟨some "1.0.0", none, none⟩⟩ := by
    unfold arguments
    cbv
  have held : world.readText (.file (.ofString "/p/m.json")) = .ok release :=
    World.readText_of_readFile (Steps.toOption_eq_some.mp (by decide +kernel))
  have states : Manifest.parse release = .ok ⟨"2.0.0"⟩ :=
    Steps.toOption_eq_some.mp (by decide +kernel)
  have tidied : project.tidy = project := by decide
  have joined : project.join settingsName = source := by decide
  have beside : project.join (.ofString "m.json") = .ofString "/p/m.json" := by decide
  have takes : world.output.TakesAll := ⟨by decide, rfl, rfl⟩
  have nothing : world.output.data = [] := rfl
  have reported : (UpdateStatus.resolve "1.0.0" "2.0.0").render =
      "update available: 1.0.0 -> 2.0.0" := by decide +kernel
  have current : currentVersion ⟨some "1.0.0", none, none⟩ = "1.0.0" := rfl
  -- The rest follows from these facts, whatever else is in the world.
  clear_value world
  unfold here there line
  obtain ⟨⟨found, finds, _, _, same⟩, runs⟩ := (project_below below holds clear).1 (by decide)
  obtain ⟨path, manifest, _, ⟨_, inside⟩, checks⟩ :=
    runs ⟨false, false, none⟩ ⟨some "1.0.0", none, none⟩ rfl rfl rfl
  have path_eq := (inside (by decide)).2 tidied
  rw [beside] at path_eq
  subst path_eq
  obtain ⟨alike, writes, _⟩ := checks .brief none arguments accepted
  obtain ⟨_, _, succeeds⟩ := writes release "2.0.0" held states
  obtain ⟨result, output⟩ := succeeds takes
  rw [nothing, List.nil_append, current, reported] at output
  obtain ⟨results, outputs, _⟩ := Transcript.seen_inj.mp alike
  refine ⟨?_, manifest, alike, results.trans result, ?_, result, output⟩
  · rw [finds, same tidied, joined]
  · rw [outputs, output]

end Command

end LintReport
