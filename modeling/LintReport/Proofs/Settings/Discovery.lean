import Mathlib
import LintReport.Proofs.Files.Path
import LintReport.Proofs.Settings.Search
import LintReport.Proofs.Settings.Silent

/-!
# Which settings file applies

Three places are asked one after the other. The nearest package description on the way up decides
alone whether it names a settings file (`World.Named`); if it does not, for whatever reason, the
nearest settings file applies (`World.Nearest`), and else the user's own one (`World.AtHome`).
A package description that names no file is as good as none (`Discovery.find_decided`).
-/

namespace LintReport

open Discovery

namespace World

variable {world other : World}

/-- The nearest file of a name among so many directories on the way up. -/
def Nearest (world : World) (name : Path) (depth : Nat) (start found : Path) : Prop :=
  ∃ above < depth, ∃ place, start.ascend above = some place ∧ found = place.join name ∧
    world.isFile found = true ∧
    ∀ nearer < above, ∀ passed, start.ascend nearer = some passed →
      world.isFile (passed.join name) = false

/-- The file that the nearest package description names. -/
inductive Named (world : World) (start : Path) : Path → Prop
  | intro {package directory : Path} {text name : String} {members : Members}
      (nearest : world.Nearest packageName mostDirectories start package)
      (reads : world.readText (.file package) = .ok text)
      (parses : Json.parse text = .ok (.object members))
      (names : members.get? packageKey = some (.string name))
      (inside : package.parent? = some directory)
      (file : world.isFile (directory.join (.ofString name)) = true) :
      Named world start (directory.join (.ofString name))

/-- The user's own settings file. -/
def AtHome (world : World) (path : Path) : Prop :=
  ∃ home, world.home = some home ∧ path = home.join homeName ∧ world.isFile path = true

/-- Two worlds that hold the same of the user's own settings file. -/
structure SameHome (world other : World) : Prop where
  home : other.home = world.home
  own : ∀ home, world.home = some home →
    other.isFile (home.join homeName) = world.isFile (home.join homeName)

/-- The search finds the nearest file, the first of its candidates. -/
theorem result_findUp {name : Path} {depth : Nat} {start found : Path} :
    (world.answer (findUp name depth start)).result = some found ↔
      world.Nearest name depth start found := by
  rw [result_of_searched (searched_findUp world.isFile name depth start), find?_candidates_eq_some]
  simp only [Path.getElem?_wayUp]
  rfl

/-- There is only one nearest file. -/
theorem Nearest.unique {name : Path} {depth : Nat} {start first second : Path}
    (one : world.Nearest name depth start first) (two : world.Nearest name depth start second) :
    first = second :=
  Option.some.inj ((result_findUp.mpr one).symm.trans (result_findUp.mpr two))

/-- The nearest file depends only on which of the paths that are tried lead to files. -/
theorem Nearest.congr {name : Path} {depth : Nat} {start found : Path}
    (same : ∀ above < depth, ∀ place, start.ascend above = some place →
      other.isFile (place.join name) = world.isFile (place.join name))
    (nearest : world.Nearest name depth start found) : other.Nearest name depth start found := by
  obtain ⟨above, within, place, reached, rfl, file, passed⟩ := nearest
  refine ⟨above, within, place, reached, rfl, ?_, ?_⟩
  · rw [same above within place reached, file]
  · intro nearer before skipped there
    rw [same nearer (Nat.lt_trans before within) skipped there, passed nearer before skipped there]

/-- A package description names a file when it is an object with a text under the key. -/
theorem namedPath?_eq_some {package path : Path} {description : Json} :
    namedPath? package description = some path ↔
      ∃ (members : Members) (name : String) (directory : Path),
      description = .object members ∧ members.get? packageKey = some (.string name) ∧
      package.parent? = some directory ∧ path = directory.join (.ofString name) := by
  unfold namedPath?
  simp only [Option.bind_eq_bind, Option.bind_eq_some_iff, Option.pure_def, Option.some.injEq]
  constructor
  · rintro ⟨name, ⟨value, member, text⟩, directory, inside, rfl⟩
    cases description with
    | object members =>
        cases value with
        | string given =>
            cases text
            exact ⟨members, name, directory, rfl, member, inside, rfl⟩
        | _ => cases text
    | _ => cases member
  · rintro ⟨members, name, directory, rfl, member, inside, rfl⟩
    exact ⟨name, ⟨.string name, member, rfl⟩, directory, inside, rfl⟩

/-- A path is kept when it leads to a file. -/
theorem result_ifFile (path : Path) :
    (world.answer (ifFile path)).result = if world.isFile path then some path else none := by
  unfold ifFile
  rw [result_bind (.askFile _), result_askFile, result_pure]

/-- Only the path itself is kept, and only when it leads to a file. -/
theorem result_ifFile_eq_some {path found : Path} :
    (world.answer (ifFile path)).result = some found ↔
      found = path ∧ world.isFile path = true := by
  rw [result_ifFile]
  cases world.isFile path with
  | true => simp only [↓reduceIte, Option.some.injEq, and_true, eq_comm]
  | false => simp only [Bool.false_eq_true, ↓reduceIte, reduceCtorEq, and_false]

/-- A package description supplies the file that it names, if there is one. -/
theorem result_fromPackage {package path : Path} :
    (world.answer (fromPackage package)).result = some path ↔
      ∃ (text : String) (members : Members) (name : String) (directory : Path),
      world.readText (.file package) = .ok text ∧ Json.parse text = .ok (.object members) ∧
      members.get? packageKey = some (.string name) ∧ package.parent? = some directory ∧
      path = directory.join (.ofString name) ∧ world.isFile path = true := by
  unfold fromPackage
  rw [result_bind (.askText _), result_askText]
  cases world.readText (.file package) with
  | error error => simp only [result_pure, reduceCtorEq, false_and, exists_false]
  | ok text =>
      simp only [Except.ok.injEq, exists_and_left, exists_eq_left']
      cases Json.parse text with
      | error error =>
          simp only [result_noteAll, result_pure, reduceCtorEq, false_and, exists_false]
      | ok description =>
          simp only [Except.ok.injEq]
          constructor
          · intro finds
            cases named : namedPath? package description with
            | none =>
                rw [named] at finds
                cases finds
            | some found =>
                rw [named] at finds
                obtain ⟨rfl, file⟩ := result_ifFile_eq_some.mp finds
                obtain ⟨members, name, directory, rfl, names, inside, rfl⟩ :=
                  namedPath?_eq_some.mp named
                exact ⟨members, rfl, name, names, directory, inside, rfl, file⟩
          · rintro ⟨members, rfl, name, names, directory, inside, rfl, file⟩
            rw [namedPath?_eq_some.mpr ⟨members, name, directory, rfl, names, inside, rfl⟩]
            exact result_ifFile_eq_some.mpr ⟨rfl, file⟩

/-- The step of the package description supplies the file that it names. -/
theorem result_fromNearestPackage {start path : Path} :
    (world.answer (fromNearestPackage start)).result = some path ↔ world.Named start path := by
  unfold fromNearestPackage
  rw [result_bind (silent_findUp _ _ _)]
  constructor
  · intro finds
    cases nearest : (world.answer (findUp packageName mostDirectories start)).result with
    | none =>
        rw [nearest] at finds
        cases finds
    | some package =>
        rw [nearest] at finds
        obtain ⟨text, members, name, directory, reads, parses, names, inside, rfl, file⟩ :=
          result_fromPackage.mp finds
        exact .intro (result_findUp.mp nearest) reads parses names inside file
  · intro named
    cases named with
    | intro nearest reads parses names inside file =>
        rw [result_findUp.mpr nearest]
        exact result_fromPackage.mpr ⟨_, _, _, _, reads, parses, names, inside, rfl, file⟩

/-- The last step supplies the user's own settings file. -/
theorem result_fromHome {path : Path} :
    (world.answer fromHome).result = some path ↔ world.AtHome path := by
  unfold fromHome AtHome
  have asks : (world.answer Inquiry.askHome).result = world.home := rfl
  rw [result_bind .askHome, asks]
  cases world.home with
  | none => simp only [result_pure, reduceCtorEq, false_and, exists_false]
  | some home =>
      simp only [Option.some.injEq, exists_eq_left']
      rw [result_bind (silent_ifFile _), result_ifFile]
      cases file : world.isFile (home.join homeName) with
      | true =>
          simp only [↓reduceIte, result_noteAll, result_pure, Option.some.injEq]
          constructor
          · rintro rfl
            exact ⟨rfl, file⟩
          · rintro ⟨rfl, _⟩
            rfl
      | false =>
          simp only [Bool.false_eq_true, ↓reduceIte, result_pure, reduceCtorEq, false_iff]
          rintro ⟨rfl, impossible⟩
          rw [file] at impossible
          cases impossible

/-- The first of the three places that has a file decides. -/
theorem result_findFrom (world : World) (start : Path) :
    (world.answer (findFrom start)).result =
      ((world.answer (fromNearestPackage start)).result.or
        (world.answer (findUp settingsName mostDirectories start)).result).or
        (world.answer fromHome).result := by
  unfold findFrom
  rw [result_bind (silent_fromNearestPackage start)]
  cases (world.answer (fromNearestPackage start)).result with
  | some path => rfl
  | none =>
      simp only
      rw [result_bind (silent_findUp _ _ start)]
      cases (world.answer (findUp settingsName mostDirectories start)).result with
      | some path => rfl
      | none => rfl

/-- The user's own settings file is the same in both worlds. -/
theorem SameHome.atHome_iff (same : world.SameHome other) {path : Path} :
    other.AtHome path ↔ world.AtHome path := by
  unfold AtHome
  rw [same.home]
  constructor
  · rintro ⟨home, given, rfl, file⟩
    exact ⟨home, given, rfl, same.own home given ▸ file⟩
  · rintro ⟨home, given, rfl, file⟩
    exact ⟨home, given, rfl, (same.own home given).trans file⟩

/-- What the user's own file gives depends on nothing else. -/
theorem result_fromHome_congr (same : world.SameHome other) :
    (other.answer fromHome).result = (world.answer fromHome).result := by
  apply Option.ext
  intro path
  rw [result_fromHome, result_fromHome, same.atHome_iff]

/-- Where no package description names a file, the other two places decide. -/
theorem result_findFrom_of_unnamed {start : Path} (unnamed : ∀ path, ¬ world.Named start path) :
    (world.answer (findFrom start)).result =
      (world.answer (findUp settingsName mostDirectories start)).result.or
        (world.answer fromHome).result := by
  have nothing : (world.answer (fromNearestPackage start)).result = none :=
    Option.eq_none_iff_forall_ne_some.mpr fun path finds =>
      unnamed path (result_fromNearestPackage.mp finds)
  rw [result_findFrom, nothing, Option.none_or]

/-- The file that the nearest package description names comes first. -/
theorem result_findFrom_of_named {start path : Path} (named : world.Named start path) :
    (world.answer (findFrom start)).result = some path := by
  rw [result_findFrom, result_fromNearestPackage.mpr named, Option.some_or, Option.some_or]

/-- What a package description names is a file. -/
theorem Named.file {start path : Path} (named : world.Named start path) :
    world.isFile path = true := by
  cases named with
  | intro _ _ _ _ _ file => exact file

theorem Nearest.file {name : Path} {depth : Nat} {start found : Path}
    (nearest : world.Nearest name depth start found) : world.isFile found = true := by
  obtain ⟨_, _, _, _, _, file, _⟩ := nearest
  exact file

theorem AtHome.file {path : Path} (own : world.AtHome path) : world.isFile path = true := by
  obtain ⟨_, _, _, file⟩ := own
  exact file

/-- Where no package description names a file, the nearest settings file is found, or else the
user's own one. -/
theorem result_findFrom_eq_some {start path : Path} (unnamed : ∀ path, ¬ world.Named start path) :
    (world.answer (findFrom start)).result = some path ↔
      world.Nearest settingsName mostDirectories start path ∨
      (∀ nearest, ¬ world.Nearest settingsName mostDirectories start nearest) ∧
        world.AtHome path := by
  rw [result_findFrom_of_unnamed unnamed, Option.or_eq_some_iff, result_findUp, result_fromHome,
    Option.eq_none_iff_forall_ne_some]
  simp only [ne_eq, result_findUp]

/-- What is found is a file. -/
theorem isFile_of_find {start : Option Path} {path : Path}
    (finds : (world.answer (find start)).result = some path) : world.isFile path = true := by
  cases start with
  | none => exact (result_fromHome.mp finds).file
  | some start =>
      by_cases named : ∃ given, world.Named start given
      · obtain ⟨given, named⟩ := named
        obtain rfl : given = path :=
          Option.some.inj ((result_findFrom_of_named named).symm.trans finds)
        exact named.file
      · rcases (result_findFrom_eq_some (not_exists.mp named)).mp finds with nearest | ⟨_, own⟩
        · exact nearest.file
        · exact own.file

end World

namespace Discovery

/-- **Which settings file applies.** What is found is a file. The nearest package description on
the way up supplies it exactly when it is a text, holds a JSON object, and this names a file, taken
from the directory of the description. In every other case the outcome is as in any world without
package descriptions: the nearest settings file on the way up, else the user's own one, else none.
Without a directory to start from only the user's own file counts. -/
theorem find_decided (world : World) (start : Option Path) :
    let found := (world.answer (find start)).result
    (∀ path, found = some path → world.isFile path = true) ∧
    (∀ place, start = some place →
      (∀ path, (world.answer (fromNearestPackage place)).result = some path ↔
        world.Named place path) ∧
      (∀ path, world.Named place path → found = some path) ∧
      ((∀ path, ¬ world.Named place path) →
        (∀ path, found = some path ↔ world.Nearest settingsName mostDirectories place path ∨
          (∀ nearest, ¬ world.Nearest settingsName mostDirectories place nearest) ∧
            world.AtHome path) ∧
        ∀ other : World, world.SameHome other →
          (∀ above < mostDirectories, ∀ passed, place.ascend above = some passed →
            other.isFile (passed.join packageName) = false ∧
            other.isFile (passed.join settingsName) = world.isFile (passed.join settingsName)) →
          (other.answer (find start)).result = found)) ∧
    (start = none → (∀ path, found = some path ↔ world.AtHome path) ∧
      ∀ other : World, world.SameHome other → (other.answer (find start)).result = found) := by
  intro found
  refine ⟨fun path => World.isFile_of_find, ?_, ?_⟩
  · rintro place rfl
    refine ⟨fun path => World.result_fromNearestPackage,
      fun path => World.result_findFrom_of_named, fun unnamed => ⟨?_, ?_⟩⟩
    · exact fun path => World.result_findFrom_eq_some unnamed
    · intro other sameHome alike
      have unnamedToo : ∀ path, ¬ other.Named place path := by
        rintro path ⟨⟨above, within, passed, reached, rfl, file, _⟩, _, _, _, _, _⟩
        rw [(alike above within passed reached).1] at file
        cases file
      have nearest : (other.answer (findUp settingsName mostDirectories place)).result =
          (world.answer (findUp settingsName mostDirectories place)).result := by
        apply Option.ext
        intro path
        rw [World.result_findUp, World.result_findUp]
        constructor
        · apply World.Nearest.congr
          exact fun above within passed reached => (alike above within passed reached).2.symm
        · apply World.Nearest.congr
          exact fun above within passed reached => (alike above within passed reached).2
      have first : (other.answer (findFrom place)).result = _ :=
        World.result_findFrom_of_unnamed unnamedToo
      have second : found = _ := World.result_findFrom_of_unnamed unnamed
      rw [second, ← nearest, ← World.result_fromHome_congr sameHome]
      exact first
  · rintro rfl
    exact ⟨fun path => World.result_fromHome, fun other => World.result_fromHome_congr⟩

/-- A description whose file is there, one whose file is missing, and no description. -/
theorem find_decided_dangling :
    let place : Path := .ofString "/p/s"
    let package : Path := .ofString "/p/package.json"
    let given : Path := .ofString "/p/lint.toml"
    let project : Path := .ofString "/p/hintpane.toml"
    let own : Path := .ofString "/h/.hintpane.toml"
    let among (present : List Path) : World := ⟨⟨(· ∈ present), fun path =>
      if path = package then .ok (utf8Bytes "\x7b\"hintpaneConfig\":\"lint.toml\"\x7d")
      else .error .notFound⟩, ⟨.ofString "/", 0⟩, some (.ofString "/h"), [], .unbounded⟩
    let complete := among [package, given, project, own]
    let dangling := among [package, project, own]
    let plain := among [project, own]
    (complete.answer (find (some place))).result = some given ∧
    (dangling.answer (find (some place))).result = some project ∧
    (plain.answer (find (some place))).result = some project ∧
    (complete.answer (find none)).result = some own ∧
    (plain.answer (find none)).result = some own := by
  intro place package given project own among complete dangling plain
  have reads (present : List Path) : (among present).readText (.file package) =
      .ok "\x7b\"hintpaneConfig\":\"lint.toml\"\x7d" :=
    World.readText_of_readFile rfl
  have parses : Json.parse "\x7b\"hintpaneConfig\":\"lint.toml\"\x7d" =
      .ok (.object [("hintpaneConfig", .string "lint.toml")]) := by
    cbv
  have stands {world : World} (name : Path)
      (file : world.isFile ((Path.ofString "/p").join name) = true)
      (absent : world.isFile (place.join name) = false) :
      world.Nearest name mostDirectories place ((Path.ofString "/p").join name) := by
    refine ⟨1, by decide, .ofString "/p", by decide, rfl, file, ?_⟩
    intro nearer before passed reached
    obtain rfl : nearer = 0 := Nat.lt_one_iff.mp before
    cases reached
    exact absent
  have named : complete.Named place given :=
    .intro (stands packageName (by decide) (by decide)) (reads _) parses rfl
      (by decide : package.parent? = some (.ofString "/p")) (by decide)
  have dangles : ∀ path, ¬ dangling.Named place path := by
    rintro path ⟨nearest, readsToo, parsesToo, names, inside, file⟩
    obtain rfl := (stands packageName (by decide) (by decide)).unique nearest
    cases (reads _).symm.trans readsToo
    cases parses.symm.trans parsesToo
    cases names
    cases inside
    exact absurd file (by decide)
  have same : complete.SameHome plain := ⟨rfl, fun home given => by cases given; decide⟩
  have sameToo : dangling.SameHome plain := ⟨rfl, fun home given => by cases given; decide⟩
  have alike : ∀ above < mostDirectories, ∀ passed, place.ascend above = some passed →
      plain.isFile (passed.join packageName) = false ∧
      plain.isFile (passed.join settingsName) = dangling.isFile (passed.join settingsName) := by
    decide
  obtain ⟨decides, others⟩ := ((find_decided dangling (some place)).2.1 place rfl).2.2 dangles
  have project : (dangling.answer (find (some place))).result = some project :=
    (decides _).mpr (.inl (stands settingsName (by decide) (by decide)))
  have atHome : complete.AtHome own := ⟨_, rfl, by decide, by decide⟩
  obtain ⟨_, _, alone⟩ := find_decided complete none
  have found := (alone rfl).1 own |>.mpr atHome
  exact ⟨((find_decided complete (some place)).2.1 place rfl).2.1 _ named, project,
    (others plain sameToo alike).trans project, found,
    ((alone rfl).2 plain same).trans found⟩

end Discovery

end LintReport
