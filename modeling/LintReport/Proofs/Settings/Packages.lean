import Mathlib
import LintReport.Proofs.Settings.Discovery

/-!
# Package descriptions above one another

Several directories on the way up may hold a package description (`World.Describes`), and several of
these may name a settings file (`World.Offers`). Only the nearest description is consulted. So the
nearest offer is taken if no other description is nearer (`World.named_iff`); a nearer one hides it,
and every offer farther up, even though it offers nothing itself (`World.Describes.unnamed`).
-/

namespace LintReport

open Discovery

namespace World

variable {world other : World} {start path : Path} {above : Nat}

/-- So many directories up, there is a package description. -/
def Describes (world : World) (start : Path) (above : Nat) : Prop :=
  above < mostDirectories ∧ ∃ place, start.ascend above = some place ∧
    world.isFile (place.join packageName) = true

/-- So many directories up, there is a package description that names a file. -/
inductive Offers (world : World) (start : Path) (above : Nat) : Path → Prop
  | intro {place directory : Path} {text name : String} {members : Members}
      (within : above < mostDirectories)
      (reached : start.ascend above = some place)
      (stands : world.isFile (place.join packageName) = true)
      (reads : world.readText (.file (place.join packageName)) = .ok text)
      (parses : Json.parse text = .ok (.object members))
      (names : members.get? packageKey = some (.string name))
      (inside : (place.join packageName).parent? = some directory)
      (file : world.isFile (directory.join (.ofString name)) = true) :
      Offers world start above (directory.join (.ofString name))

/-- The file that counts is offered by a description with none before it. -/
theorem named_iff :
    world.Named start path ↔
      ∃ above, world.Offers start above path ∧
        ∀ nearer < above, ¬ world.Describes start nearer := by
  constructor
  · rintro ⟨⟨above, within, place, reached, rfl, stands, none⟩, reads, parses, names, inside, file⟩
    refine ⟨above, .intro within reached stands reads parses names inside file, ?_⟩
    rintro nearer before ⟨_, passed, there, described⟩
    cases (none nearer before passed there).symm.trans described
  · rintro ⟨above, ⟨within, reached, stands, reads, parses, names, inside, file⟩, none⟩
    refine .intro ⟨above, within, _, reached, rfl, stands, ?_⟩ reads parses names inside file
    intro nearer before passed there
    apply Bool.eq_false_iff.mpr
    intro described
    exact none nearer before ⟨Nat.lt_trans before within, passed, there, described⟩

/-- A description hides every offer beyond it. -/
theorem Describes.unnamed (describes : world.Describes start above)
    (useless : ∀ nearer ≤ above, ∀ path, ¬ world.Offers start nearer path) (path : Path) :
    ¬ world.Named start path := by
  intro named
  obtain ⟨level, offers, first⟩ := named_iff.mp named
  -- Up to here nothing is offered, and beyond here the offer would not be the first description.
  have beyond : above < level := by
    by_contra within
    exact useless level (Nat.le_of_not_lt within) path offers
  exact first above beyond describes

/-- Where no package description names a file, the result depends on the settings files only. -/
theorem result_findFrom_congr (sameHome : world.SameHome other)
    (alike : ∀ above < mostDirectories, ∀ place, start.ascend above = some place →
      other.isFile (place.join settingsName) = world.isFile (place.join settingsName))
    (unnamed : ∀ path, ¬ world.Named start path) (unnamedToo : ∀ path, ¬ other.Named start path) :
    (other.answer (findFrom start)).result = (world.answer (findFrom start)).result := by
  have nearest (path : Path) : other.Nearest settingsName mostDirectories start path ↔
      world.Nearest settingsName mostDirectories start path :=
    ⟨Nearest.congr fun above within place reached => (alike above within place reached).symm,
      Nearest.congr alike⟩
  apply Option.ext
  intro path
  rw [result_findFrom_eq_some unnamed, result_findFrom_eq_some unnamedToo, sameHome.atHome_iff]
  simp only [nearest]

end World

namespace Discovery

/-- **A package description hides those above it.** Take the nearest package description on the way
up that names a file. If no package description is nearer, the file is found. If one is, then the
nearest settings file is found, else the user's own one, else none; and so it is in every world
with the same settings files in which a description stands there and neither it nor one before it
names a file, whatever the descriptions beyond it hold. -/
theorem find_offered {world : World} {start path : Path} {above : Nat}
    (offered : world.Offers start above path)
    (nearest : ∀ nearer < above, ∀ other, ¬ world.Offers start nearer other) :
    let found := (world.answer (find (some start))).result
    ((∀ nearer < above, ¬ world.Describes start nearer) → found = some path) ∧
    ∀ nearer < above, world.Describes start nearer →
      (∀ path, found = some path ↔ world.Nearest settingsName mostDirectories start path ∨
        (∀ nearest, ¬ world.Nearest settingsName mostDirectories start nearest) ∧
          world.AtHome path) ∧
      ∀ other : World, world.SameHome other →
        (∀ above < mostDirectories, ∀ place, start.ascend above = some place →
          other.isFile (place.join settingsName) = world.isFile (place.join settingsName)) →
        other.Describes start nearer →
        (∀ level ≤ nearer, ∀ path, ¬ other.Offers start level path) →
        (other.answer (find (some start))).result = found := by
  intro found
  constructor
  · intro alone
    exact World.result_findFrom_of_named (World.named_iff.mpr ⟨above, offered, alone⟩)
  · intro nearer before describes
    have unnamed : ∀ path, ¬ world.Named start path :=
      describes.unnamed fun level within => nearest level (Nat.lt_of_le_of_lt within before)
    refine ⟨fun path => World.result_findFrom_eq_some unnamed, ?_⟩
    intro other sameHome alike describesToo useless
    exact World.result_findFrom_congr sameHome alike unnamed (describesToo.unnamed useless)

/-- A world with these files, in which package descriptions in `/p` and in `/p/s` have these
texts. -/
def nestedWorld (present : List Path) (outer inner : String) : World :=
  ⟨⟨(· ∈ present), fun path =>
      if path = .ofString "/p/package.json" then .ok (utf8Bytes outer)
      else if path = .ofString "/p/s/package.json" then .ok (utf8Bytes inner)
      else .error .notFound⟩,
    ⟨.ofString "/", 0⟩, none, [], .unbounded⟩

/-- The outer description offers its file, one step above the start. -/
theorem offers_nestedWorld {present : List Path} {inner : String}
    (stands : .ofString "/p/package.json" ∈ present) (file : .ofString "/p/lint.toml" ∈ present) :
    (nestedWorld present "\x7b\"hintpaneConfig\":\"lint.toml\"\x7d" inner).Offers
      (.ofString "/p/s") 1 (.ofString "/p/lint.toml") := by
  have package : (Path.ofString "/p").join packageName = .ofString "/p/package.json" := by decide
  have given : (Path.ofString "/p").join (.ofString "lint.toml") = .ofString "/p/lint.toml" := by
    decide
  have parses : Json.parse "\x7b\"hintpaneConfig\":\"lint.toml\"\x7d" =
      .ok (.object [("hintpaneConfig", .string "lint.toml")]) := by
    cbv
  have reached : (Path.ofString "/p/s").ascend 1 = some (.ofString "/p") := by decide
  have inside : ((Path.ofString "/p").join packageName).parent? = some (.ofString "/p") := by decide
  rw [← given]
  refine .intro (by decide) reached ?_ (World.readText_of_readFile ?_) parses rfl inside ?_
  · rw [package]
    exact decide_eq_true stands
  · rw [package]
    rfl
  · rw [given]
    exact decide_eq_true file

/-- The inner description is empty and offers nothing. -/
theorem not_offers_nestedWorld (present : List Path) (outer : String) (path : Path) :
    ¬ (nestedWorld present outer "\x7b\x7d").Offers (.ofString "/p/s") 0 path := by
  rintro ⟨_, reached, _, reads, parses, names, _, _⟩
  cases reached
  have package : (Path.ofString "/p/s").join packageName = .ofString "/p/s/package.json" := by
    decide
  have text : (nestedWorld present outer "\x7b\x7d").readText
      (.file (.ofString "/p/s/package.json")) = .ok "\x7b\x7d" :=
    World.readText_of_readFile rfl
  have empty : Json.parse "\x7b\x7d" = .ok (.object []) := by cbv
  rw [package] at reads
  cases text.symm.trans reads
  cases empty.symm.trans parses
  cases names

/-- An offer that stands alone, one that an empty description hides, and none at all behind it. -/
theorem find_offered_nested :
    let start : Path := .ofString "/p/s"
    let given : Path := .ofString "/p/lint.toml"
    let settings : Path := .ofString "/p/hintpane.toml"
    let inner : Path := .ofString "/p/s/package.json"
    let files : List Path := [.ofString "/p/package.json", given, settings]
    let offer := "\x7b\"hintpaneConfig\":\"lint.toml\"\x7d"
    let alone := nestedWorld files offer "\x7b\x7d"
    let hidden := nestedWorld (inner :: files) offer "\x7b\x7d"
    let withdrawn := nestedWorld (inner :: files) "" "\x7b\x7d"
    alone.Offers start 1 given ∧ hidden.Offers start 1 given ∧
    (∀ nearer < 1, ∀ other, ¬ alone.Offers start nearer other) ∧
    (∀ nearer < 1, ∀ other, ¬ hidden.Offers start nearer other) ∧
    (alone.answer (find (some start))).result = some given ∧
    (hidden.answer (find (some start))).result = some settings ∧
    (withdrawn.answer (find (some start))).result = some settings := by
  intro start given settings inner files offer alone hidden withdrawn
  have offered : alone.Offers start 1 given := offers_nestedWorld (by decide) (by decide)
  have offeredToo : hidden.Offers start 1 given := offers_nestedWorld (by decide) (by decide)
  have nothing (present : List Path) (outer : String) : ∀ nearer < 1, ∀ other,
      ¬ (nestedWorld present outer "\x7b\x7d").Offers start nearer other := by
    intro nearer before
    obtain rfl : nearer = 0 := Nat.lt_one_iff.mp before
    exact not_offers_nestedWorld present outer
  have absent : ∀ nearer < 1, ¬ alone.Describes start nearer := by
    rintro nearer before ⟨_, place, reached, stands⟩
    obtain rfl : nearer = 0 := Nat.lt_one_iff.mp before
    cases reached
    exact absurd stands (by decide)
  have stands : hidden.Describes start 0 := ⟨by decide, start, rfl, by decide⟩
  have standsToo : withdrawn.Describes start 0 := ⟨by decide, start, rfl, by decide⟩
  have project : hidden.Nearest settingsName mostDirectories start settings := by
    refine ⟨1, by decide, .ofString "/p", by decide, by decide, by decide, ?_⟩
    intro nearer before passed reached
    obtain rfl : nearer = 0 := Nat.lt_one_iff.mp before
    cases reached
    decide
  have same : hidden.SameHome withdrawn := ⟨rfl, fun home given => by cases given⟩
  obtain ⟨taken, _⟩ := find_offered offered (nothing files offer)
  obtain ⟨_, hides⟩ := find_offered offeredToo (nothing (inner :: files) offer)
  obtain ⟨decides, others⟩ := hides 0 (by decide) stands
  have found := (decides settings).mpr (.inl project)
  refine ⟨offered, offeredToo, nothing _ _, nothing _ _, taken absent, found, ?_⟩
  refine (others withdrawn same (fun _ _ _ _ => rfl) standsToo ?_).trans found
  intro level within
  exact nothing _ _ level (by omega)

/-- An empty package description in a directory hides the offer of the one above. -/
theorem find_offered_hidden :
    let start : Path := .ofString "/p/s"
    let given : Path := .ofString "/p/lint.toml"
    let files : List Path :=
      [.ofString "/p/package.json", given, .ofString "/p/s/package.json"]
    let world := nestedWorld files "\x7b\"hintpaneConfig\":\"lint.toml\"\x7d" "\x7b\x7d"
    world.Offers start 1 given ∧ (∀ nearer < 1, ∀ other, ¬ world.Offers start nearer other) ∧
    (world.answer (find (some start))).result = none := by
  intro start given files world
  have nothing : ∀ nearer < 1, ∀ other, ¬ world.Offers start nearer other := by
    intro nearer before
    obtain rfl : nearer = 0 := Nat.lt_one_iff.mp before
    exact not_offers_nestedWorld files _
  have describes : world.Describes start 0 := ⟨by decide, start, rfl, by decide⟩
  have unnamed : ∀ path, ¬ world.Named start path :=
    describes.unnamed fun level within => nothing level (by omega)
  refine ⟨offers_nestedWorld (by decide) (by decide), nothing, ?_⟩
  apply Option.eq_none_iff_forall_ne_some.mpr
  intro path finds
  rcases (World.result_findFrom_eq_some unnamed).mp finds with nearest | ⟨_, home, given, _⟩
  · obtain ⟨above, within, place, reached, rfl, file, _⟩ := nearest
    have absent : ∀ above < mostDirectories, ∀ place, start.ascend above = some place →
        world.isFile (place.join settingsName) = false := by
      decide
    cases (absent above within place reached).symm.trans file
  · cases given

end Discovery

end LintReport
