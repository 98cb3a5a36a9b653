import Mathlib.Data.List.Find
import LintReport.Proofs.Files.Components
import LintReport.Inquiry.World
import LintReport.Settings.Discovery

/-!
# Searching upwards

The search for a file asks about one path after the other, each a directory on the way up with the
name joined to it, and stops at the first that leads to a file (`Discovery.searched_findUp`). What
it finds is therefore the nearest one among so many directories, whatever else is known of the file
system (`Discovery.findUp_nearest`).
-/

namespace LintReport

/-- The result of a run that asks for files only, when it is said which paths lead to files. -/
def Inquiry.searched {α : Type} (present : Path → Bool) : Inquiry α → Option α
  | .done result => some result
  | .isFile path next => (next (present path)).searched present
  | _ => none

/-- A run that asks for a file goes on with what is said of it. -/
theorem Inquiry.searched_askFile {α : Type} (present : Path → Bool) (path : Path)
    (next : Bool → Inquiry α) :
    (Inquiry.askFile path >>= next).searched present = (next (present path)).searched present := rfl

/-- In a world such a run has the same result. -/
theorem World.result_of_searched {α : Type} {world : World} {inquiry : Inquiry α} {result : α}
    (ends : inquiry.searched world.isFile = some result) :
    (world.answer inquiry).result = result := by
  induction inquiry with
  | done other => exact Option.some.inj ends
  | isFile path next ih => exact ih _ ends
  | read source next ih => cases ends
  | directory next ih => cases ends
  | home next ih => cases ends
  | print text next ih => cases ends
  | tell text next ih => cases ends
  | note event next ih => cases ends

namespace Discovery

variable {present other : Path → Bool} {name start path : Path} {depth : Nat}

/-- The paths that a search asks about, in order. -/
def candidates (name : Path) (depth : Nat) (start : Path) : List Path :=
  (start.wayUp.take depth).map (·.join name)

/-- The first candidate is in the place itself, and the others are those of its parent. -/
theorem candidates_of_parent? {outer : Path} (parent : start.parent? = some outer) :
    candidates name (depth + 1) start = start.join name :: candidates name depth outer := by
  rw [candidates, Path.wayUp_of_parent? parent, List.take_succ_cons, List.map_cons, candidates]

/-- A place without a parent has one candidate. -/
theorem candidates_of_no_parent (parent : start.parent? = none) :
    candidates name (depth + 1) start = [start.join name] := by
  rw [candidates, Path.wayUp_of_no_parent parent, List.take_succ_cons, List.take_nil,
    List.map_singleton]

/-- **A search gives the first of its candidates that is a file.** -/
theorem searched_findUp (present : Path → Bool) (name : Path) (depth : Nat) : ∀ start : Path,
    (findUp name depth start).searched present =
      some ((candidates name depth start).find? present) := by
  induction depth with
  | zero => exact fun _ => rfl
  | succ depth ih =>
      intro start
      rw [findUp, Inquiry.searched_askFile]
      cases file : present (start.join name) with
      | true =>
          cases parent : start.parent? with
          | none =>
              rw [candidates_of_no_parent parent, List.find?_cons_of_pos file]
              rfl
          | some outer =>
              rw [candidates_of_parent? parent, List.find?_cons_of_pos file]
              rfl
      | false =>
          have lacks : ¬ present (start.join name) = true := Bool.eq_false_iff.mp file
          cases parent : start.parent? with
          | none =>
              rw [candidates_of_no_parent parent, List.find?_cons_of_neg lacks]
              rfl
          | some outer =>
              rw [candidates_of_parent? parent, List.find?_cons_of_neg lacks, ← ih outer]
              rfl

/-- The candidates follow the way up, within the depth. -/
theorem getElem?_candidates {above : Nat} :
    (candidates name depth start)[above]? = some path ↔
      above < depth ∧ ∃ place, start.wayUp[above]? = some place ∧ path = place.join name := by
  rw [candidates, List.getElem?_map, List.getElem?_take]
  split
  · next within =>
      rw [Option.map_eq_some_iff]
      simp only [within, true_and]
      exact exists_congr fun place => and_congr_right fun _ => eq_comm
  · next beyond =>
      simp only [Option.map_none, reduceCtorEq, beyond, false_and]

/-- The first candidate that is a file belongs to the nearest directory. -/
theorem find?_candidates_eq_some :
    (candidates name depth start).find? present = some path ↔
      ∃ above < depth, ∃ place, start.wayUp[above]? = some place ∧ path = place.join name ∧
        present path = true ∧ ∀ nearer < above, ∀ passed, start.wayUp[nearer]? = some passed →
          present (passed.join name) = false := by
  rw [List.find?_eq_some_iff_getElem]
  constructor
  · rintro ⟨file, above, inside, stands, before⟩
    obtain ⟨within, place, reached, joined⟩ :=
      getElem?_candidates.mp (List.getElem?_eq_some_iff.mpr ⟨inside, stands⟩)
    refine ⟨above, within, place, reached, joined, file, ?_⟩
    intro nearer closer passed there
    have asked : (candidates name depth start)[nearer]? = some (passed.join name) :=
      getElem?_candidates.mpr ⟨Nat.lt_trans closer within, passed, there, rfl⟩
    obtain ⟨_, skipped⟩ := List.getElem?_eq_some_iff.mp asked
    have lacks := before nearer closer
    rw [skipped] at lacks
    exact (Bool.not_eq_true' _).mp lacks
  · rintro ⟨above, within, place, reached, joined, file, before⟩
    have asked : (candidates name depth start)[above]? = some path :=
      getElem?_candidates.mpr ⟨within, place, reached, joined⟩
    obtain ⟨inside, stands⟩ := List.getElem?_eq_some_iff.mp asked
    refine ⟨file, above, inside, stands, ?_⟩
    intro nearer closer
    obtain ⟨_, passed, there, joined⟩ := getElem?_candidates.mp
      (List.getElem?_eq_getElem (Nat.lt_trans closer inside))
    rw [joined, before nearer closer passed there]
    rfl

/-- A candidate stands in a place on the way up, within the depth. -/
theorem mem_candidates :
    path ∈ candidates name depth start ↔
      ∃ above < depth, ∃ place, start.wayUp[above]? = some place ∧ path = place.join name := by
  rw [List.mem_iff_getElem?]
  simp only [getElem?_candidates]

/-- Nothing is found exactly when no candidate is a file. -/
theorem find?_candidates_eq_none :
    (candidates name depth start).find? present = none ↔
      ∀ above < depth, ∀ place, start.wayUp[above]? = some place →
        present (place.join name) = false := by
  rw [List.find?_eq_none]
  constructor
  · intro none above within place reached
    exact Bool.eq_false_iff.mpr (none _ (mem_candidates.mpr ⟨above, within, place, reached, rfl⟩))
  · intro lacks path member
    obtain ⟨above, within, place, reached, rfl⟩ := mem_candidates.mp member
    exact Bool.eq_false_iff.mp (lacks above within place reached)

/-- A search among more directories asks about the same paths first. -/
theorem candidates_begins {deeper : Nat} (more : depth ≤ deeper) :
    candidates name depth start <+: candidates name deeper start :=
  (List.take_prefix_take_left more).map _

/-- What is found within a depth is found within a greater one. -/
theorem find?_candidates_mono {deeper : Nat} (more : depth ≤ deeper)
    (finds : (candidates name depth start).find? present = some path) :
    (candidates name deeper start).find? present = some path := by
  have begins : candidates name depth start <+: candidates name deeper start :=
    candidates_begins more
  obtain ⟨further, whole⟩ := begins
  rw [← whole, List.find?_append, finds, Option.some_or]

/-- **The nearest file is found.** The places on the way up begin with the given one, and each
further one is the place before it without its last component, as long as it has one. A search
among so many of them always comes to an end. It finds the path of the nearest place of which the
name is a file, and nothing exactly when there is none. What it finds is found among more places
too; it depends only on the paths of the places that it may visit; and it is what a run in a world
with these files gives. -/
theorem findUp_nearest (present : Path → Bool) (name : Path) (depth : Nat) (start : Path) :
    (start.wayUp[0]? = some start ∧ ∀ above outer, start.wayUp[above + 1]? = some outer ↔
      ∃ place, start.wayUp[above]? = some place ∧ place.DropsLast outer) ∧
    ∃ found, (findUp name depth start).searched present = some found ∧
      (∀ path, found = some path ↔
        ∃ above < depth, ∃ place, start.wayUp[above]? = some place ∧ path = place.join name ∧
          present path = true ∧ ∀ nearer < above, ∀ passed, start.wayUp[nearer]? = some passed →
            present (passed.join name) = false) ∧
      (found = none ↔ ∀ above < depth, ∀ place, start.wayUp[above]? = some place →
        present (place.join name) = false) ∧
      (∀ deeper path, depth ≤ deeper → found = some path →
        (findUp name deeper start).searched present = some (some path)) ∧
      (∀ other : Path → Bool,
        (∀ above < min depth start.wayUp.length, ∀ place, start.wayUp[above]? = some place →
          other (place.join name) = present (place.join name)) →
        (findUp name depth start).searched other = some found) ∧
      ∀ world : World, world.isFile = present →
        (world.answer (findUp name depth start)).result = found := by
  refine ⟨⟨Path.getElem?_wayUp 0 start, fun above outer => Path.getElem?_wayUp_succ⟩, _,
    searched_findUp present name depth start, fun path => find?_candidates_eq_some,
    find?_candidates_eq_none, ?_, ?_, ?_⟩
  · intro deeper path more finds
    rw [searched_findUp, find?_candidates_mono more finds]
  · intro other same
    rw [searched_findUp, List.find?_congr]
    intro path member
    obtain ⟨above, within, place, reached, rfl⟩ := mem_candidates.mp member
    obtain ⟨inside, _⟩ := List.getElem?_eq_some_iff.mp reached
    exact same above (Nat.lt_min.mpr ⟨within, inside⟩) place reached
  · rintro world rfl
    exact World.result_of_searched (searched_findUp world.isFile name depth start)

/-- From a path with dots and slashes that name nothing, two places up. -/
theorem findUp_nearest_dotted :
    let start : Path := .ofString "p/./s//"
    let name : Path := .ofString "x.toml"
    let nearest : Path := .ofString "p/x.toml"
    let files : List Path := [.ofString "/w/p/x.toml", .ofString "/w/x.toml"]
    let world : World := ⟨⟨(· ∈ files), fun _ => .error .notFound⟩, ⟨.ofString "/w", 0⟩, none, [],
      .unbounded⟩
    (world.answer (findUp name 1 start)).result = none ∧
    (world.answer (findUp name 2 start)).result = some nearest ∧
    (findUp name 30 start).searched world.isFile = some (some nearest) ∧
    (findUp name 2 start).searched (· = nearest) = some (some nearest) := by
  intro start name nearest files world
  have places : start.wayUp = [start, .ofString "p", .ofString ""] := by
    have first : start.parent? = some (.ofString "p") := by decide
    have second : (Path.ofString "p").parent? = some (.ofString "") := by decide
    rw [Path.wayUp_of_parent? first, Path.wayUp_of_parent? second,
      Path.wayUp_of_no_parent (by decide)]
  have lacks : world.isFile (start.join name) = false := by decide
  have file : world.isFile nearest = true := by decide
  obtain ⟨_, short, _, _, nothing, _, _, inWorldToo⟩ := findUp_nearest world.isFile name 1 start
  obtain ⟨_, found, searches, finds, _, further, alike, inWorld⟩ :=
    findUp_nearest world.isFile name 2 start
  have isNearest : found = some nearest := by
    apply (finds nearest).mpr
    refine ⟨1, by decide, .ofString "p", by rw [places]; rfl, by decide, file, ?_⟩
    intro nearer before passed reached
    obtain rfl : nearer = 0 := Nat.lt_one_iff.mp before
    rw [places] at reached
    cases reached
    exact lacks
  refine ⟨?_, (inWorld world rfl).trans isNearest, further 30 nearest (by decide) isNearest, ?_⟩
  · refine (inWorldToo world rfl).trans (nothing.mpr fun above within place reached => ?_)
    obtain rfl : above = 0 := Nat.lt_one_iff.mp within
    rw [places] at reached
    cases reached
    exact lacks
  · rw [← isNearest]
    apply alike
    intro above within place reached
    rw [places] at within reached
    have few : above = 0 ∨ above = 1 := by
      have two : min 2 3 = 2 := rfl
      change above < min 2 3 at within
      omega
    rcases few with rfl | rfl
    · cases reached
      rw [lacks]
      decide
    · cases reached
      decide

end Discovery

end LintReport
