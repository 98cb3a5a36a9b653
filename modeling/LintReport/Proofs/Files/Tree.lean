import LintReport.Files.Tree
import LintReport.Inquiry.World
import LintReport.Proofs.Steps
import LintReport.Proofs.Files.Path

/-!
# Files of a tree

In a tree, a path leads to a file exactly when the file can be read (`Tree.isFile_iff`). A single
dot on the way to a name leads nowhere else, so an entry of a directory is the same however the path
of the directory is closed (`Tree.locate_join`). A world with the files of a tree does not tell such
paths apart either, as long as they can be followed at all (`World.isFile_join_tidy`).
-/

namespace LintReport

namespace Path

/-- The names on the way are the steps that are no single dot. -/
theorem names_eq_steps (path : Path) : path.names = path.steps.filter (· ≠ ['.']) := by
  unfold names steps
  rw [List.filter_append, List.filter_filter]
  have dot : (if path.chars.getLast? = some '/' then [['.']] else []).filter (· ≠ ['.']) =
      ([] : List (List Char)) := by
    split <;> rfl
  rw [dot, List.append_nil]
  simp only [ne_eq, decide_not, Bool.decide_and, Bool.and_comm]

/-- The last step to an entry of a directory is its name. -/
theorem steps_join {path : Path} {name : List Char} (absolute : path.isAbsolute = true)
    (isName : IsName name) : ∃ before, (path.join ⟨name⟩).steps = before ++ [name] := by
  obtain ⟨front, opens, _, joined⟩ := join_name absolute isName
  have last : ('/' :: (front ++ name)).getLast? ≠ some '/' := by
    rw [← List.cons_append, List.getLast?_append_of_ne_nil _ isName.nonempty]
    exact fun slash => isName.noSlash (List.mem_of_getLast? slash)
  have slash : ∃ outer, '/' :: (front ++ name) = outer ++ '/' :: name := by
    rcases opens with rfl | ⟨outer, rfl⟩
    · exact ⟨[], rfl⟩
    · exact ⟨'/' :: outer, by rw [List.append_assoc]; rfl⟩
  obtain ⟨outer, text⟩ := slash
  refine ⟨(outer.splitOn '/').filter (· ≠ []), ?_⟩
  unfold steps
  rw [joined, if_neg last, text, List.splitOn_append_cons_self,
    List.splitOn_eq_singleton isName.noSlash, List.filter_append, List.append_nil]
  exact congrArg _ (List.filter_cons_of_pos (decide_eq_true isName.nonempty))

/-- An entry of a directory is spelled with fewer characters when the path of the directory is tidied
up. -/
theorem sublist_join_tidy {path : Path} {name : List Char} (absolute : path.isAbsolute = true)
    (isName : IsName name) : (path.tidy.join ⟨name⟩).chars.Sublist (path.join ⟨name⟩).chars := by
  obtain ⟨front, opens, tidied, joined⟩ := join_name absolute isName
  rw [joined, tidied]
  have begins := bare_begins front
  unfold join
  rw [isName.relative, if_neg Bool.false_ne_true]
  by_cases closed : ('/' :: bare front).getLast? = some '/'
  · rw [if_pos (by rw [closed]; exact Bool.or_true _)]
    exact (begins.sublist.append_right name).cons_cons '/'
  · rw [if_neg (by simpa using closed)]
    rcases opens with rfl | ⟨outer, rfl⟩
    · exact absurd rfl closed
    · rcases List.prefix_concat_iff.mp begins with same | before
      · rw [same, ← List.cons_append, List.getLast?_concat] at closed
        exact absurd rfl closed
      · rw [List.append_assoc]
        exact (before.sublist.append_right ('/' :: name)).cons_cons '/'

end Path

namespace Tree

variable {tree : Tree} {follow : Location → List (List Char) → Except StreamError Location}

/-- What a path leads to is a file exactly when it can be read. -/
theorem isFile_iff {path : Path} :
    tree.isFile path = true ↔ ∃ content, tree.read path = .ok content := by
  unfold isFile read
  cases tree.locate [] path with
  | error error => exact iff_of_false Bool.false_ne_true (by rintro ⟨_, ⟨⟩⟩)
  | ok location =>
      simp only [Steps.ok_bind]
      rcases tree.get? location with _ | ⟨content | _ | _⟩
      · exact iff_of_false Bool.false_ne_true (by rintro ⟨_, ⟨⟩⟩)
      · exact iff_of_true rfl ⟨content, rfl⟩
      · exact iff_of_false Bool.false_ne_true (by rintro ⟨_, ⟨⟩⟩)
      · exact iff_of_false Bool.false_ne_true (by rintro ⟨_, ⟨⟩⟩)

/-- A single dot in front of another step leads nowhere else. -/
theorem along_dot (place : Location) (name : List Char) (rest : List (List Char)) :
    tree.along follow place (['.'] :: name :: rest) = tree.along follow place (name :: rest) := by
  rw [along]
  cases stands : tree.get? place with
  | none => rw [along, stands]
  | some node =>
      cases node with
      | file content => rw [along, stands]
      | directory => exact if_pos rfl
      | link target => rw [along, stands]

/-- Steps to a name may be followed without the single dots. -/
def Undotted (follow : Location → List (List Char) → Except StreamError Location) : Prop :=
  ∀ place before name, name ≠ ['.'] →
    follow place (before ++ [name]) = follow place (before.filter (· ≠ ['.']) ++ [name])

/-- Following steps up to a link needs no single dots if none are needed behind the link. -/
theorem undotted_along (behind : Undotted follow) : Undotted (tree.along follow) := by
  intro place before name proper
  induction before generalizing place with
  | nil => rfl
  | cons first before ih =>
      obtain ⟨second, rest, next⟩ := List.exists_cons_of_ne_nil
        (List.append_ne_nil_of_right_ne_nil before (List.cons_ne_nil name []))
      by_cases dot : first = ['.']
      · subst dot
        rw [List.filter_cons_of_neg (by decide), ← ih place, List.cons_append, next]
        exact along_dot place second rest
      · rw [List.filter_cons_of_pos (by simpa using dot), List.cons_append, List.cons_append,
          along, along]
        cases tree.get? place with
        | none => rfl
        | some node =>
            cases node with
            | file content => rfl
            | link target => rfl
            | directory =>
                simp only [dot, ↓reduceIte, ih]
                -- Behind a link its own steps come first.
                have through (target : Path) (start : Location) :
                    follow start (target.steps ++ (before ++ [name])) =
                      follow start
                        (target.steps ++ (before.filter (· ≠ ['.']) ++ [name])) := by
                  rw [← List.append_assoc, ← List.append_assoc, behind _ _ _ proper,
                    behind _ (target.steps ++ before.filter _) _ proper, List.filter_append,
                    List.filter_append, List.filter_filter]
                  simp only [Bool.and_self]
                simp only [through]

/-- Steps to a name lead to the same place without the single dots, whatever links there are. -/
theorem undotted_walk (links : Nat) : Undotted (tree.walk links) := by
  induction links with
  | zero => exact undotted_along fun _ _ _ _ => rfl
  | succ links ih => exact undotted_along ih

/-- **An entry of a directory is the same however the path of the directory is spelled.** -/
theorem locate_join {path other : Path} (spelled : path.Respells other) {name : List Char}
    (isName : Path.IsName name) (start : Location) :
    tree.locate start (path.join ⟨name⟩) = tree.locate start (other.join ⟨name⟩) := by
  have leads {path : Path} (absolute : path.isAbsolute = true) :
      tree.locate start (path.join ⟨name⟩) = tree.walk mostLinks [] (path.names ++ [name]) := by
    have root := Path.isAbsolute_join absolute ⟨name⟩
    obtain ⟨rest, opens⟩ := Path.isAbsolute_iff.mp root
    obtain ⟨before, steps⟩ := Path.steps_join absolute isName
    have names : (path.join ⟨name⟩).names = before.filter (· ≠ ['.']) ++ [name] := by
      rw [Path.names_eq_steps, steps, List.filter_append]
      exact congrArg _ (List.filter_cons_of_pos (decide_eq_true isName.notDot))
    rw [Path.names_join isName.relative, Path.names_of_isName isName] at names
    unfold locate
    rw [if_neg (by rw [opens]; exact Bool.false_ne_true), root, if_pos rfl, steps,
      undotted_walk mostLinks [] before name isName.notDot, ← names]
  rw [leads spelled.absolute, leads spelled.otherAbsolute, spelled.names]

end Tree

namespace World

variable {world : World} {path : Path} {name other : List Char}

/-- When a path from the root can be followed. -/
theorem resolve_eq_ok (absolute : path.isAbsolute = true) : world.resolve path = .ok path ↔
    '\x00' ∉ path.chars ∧ utf8Length path.chars ≤ longestPath := by
  unfold resolve
  by_cases nul : '\x00' ∈ path.chars
  · rw [if_pos nul]
    exact iff_of_false (by rintro ⟨⟩) fun sound => sound.1 nul
  · rw [if_neg nul]
    by_cases long : longestPath < utf8Length path.chars
    · rw [if_pos long]
      exact iff_of_false (by rintro ⟨⟩) fun sound => absurd sound.2 (Nat.not_le.mpr long)
    · rw [if_neg long, if_pos absolute]
      exact iff_of_true rfl ⟨nul, Nat.not_lt.mp long⟩

/-- A path from the root that leads to a file can be followed. -/
theorem resolve_of_isFile (absolute : path.isAbsolute = true) (file : world.isFile path = true) :
    world.resolve path = .ok path := by
  unfold isFile at file
  cases follows : world.resolve path with
  | error error =>
      rw [follows] at file
      cases file
  | ok resolved =>
      unfold resolve at follows
      split at follows
      · cases follows
      · split at follows
        · cases follows
        · exact follows.symm

/-- An entry with a shorter name can be followed too. -/
theorem resolve_join_of_le (absolute : path.isAbsolute = true) (isName : Path.IsName name)
    (isNameToo : Path.IsName other) (shorter : utf8Length other ≤ utf8Length name)
    (noNul : '\x00' ∉ other) (follows : world.resolve (path.join ⟨name⟩) = .ok (path.join ⟨name⟩)) :
    world.resolve (path.join ⟨other⟩) = .ok (path.join ⟨other⟩) := by
  have front : ∃ front, (path.join ⟨name⟩).chars = front ++ name ∧
      (path.join ⟨other⟩).chars = front ++ other := by
    unfold Path.join
    rw [isName.relative, isNameToo.relative]
    simp only [Bool.false_eq_true, ↓reduceIte]
    split
    · exact ⟨path.chars, rfl, rfl⟩
    · exact ⟨path.chars ++ ['/'], by simp, by simp⟩
  obtain ⟨front, here, there⟩ := front
  obtain ⟨sound, fits⟩ := (resolve_eq_ok (Path.isAbsolute_join absolute _)).mp follows
  apply (resolve_eq_ok (Path.isAbsolute_join absolute _)).mpr
  rw [here, List.mem_append] at sound
  rw [here, utf8Length_append] at fits
  rw [there, List.mem_append, utf8Length_append]
  exact ⟨fun nul => nul.elim (fun before => sound (.inl before)) noNul, by omega⟩

/-- An entry of a tidied directory can be followed too. -/
theorem resolve_join_tidy (absolute : path.isAbsolute = true) (isName : Path.IsName name)
    (follows : world.resolve (path.join ⟨name⟩) = .ok (path.join ⟨name⟩)) :
    world.resolve (path.tidy.join ⟨name⟩) = .ok (path.tidy.join ⟨name⟩) := by
  have shorter := Path.sublist_join_tidy absolute isName
  obtain ⟨noNul, fits⟩ := (resolve_eq_ok (Path.isAbsolute_join absolute _)).mp follows
  apply (resolve_eq_ok (Path.isAbsolute_join (Path.isAbsolute_tidy absolute) _)).mpr
  exact ⟨fun nul => noNul (shorter.subset nul),
    Nat.le_trans (utf8Length_le_of_sublist shorter) fits⟩

/-- An entry of a directory is a file or none, however the path of the directory is closed. -/
theorem isFile_join_tidy {tree : Tree} (files : world.files = tree.files)
    (absolute : path.isAbsolute = true) (isName : Path.IsName name)
    (follows : world.resolve (path.join ⟨name⟩) = .ok (path.join ⟨name⟩)) :
    world.isFile (path.tidy.join ⟨name⟩) = world.isFile (path.join ⟨name⟩) := by
  have spelled : path.tidy.Respells path :=
    ⟨Path.isAbsolute_tidy absolute, absolute, Path.names_tidy absolute⟩
  unfold isFile
  rw [follows, resolve_join_tidy absolute isName follows, files]
  unfold Tree.files Tree.isFile
  simp only [Tree.locate_join spelled isName]

/-- An entry of a directory reads the same, however the path of the directory is closed. -/
theorem readText_join_tidy {tree : Tree} (files : world.files = tree.files)
    (absolute : path.isAbsolute = true) (isName : Path.IsName name)
    (follows : world.resolve (path.join ⟨name⟩) = .ok (path.join ⟨name⟩)) :
    world.readText (.file (path.tidy.join ⟨name⟩)) =
      world.readText (.file (path.join ⟨name⟩)) := by
  have spelled : path.tidy.Respells path :=
    ⟨Path.isAbsolute_tidy absolute, absolute, Path.names_tidy absolute⟩
  simp only [readText, readFile, follows, resolve_join_tidy absolute isName follows, files]
  unfold Tree.files Tree.read
  simp only [Except.bind, Tree.locate_join spelled isName]

end World

end LintReport
