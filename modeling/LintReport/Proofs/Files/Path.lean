import LintReport.Files.Path
import LintReport.Proofs.Text.Pieces

/-!
# Names on the way of a path

The names of a path are its pieces between slashes, without those that are empty or a single dot
(`Path.names`). Going to the parent of an entry of a directory gives the directory back, without
the slashes and dots that close it (`Path.parent?_join`, `Path.tidy`). They name nothing, so a path
that goes down and up again is at most spelled differently (`Path.Respells`).
-/

namespace LintReport.Path

/-- The names on the way: empty pieces and single dots name nothing. -/
def names (path : Path) : List (List Char) :=
  (path.chars.splitOn '/').filter fun name => name ≠ [] ∧ name ≠ ['.']

/-- The path without the slashes and dots that close it and name nothing. -/
def tidy (path : Path) : Path :=
  ⟨path.split.1 ++ (trim path.split.2.length path.split.2.reverse).reverse⟩

/-- The directory so many steps above a path. -/
def ascend : (above : Nat) → Path → Option Path
  | 0, path => some path
  | above + 1, path => path.parent?.bind (ascend above)

/-- A name that something may have in a directory. Two dots are a name like any other. -/
structure IsName (name : List Char) : Prop where
  nonempty : name ≠ []
  noSlash : '/' ∉ name
  notDot : name ≠ ['.']

/-- Two paths from the root with the same names: they differ in slashes and single dots only. -/
structure Respells (path other : Path) : Prop where
  absolute : path.isAbsolute = true
  otherAbsolute : other.isAbsolute = true
  names : path.names = other.names

/-- A place that so many names lead to from a directory. -/
inductive Below (outer : Path) : (depth : Nat) → Path → Prop
  | here : Below outer 0 outer
  | inside {depth : Nat} {place : Path} {name : List Char} (above : Below outer depth place)
      (isName : IsName name) : Below outer (depth + 1) (place.join ⟨name⟩)

theorem isAbsolute_iff {path : Path} :
    path.isAbsolute = true ↔ ∃ rest, path = ⟨'/' :: rest⟩ := by
  obtain ⟨chars⟩ := path
  rw [isAbsolute, beq_iff_eq, List.head?_eq_some_iff]
  simp only [mk.injEq]

/-- A name does not begin at the root. -/
theorem IsName.relative {name : List Char} (isName : IsName name) :
    (⟨name⟩ : Path).isAbsolute = false := by
  apply Bool.eq_false_iff.mpr
  intro absolute
  obtain ⟨rest, same⟩ := isAbsolute_iff.mp absolute
  cases same
  exact isName.noSlash List.mem_cons_self

/-- Joining puts one slash between the parts, unless there is one or the first part is empty. -/
theorem join_cases {more : Path} (relative : more.isAbsolute = false) (path : Path) :
    path.chars = [] ∧ path.join more = more ∨
      ∃ front, (path.chars = front ∨ path.chars = front ++ ['/']) ∧
        path.join more = ⟨front ++ '/' :: more.chars⟩ := by
  unfold join
  rw [relative, if_neg Bool.false_ne_true]
  by_cases empty : path.chars = []
  · rw [if_pos (by rw [empty]; rfl), empty]
    exact .inl ⟨rfl, rfl⟩
  · by_cases closed : path.chars.getLast? = some '/'
    · obtain ⟨front, ends⟩ := List.getLast?_eq_some_iff.mp closed
      rw [if_pos (by rw [closed]; exact Bool.or_true _), ends, List.append_assoc]
      exact .inr ⟨front, .inr rfl, rfl⟩
    · rw [if_neg (by simp only [List.isEmpty_iff, Bool.or_eq_true, beq_iff_eq, empty, closed,
        or_self, not_false_eq_true])]
      exact .inr ⟨path.chars, .inl rfl, rfl⟩

/-- A path that is joined to one from the root leads from the root too. -/
theorem isAbsolute_join {path : Path} (absolute : path.isAbsolute = true) (more : Path) :
    (path.join more).isAbsolute = true := by
  by_cases other : more.isAbsolute = true
  · unfold join
    rwa [if_pos other]
  · obtain ⟨rest, rfl⟩ := isAbsolute_iff.mp absolute
    apply isAbsolute_iff.mpr
    rcases join_cases (Bool.eq_false_iff.mpr other) ⟨'/' :: rest⟩ with
      ⟨impossible, _⟩ | ⟨front, ends, joined⟩
    · cases impossible
    · rw [joined]
      cases front with
      | nil => exact ⟨_, rfl⟩
      | cons c front =>
          obtain rfl : c = '/' := by
            rcases ends with same | same <;> cases same <;> rfl
          exact ⟨_, rfl⟩

/-! ## Names -/

/-- The names on both sides of a slash follow one another. -/
theorem names_append (chars more : List Char) :
    names ⟨chars ++ '/' :: more⟩ = names ⟨chars⟩ ++ names ⟨more⟩ := by
  unfold names
  simp only [List.splitOn_append_cons_self, List.filter_append]

/-- A name is the only name of its path. -/
theorem names_of_isName {name : List Char} (isName : IsName name) : names ⟨name⟩ = [name] := by
  unfold names
  rw [List.splitOn_eq_singleton isName.noSlash]
  exact List.filter_cons_of_pos (decide_eq_true ⟨isName.nonempty, isName.notDot⟩)

/-- The names of a joined path are those of its parts. -/
theorem names_join {more : Path} (relative : more.isAbsolute = false) (path : Path) :
    (path.join more).names = path.names ++ more.names := by
  obtain ⟨chars⟩ := path
  rcases join_cases relative ⟨chars⟩ with ⟨empty, joined⟩ | ⟨front, ends, joined⟩
  · rw [joined]
    cases empty
    rfl
  · rw [joined, names_append]
    rcases ends with same | same
    · obtain rfl : chars = front := same
      rfl
    · obtain rfl : chars = front ++ ['/'] := same
      have nothing : names ⟨[]⟩ = [] := rfl
      rw [names_append, nothing, List.append_nil]

/-- A reversed path is its last name, and what stands before it behind a slash. -/
theorem lastName_cases (reversed : List Char) :
    reversed = lastName reversed ∧ beforeLast reversed = [] ∨
      reversed = lastName reversed ++ '/' :: beforeLast reversed := by
  have parts : lastName reversed ++ reversed.dropWhile (· != '/') = reversed :=
    List.takeWhile_append_dropWhile
  unfold beforeLast
  cases behind : reversed.dropWhile (· != '/') with
  | nil =>
      rw [behind, List.append_nil] at parts
      exact .inl ⟨parts.symm, rfl⟩
  | cons c front =>
      have stops := List.head?_dropWhile_not (· != '/') reversed
      rw [behind] at stops parts
      obtain rfl : c = '/' := by
        simpa only [List.head?_cons, bne_eq_false_iff_eq] using stops
      exact .inr parts.symm

/-- Closing slashes and dots name nothing. -/
theorem names_trim (steps : Nat) : ∀ reversed : List Char,
    names ⟨(trim steps reversed).reverse⟩ = names ⟨reversed.reverse⟩ := by
  induction steps with
  | zero => exact fun _ => rfl
  | succ steps ih =>
      intro reversed
      unfold trim
      by_cases empty : reversed = []
      · subst empty
        rfl
      rw [if_neg (by rwa [List.isEmpty_iff])]
      by_cases closing : lastName reversed = [] ∨ lastName reversed = ['.']
      · rw [if_pos closing, ih]
        have nothing : names ⟨(lastName reversed).reverse⟩ = [] := by
          rcases closing with none | dot
          · rw [none]
            rfl
          · rw [dot]
            rfl
        rcases lastName_cases reversed with ⟨whole, before⟩ | whole
        · rw [← whole] at nothing
          rw [before, nothing]
          rfl
        · conv => rhs; rw [whole]
          rw [List.reverse_append, List.reverse_cons, List.append_assoc, List.singleton_append,
            names_append, nothing, List.append_nil]
      · rw [if_neg closing]

/-! ## Parents -/

/-- Taking the last name away makes a path shorter. -/
theorem length_beforeLast {reversed : List Char} (nonempty : reversed ≠ []) :
    (beforeLast reversed).length < reversed.length := by
  rcases lastName_cases reversed with ⟨_, before⟩ | whole
  · rw [before]
    exact List.length_pos_iff.mpr nonempty
  · have size := congrArg List.length whole
    rw [List.length_append, List.length_cons] at size
    omega

/-- As many steps as there are characters are enough. -/
theorem trim_enough (steps : Nat) : ∀ {more : Nat} {reversed : List Char},
    reversed.length ≤ steps → reversed.length ≤ more →
    trim steps reversed = trim more reversed := by
  induction steps with
  | zero =>
      intro more reversed none _
      obtain rfl := List.length_eq_zero_iff.mp (Nat.le_zero.mp none)
      cases more <;> rfl
  | succ steps ih =>
      intro more reversed enough enoughToo
      by_cases empty : reversed = []
      · subst empty
        cases more <;> rfl
      have shorter := length_beforeLast empty
      cases more with
      | zero => omega
      | succ more =>
          have same : trim steps (beforeLast reversed) = trim more (beforeLast reversed) :=
            ih (by omega) (by omega)
          unfold trim
          rw [same]

/-- What has been trimmed stays as it is. -/
theorem trim_trim (steps : Nat) : ∀ {reversed : List Char}, reversed.length ≤ steps →
    ∀ more, trim more (trim steps reversed) = trim steps reversed := by
  induction steps with
  | zero =>
      intro reversed none more
      obtain rfl := List.length_eq_zero_iff.mp (Nat.le_zero.mp none)
      cases more <;> rfl
  | succ steps ih =>
      intro reversed enough more
      by_cases empty : reversed = []
      · subst empty
        cases more <;> rfl
      have filled : ¬ reversed.isEmpty = true := by rwa [List.isEmpty_iff]
      have shorter := length_beforeLast empty
      by_cases closing : lastName reversed = [] ∨ lastName reversed = ['.']
      · have once : trim (steps + 1) reversed = trim steps (beforeLast reversed) := by
          rw [trim, if_neg filled, if_pos closing]
        rw [once]
        exact ih (by omega) more
      · have never (count : Nat) : trim count reversed = reversed := by
          cases count with
          | zero => rfl
          | succ count => rw [trim, if_neg filled, if_neg closing]
        rw [never, never]

/-- Trimming takes away from the end only. -/
theorem suffix_trim (steps : Nat) : ∀ reversed : List Char, trim steps reversed <:+ reversed := by
  induction steps with
  | zero => exact fun _ => List.suffix_rfl
  | succ steps ih =>
      intro reversed
      rw [trim]
      split
      · exact List.nil_suffix
      · split
        · exact (ih _).trans ((List.drop_suffix _ _).trans (List.dropWhile_suffix _))
        · exact List.suffix_rfl

/-- A text without the slashes and dots that close it. -/
def bare (rest : List Char) : List Char := (trim rest.length rest.reverse).reverse

/-- Leaving out closing slashes and dots leaves a beginning. -/
theorem bare_begins (rest : List Char) : bare rest <+: rest := by
  apply List.reverse_suffix.mp
  rw [bare, List.reverse_reverse]
  exact suffix_trim _ _

theorem bare_slash (rest : List Char) : bare (rest ++ ['/']) = bare rest := by
  unfold bare
  rw [List.reverse_append, List.length_append, List.length_singleton]
  rfl

theorem tidy_of_root (rest : List Char) : tidy ⟨'/' :: rest⟩ = ⟨'/' :: bare rest⟩ := rfl

/-- A closing slash is trimmed away with what it closes. -/
theorem trim_front {front : List Char} {steps : Nat}
    (opens : front = [] ∨ ∃ outer, front = outer ++ ['/']) (enough : front.length ≤ steps + 1) :
    trim steps (front.reverse.drop 1) = trim front.length front.reverse := by
  rcases opens with rfl | ⟨outer, rfl⟩
  · exact trim_enough _ (Nat.zero_le _) (Nat.zero_le _)
  · have slash : (outer ++ ['/']).reverse = '/' :: outer.reverse := List.reverse_concat
    have size : (outer ++ ['/']).length = outer.length + 1 := List.length_append
    have short : outer.reverse.length ≤ steps := by
      rw [List.length_reverse]
      omega
    rw [slash, size]
    exact trim_enough _ short (Nat.le_of_eq List.length_reverse)

section Named

variable {front name : List Char} (opens : front = [] ∨ ∃ outer, front = outer ++ ['/'])
  (isName : IsName name)
include opens isName

/-- The last name is found behind the last slash. -/
theorem lastName_named : lastName (front ++ name).reverse = name.reverse := by
  have inside : ∀ c ∈ name.reverse, (c != '/') = true := by
    intro c member
    apply bne_iff_ne.mpr
    rintro rfl
    exact isName.noSlash (List.mem_reverse.mp member)
  unfold lastName
  rw [List.reverse_append, List.takeWhile_append_of_pos inside]
  rcases opens with rfl | ⟨outer, rfl⟩
  · exact List.append_nil _
  · rw [List.reverse_append]
    exact List.append_nil _

/-- In front of the last name its slash goes too. -/
theorem beforeLast_named : beforeLast (front ++ name).reverse = front.reverse.drop 1 := by
  have last := lastName_named opens isName
  rcases lastName_cases (front ++ name).reverse with ⟨whole, before⟩ | whole
  · rw [last, List.reverse_append] at whole
    have nothing : front.reverse = [] :=
      List.append_cancel_left (whole.trans (List.append_nil _).symm)
    rw [before, nothing]
    rfl
  · rw [last] at whole
    have behind : name.reverse ++ front.reverse =
        name.reverse ++ '/' :: beforeLast (front ++ name).reverse := by
      rw [← whole, List.reverse_append]
    rw [List.append_cancel_left behind]
    rfl

/-- A path that ends with a name is not trimmed. -/
theorem trim_named (steps : Nat) :
    trim steps (front ++ name).reverse = (front ++ name).reverse := by
  have nonempty : (front ++ name).reverse ≠ [] := by
    rw [List.reverse_append]
    exact List.append_ne_nil_of_left_ne_nil (List.reverse_ne_nil_iff.mpr isName.nonempty) _
  have stays : ¬ (name.reverse = [] ∨ name.reverse = ['.']) := by
    rintro (none | dot)
    · exact isName.nonempty (List.reverse_eq_nil_iff.mp none)
    · exact isName.notDot (List.reverse_eq_iff.mp dot)
  cases steps with
  | zero => rfl
  | succ steps =>
      rw [trim, if_neg (by rwa [List.isEmpty_iff]), lastName_named opens isName, if_neg stays]

/-- A path that ends with a name is bare already. -/
theorem bare_named : bare (front ++ name) = front ++ name := by
  unfold bare
  rw [trim_named opens isName, List.reverse_reverse]

/-- The parent of a path is what stands before the name that closes it. -/
theorem parent?_of_bare_eq_append {path : Path} (closes : bare path.split.2 = front ++ name) :
    path.parent? = some ⟨path.split.1 ++ bare front⟩ := by
  have reversed : trim path.split.2.length path.split.2.reverse = (front ++ name).reverse := by
    rw [← closes, bare, List.reverse_reverse]
  have filled : ¬ (front ++ name).reverse.isEmpty = true := by
    rw [List.isEmpty_iff, List.reverse_eq_nil_iff]
    exact List.append_ne_nil_of_right_ne_nil _ isName.nonempty
  have shorter : front.length ≤ path.split.2.length + 1 := by
    have size := (bare_begins path.split.2).length_le
    rw [closes, List.length_append] at size
    omega
  unfold parent?
  simp only [reversed, if_neg filled, beforeLast_named opens isName, trim_front opens shorter]
  rfl

/-- The parent of a path that ends with a name is what stands in front, tidied up. -/
theorem parent?_named : parent? ⟨'/' :: (front ++ name)⟩ = some ⟨'/' :: bare front⟩ := by
  let path : Path := ⟨'/' :: (front ++ name)⟩
  have closes : bare path.split.2 = front ++ name := bare_named opens isName
  exact parent?_of_bare_eq_append opens isName closes

end Named

section Absolute

variable {path : Path} (absolute : path.isAbsolute = true)
include absolute

/-- An entry of a directory from the root stands behind the directory's text, which closes with a
slash. -/
theorem join_name {name : List Char} (isName : IsName name) :
    ∃ front, (front = [] ∨ ∃ outer, front = outer ++ ['/']) ∧
      path.tidy = ⟨'/' :: bare front⟩ ∧ path.join ⟨name⟩ = ⟨'/' :: (front ++ name)⟩ := by
  obtain ⟨rest, rfl⟩ := isAbsolute_iff.mp absolute
  rcases join_cases isName.relative ⟨'/' :: rest⟩ with ⟨impossible, _⟩ | ⟨front, ends, joined⟩
  · cases impossible
  rw [joined, tidy_of_root]
  rcases ends with same | same
  · obtain rfl : '/' :: rest = front := same
    refine ⟨rest ++ ['/'], .inr ⟨rest, rfl⟩, ?_, ?_⟩
    · rw [bare_slash]
    · rw [List.append_assoc]
      rfl
  · cases front with
    | nil =>
        cases same
        exact ⟨[], .inl rfl, rfl, rfl⟩
    | cons c outer =>
        cases same
        refine ⟨outer ++ ['/'], .inr ⟨outer, rfl⟩, rfl, ?_⟩
        rw [List.append_assoc]
        rfl

/-- **The parent of an entry is its directory**, tidied up. -/
theorem parent?_join {name : List Char} (isName : IsName name) :
    (path.join ⟨name⟩).parent? = some path.tidy := by
  obtain ⟨front, opens, tidied, joined⟩ := join_name absolute isName
  rw [joined, tidied, parent?_named opens isName]

/-- An entry is tidy. -/
theorem tidy_join {name : List Char} (isName : IsName name) :
    (path.join ⟨name⟩).tidy = path.join ⟨name⟩ := by
  obtain ⟨front, opens, _, joined⟩ := join_name absolute isName
  rw [joined, tidy_of_root, bare_named opens isName]

/-- Tidying up leaves a path at the root. -/
theorem isAbsolute_tidy : path.tidy.isAbsolute = true := by
  obtain ⟨rest, rfl⟩ := isAbsolute_iff.mp absolute
  exact isAbsolute_iff.mpr ⟨_, rfl⟩

theorem names_tidy : path.tidy.names = path.names := by
  obtain ⟨rest, rfl⟩ := isAbsolute_iff.mp absolute
  have root (text : List Char) : names ⟨'/' :: text⟩ = names ⟨text⟩ := names_append [] text
  rw [tidy_of_root, root, root, bare, names_trim, List.reverse_reverse]

theorem tidy_tidy : path.tidy.tidy = path.tidy := by
  obtain ⟨rest, rfl⟩ := isAbsolute_iff.mp absolute
  have enough : rest.reverse.length ≤ rest.length := Nat.le_of_eq List.length_reverse
  rw [tidy_of_root, tidy_of_root, bare, bare, List.reverse_reverse, trim_trim _ enough]

theorem parent?_tidy : path.tidy.parent? = path.parent? := by
  obtain ⟨rest, rfl⟩ := isAbsolute_iff.mp absolute
  have enough : rest.reverse.length ≤ rest.length := Nat.le_of_eq List.length_reverse
  have shorter := (suffix_trim rest.length rest.reverse).length_le
  rw [tidy_of_root]
  unfold parent? split bare
  simp only [List.reverse_reverse, trim_trim _ enough, List.length_reverse]
  by_cases empty : trim rest.length rest.reverse = []
  · rw [empty]
    rfl
  · have before := length_beforeLast empty
    have same : trim (trim rest.length rest.reverse).length
        (beforeLast (trim rest.length rest.reverse)) =
        trim rest.length (beforeLast (trim rest.length rest.reverse)) :=
      trim_enough _ (by omega) (by omega)
    rw [same]

/-- Places that are named relative to a directory do not depend on how it is spelled. -/
theorem respells_join {more : Path} (relative : more.isAbsolute = false) :
    (path.tidy.join more).Respells (path.join more) := by
  refine ⟨isAbsolute_join (isAbsolute_tidy absolute) more, isAbsolute_join absolute more, ?_⟩
  rw [names_join relative, names_join relative, names_tidy absolute]

/-- Tidying up makes no difference to what is further up. -/
theorem ascend_tidy (above : Nat) : path.tidy.ascend (above + 1) = path.ascend (above + 1) := by
  unfold ascend
  rw [parent?_tidy absolute]

end Absolute

theorem isAbsolute_parent? {path outer : Path} (absolute : path.isAbsolute = true)
    (parent : path.parent? = some outer) : outer.isAbsolute = true := by
  obtain ⟨rest, rfl⟩ := isAbsolute_iff.mp absolute
  unfold parent? split at parent
  simp only at parent
  split at parent
  · rw [if_neg (by decide)] at parent
    cases parent
  · cases parent
    exact isAbsolute_iff.mpr ⟨_, rfl⟩

/-- Every place on the way up from a path from the root leads from the root. -/
theorem isAbsolute_ascend (above : Nat) : ∀ {path outer : Path}, path.isAbsolute = true →
    path.ascend above = some outer → outer.isAbsolute = true := by
  induction above with
  | zero =>
      rintro path _ absolute ⟨⟩
      exact absolute
  | succ above ih =>
      intro path outer absolute reached
      obtain ⟨next, parent, further⟩ := Option.bind_eq_some_iff.mp reached
      exact ih (isAbsolute_parent? absolute parent) further

/-- Going up goes step by step. -/
theorem ascend_add (first more : Nat) : ∀ path : Path,
    path.ascend (first + more) = (path.ascend first).bind (ascend more) := by
  induction first with
  | zero =>
      intro path
      rw [Nat.zero_add]
      rfl
  | succ first ih =>
      intro path
      rw [Nat.succ_add, ascend, ascend]
      cases path.parent? with
      | none => rfl
      | some outer => exact ih outer

namespace Below

variable {outer place : Path} {depth : Nat}

/-- What is below a path from the root leads from the root. -/
theorem absolute (below : Below outer depth place) (root : outer.isAbsolute = true) :
    place.isAbsolute = true := by
  induction below with
  | here => exact root
  | inside _ _ ih => exact isAbsolute_join ih _

/-- Going up as many steps as there are names leads back to the directory. -/
theorem ascend_eq (below : Below outer (depth + 1) place) (root : outer.isAbsolute = true) :
    place.ascend (depth + 1) = some outer.tidy := by
  induction depth generalizing place with
  | zero =>
      cases below with
      | inside above isName =>
          cases above
          rw [ascend, parent?_join root isName]
          rfl
  | succ depth ih =>
      cases below with
      | @inside _ inner name above isName =>
          have settled : inner.tidy = inner := by
            cases above with
            | inside further isNameToo => exact tidy_join (further.absolute root) isNameToo
          rw [ascend, parent?_join (above.absolute root) isName, settled]
          exact ih above

/-- Going up as many steps as a place is below leads to the upper path, perhaps tidied up. -/
theorem ascend_cases (below : Below outer depth place) (root : outer.isAbsolute = true) :
    ∃ reached, place.ascend depth = some reached ∧ (reached = outer ∨ reached = outer.tidy) := by
  cases depth with
  | zero =>
      cases below
      exact ⟨outer, rfl, .inl rfl⟩
  | succ depth => exact ⟨_, below.ascend_eq root, .inr rfl⟩

end Below

end LintReport.Path
