import LintReport.Proofs.Files.Path

/-!
# Components of a path

A path consists of components: perhaps the root or a dot that opens it, and then its names. Its
parent is the shortest beginning of its text that has all components but the last
(`Path.DropsLast`), and it has one exactly when the last component is not the root
(`Path.parent?_eq_some`). Since the text gets shorter, going from parent to parent comes to an end,
and the paths on the way are a list (`Path.wayUp`).
-/

namespace LintReport.Path

/-- A part of a path. A dot is a part only where the path opens with it. -/
inductive Component where
  | root
  | here
  | name (chars : List Char)
  deriving DecidableEq, Repr

/-- The name that a component is, if it is one. -/
def Component.name? : Component → Option (List Char)
  | .name chars => some chars
  | _ => none

/-- What a path opens with, before its first name. -/
def opening (path : Path) : List Component :=
  match path.chars with
  | '/' :: _ => [.root]
  | ['.'] => [.here]
  | '.' :: '/' :: _ => [.here]
  | _ => []

/-- The components of a path. -/
def components (path : Path) : List Component := path.opening ++ path.names.map .name

/-- The second path is the first one without its last component, and spelled as its beginning. -/
structure DropsLast (path outer : Path) : Prop where
  begins : outer.chars <+: path.chars
  last : ∃ last, last ≠ .root ∧ path.components = outer.components ++ [last]
  shortest : ∀ chars, chars <+: path.chars → components ⟨chars⟩ = outer.components →
    outer.chars.length ≤ chars.length

/-- What opens a path is no name. -/
theorem name?_of_mem_opening {path : Path} {component : Component}
    (member : component ∈ path.opening) : component.name? = none := by
  unfold opening at member
  split at member <;> simp only [List.mem_singleton, List.not_mem_nil] at member <;> subst member
    <;> rfl

/-- The names of a path are those of its components. -/
theorem names_eq_filterMap (path : Path) :
    path.names = path.components.filterMap Component.name? := by
  have nothing : path.opening.filterMap Component.name? = [] :=
    List.filterMap_eq_nil_iff.mpr fun _ => name?_of_mem_opening
  have each : (Component.name? ∘ Component.name) = some := rfl
  rw [components, List.filterMap_append, nothing, List.nil_append, List.filterMap_map, each,
    List.filterMap_some]

/-- Paths with the same components have the same names. -/
theorem names_congr {path other : Path} (same : path.components = other.components) :
    path.names = other.names := by
  rw [names_eq_filterMap, same, ← names_eq_filterMap]

/-! ## Beginnings of a path -/

/-- A path is its beginning and then the rest. -/
theorem split_append (path : Path) : path.split.1 ++ path.split.2 = path.chars := by
  unfold split
  split
  · next opens => rw [opens, List.singleton_append]
  · next opens => rw [opens, List.append_nil]
  · next opens => rw [opens, List.singleton_append]
  · exact List.nil_append _

/-- A text that opens neither with a slash nor with a dot alone has no beginning to split off. -/
theorem split_of_plain {chars : List Char} (noSlash : ∀ rest, chars ≠ '/' :: rest)
    (noDot : chars ≠ ['.']) (noDotSlash : ∀ rest, chars ≠ '.' :: '/' :: rest) :
    split ⟨chars⟩ = ([], chars) := by
  unfold split
  split
  · next rest opens => exact absurd opens (noSlash rest)
  · next opens => exact absurd opens noDot
  · next rest opens => exact absurd opens (noDotSlash rest)
  · rfl

/-- A beginning of a path starts as the path does, unless it is cut off behind a dot. -/
theorem split_of_begins {path : Path} {kept : List Char} (begins : kept <+: path.split.2)
    (noDot : kept ≠ ['.']) : split ⟨path.split.1 ++ kept⟩ = (path.split.1, kept) := by
  obtain ⟨chars⟩ := path
  obtain ⟨cut, whole⟩ := begins
  unfold split at whole ⊢
  split at whole
  · next rest opens => rfl
  · next opens =>
      obtain rfl : kept = [] := (List.append_eq_nil_iff.mp whole).1
      rfl
  · next rest opens =>
      cases kept with
      | nil => rfl
      | cons c kept =>
          cases whole
          rfl
  · next noSlash noDotAlone noDotSlash =>
      obtain rfl : kept ++ cut = chars := whole
      apply split_of_plain _ noDot
      · rintro rest rfl
        exact noDotSlash (rest ++ cut) rfl
      · rintro rest rfl
        exact noSlash (rest ++ cut) rfl

/-- The beginning of a path has no names, whatever is kept of the rest. -/
theorem names_of_begins {path : Path} {kept : List Char} (begins : kept <+: path.split.2) :
    names ⟨path.split.1 ++ kept⟩ = names ⟨kept⟩ := by
  obtain ⟨chars⟩ := path
  obtain ⟨cut, whole⟩ := begins
  unfold split at whole ⊢
  split at whole
  · next rest opens => exact names_append [] kept
  · next opens =>
      obtain rfl : kept = [] := (List.append_eq_nil_iff.mp whole).1
      rfl
  · next rest opens =>
      cases kept with
      | nil => rfl
      | cons c kept =>
          cases whole
          exact (names_append ['.'] kept).trans (names_append [] kept).symm
  · next => rfl

/-- What a path starts from has no name. -/
theorem names_split (path : Path) : path.names = names ⟨path.split.2⟩ := by
  have all : names ⟨path.split.1 ++ path.split.2⟩ = names ⟨path.split.2⟩ :=
    names_of_begins List.prefix_rfl
  rw [← all, split_append]

/-- What opens a path is the root, the place itself or nothing. -/
theorem opening_eq (path : Path) : path.opening =
    if path.split.1 = ['/'] then [.root] else if path.split.1 = ['.'] then [.here] else [] := by
  obtain ⟨chars⟩ := path
  unfold opening
  split
  · next rest opens =>
      obtain rfl : chars = '/' :: rest := opens
      rfl
  · next opens =>
      obtain rfl : chars = ['.'] := opens
      rfl
  · next rest opens =>
      obtain rfl : chars = '.' :: '/' :: rest := opens
      rfl
  · next noSlash noDot noDotSlash =>
      rw [split_of_plain noSlash noDot noDotSlash]
      rfl

/-- The components of a path are what opens it and then its names. -/
theorem components_eq (path : Path) :
    path.components = path.opening ++ (names ⟨path.split.2⟩).map .name := by
  rw [components, names_split]

/-- Of the rest of a path a part may be kept, as long as it is no dot alone. -/
theorem components_of_begins {path : Path} {kept : List Char} (begins : kept <+: path.split.2)
    (noDot : kept ≠ ['.']) :
    components ⟨path.split.1 ++ kept⟩ = path.opening ++ (names ⟨kept⟩).map .name := by
  have parts := split_of_begins begins noDot
  rw [components_eq, opening_eq ⟨path.split.1 ++ kept⟩, parts, ← opening_eq]

/-- The slashes and dots that close a path name nothing. -/
theorem names_bare (rest : List Char) : names ⟨bare rest⟩ = names ⟨rest⟩ := by
  rw [bare, names_trim, List.reverse_reverse]

/-- What is left without closing slashes and dots is nothing, or it closes with a name. -/
theorem bare_cases (rest : List Char) :
    bare rest = [] ∨ ∃ front name, bare rest = front ++ name ∧
      (front = [] ∨ ∃ outer, front = outer ++ ['/']) ∧ IsName name := by
  by_cases empty : bare rest = []
  · exact .inl empty
  have filled : trim rest.length rest.reverse ≠ [] := fun none => empty (by rw [bare, none]; rfl)
  have stays := trim_trim rest.length (Nat.le_of_eq List.length_reverse) 1
  have closing : ¬ (lastName (trim rest.length rest.reverse) = [] ∨
      lastName (trim rest.length rest.reverse) = ['.']) := by
    intro closes
    rw [trim, if_neg (by rwa [List.isEmpty_iff]), if_pos closes, trim] at stays
    exact absurd (congrArg List.length stays) (Nat.ne_of_lt (length_beforeLast filled))
  have isName : IsName (lastName (trim rest.length rest.reverse)).reverse := by
    refine ⟨fun none => closing (.inl (List.reverse_eq_nil_iff.mp none)), fun slash => ?_,
      fun dot => closing (.inr (List.reverse_eq_iff.mp dot))⟩
    have stops := List.all_eq_true.mp List.all_takeWhile _ (List.mem_reverse.mp slash)
    simp only [bne_self_eq_false, Bool.false_eq_true] at stops
  refine .inr ?_
  rcases lastName_cases (trim rest.length rest.reverse) with ⟨whole, _⟩ | whole
  · refine ⟨[], _, ?_, .inl rfl, isName⟩
    rw [bare, ← whole, List.nil_append]
  · refine ⟨(beforeLast (trim rest.length rest.reverse)).reverse ++ ['/'], _, ?_,
      .inr ⟨_, rfl⟩, isName⟩
    rw [bare]
    conv_lhs => rw [whole]
    rw [List.reverse_append, List.reverse_cons]

/-- Names that stand behind a slash are those of what stands there. -/
theorem names_of_opens {front : List Char} (opens : front = [] ∨ ∃ outer, front = outer ++ ['/'])
    (more : List Char) : names ⟨front ++ more⟩ = names ⟨front⟩ ++ names ⟨more⟩ := by
  have nothing : names ⟨[]⟩ = [] := rfl
  rcases opens with rfl | ⟨outer, rfl⟩
  · rw [nothing, List.nil_append, List.nil_append]
  · rw [List.append_assoc, List.singleton_append, names_append, names_append, nothing,
      List.append_nil]

/-! ## The parent -/

/-- A path of which only the beginning counts has no parent, unless it begins with a dot. -/
theorem parent?_of_bare_eq_nil {path : Path} (empty : bare path.split.2 = []) :
    path.parent? = if path.split.1 = ['.'] then some ⟨[]⟩ else none := by
  have nothing : trim path.split.2.length path.split.2.reverse = [] :=
    List.reverse_eq_nil_iff.mp empty
  unfold parent?
  simp only [nothing, List.isEmpty_nil, ↓reduceIte]

/-- The last name of a path is the one that closes it. -/
theorem names_of_bare_eq_append {path : Path} {front name : List Char}
    (closes : bare path.split.2 = front ++ name)
    (opens : front = [] ∨ ∃ outer, front = outer ++ ['/']) (isName : IsName name) :
    path.names = names ⟨front⟩ ++ [name] := by
  rw [names_split, ← names_bare, closes, names_of_opens opens, names_of_isName isName]

/-- A text without slashes is one name or none. -/
theorem names_of_noSlash {text : List Char} (noSlash : '/' ∉ text) :
    names ⟨text⟩ = [] ∨ IsName text ∧ names ⟨text⟩ = [text] := by
  by_cases nothing : text = [] ∨ text = ['.']
  · rcases nothing with rfl | rfl <;> exact .inl rfl
  · obtain ⟨nonempty, notDot⟩ := not_or.mp nothing
    have isName : IsName text := ⟨nonempty, noSlash, notDot⟩
    exact .inr ⟨isName, names_of_isName isName⟩

/-- A name that is written on stays one, up to the next slash. -/
theorem names_append_ne_nil {text : List Char} (isName : IsName text) (more : List Char) :
    names ⟨text ++ more⟩ ≠ [] := by
  have longer {tail : List Char} (noSlash : '/' ∉ tail) : IsName (text ++ tail) := by
    refine ⟨List.append_ne_nil_of_left_ne_nil isName.nonempty _, ?_, fun dot => ?_⟩
    · simp only [List.mem_append, isName.noSlash, noSlash, or_self, not_false_eq_true]
    · rcases List.append_eq_singleton_iff.mp dot with ⟨empty, _⟩ | ⟨same, _⟩
      · exact isName.nonempty empty
      · exact isName.notDot same
  by_cases slash : '/' ∈ more
  · obtain ⟨tail, rest, rfl, noSlash⟩ := List.eq_append_cons_of_mem slash
    rw [← List.append_assoc, names_append, names_of_isName (longer noSlash)]
    exact List.cons_ne_nil _ _
  · rw [names_of_isName (longer slash)]
    exact List.cons_ne_nil _ _

/-- A beginning has no more names than the whole. -/
theorem length_names_le (text more : List Char) :
    (names ⟨text⟩).length ≤ (names ⟨text ++ more⟩).length := by
  by_cases slash : '/' ∈ text
  · obtain ⟨front, back, whole⟩ := List.append_of_mem slash
    have shorter : back.length < text.length := by
      rw [whole, List.length_append, List.length_cons]
      omega
    have behind := length_names_le back more
    rw [whole, List.append_assoc, List.cons_append, names_append, names_append,
      List.length_append, List.length_append]
    omega
  · rcases names_of_noSlash slash with nothing | ⟨isName, alone⟩
    · rw [nothing]
      exact Nat.zero_le _
    · rw [alone]
      exact List.length_pos_iff.mpr (names_append_ne_nil isName more)
termination_by text.length

/-- What closes with a name has other names when some of it is cut off. -/
theorem names_ne_of_cut {front name kept : List Char}
    (opens : front = [] ∨ ∃ outer, front = outer ++ ['/']) (isName : IsName name)
    (begins : kept <+: front ++ name) (cut : kept ≠ front ++ name) :
    names ⟨kept⟩ ≠ names ⟨front⟩ ++ [name] := by
  intro same
  rcases List.prefix_or_prefix_of_prefix begins (List.prefix_append front name) with
    ⟨more, whole⟩ | ⟨part, whole⟩
  · have fewer := length_names_le kept more
    rw [whole, same, List.length_append, List.length_singleton] at fewer
    omega
  · obtain rfl : front ++ part = kept := whole
    have inside : part <+: name := (List.prefix_append_right_inj front).mp begins
    have noSlash : '/' ∉ part := fun slash => isName.noSlash (inside.subset slash)
    have part := List.append_cancel_left ((names_of_opens opens part).symm.trans same)
    rcases names_of_noSlash noSlash with nothing | ⟨_, alone⟩
    · rw [nothing] at part
      cases part
    · rw [alone, List.singleton_inj] at part
      exact cut (congrArg (front ++ ·) part)

/-- What is left without closing dots is no dot. -/
theorem bare_ne_dot (rest : List Char) : bare rest ≠ ['.'] := by
  intro dot
  rcases bare_cases rest with empty | ⟨front, name, closes, _, isName⟩
  · rw [empty] at dot
    cases dot
  · rw [closes] at dot
    rcases List.append_eq_singleton_iff.mp dot with ⟨_, same⟩ | ⟨_, empty⟩
    · exact isName.notDot same
    · exact isName.nonempty empty

/-- The beginning of a path is empty, or one character that opens it. -/
theorem split_start (path : Path) :
    path.split.1 = [] ∨ ∃ c, path.split.1 = [c] ∧ path.opening ≠ [] := by
  rw [opening_eq]
  unfold split
  split
  · exact .inr ⟨'/', rfl, List.cons_ne_nil _ _⟩
  · exact .inr ⟨'.', rfl, List.cons_ne_nil _ _⟩
  · exact .inr ⟨'.', rfl, List.cons_ne_nil _ _⟩
  · exact .inl rfl

/-- No shorter beginning has the components of one that closes with no slash and no dot. -/
theorem shortest_of_bare {path : Path} {front chars : List Char}
    (inside : bare front <+: path.split.2) (begins : chars <+: path.chars)
    (same : components ⟨chars⟩ = components ⟨path.split.1 ++ bare front⟩) :
    (path.split.1 ++ bare front).length ≤ chars.length := by
  apply Nat.le_of_not_lt
  intro shorter
  rw [← split_append path] at begins
  by_cases starts : path.split.1 <+: chars
  · obtain ⟨part, rfl⟩ := starts
    have behind : part <+: path.split.2 := (List.prefix_append_right_inj _).mp begins
    have cut : part.length < (bare front).length := by
      simp only [List.length_append] at shorter
      omega
    have names := names_congr same
    rw [names_of_begins behind, names_of_begins inside] at names
    have within : part <+: bare front :=
      List.prefix_of_prefix_length_le behind inside (Nat.le_of_lt cut)
    rcases bare_cases front with empty | ⟨outer, name, closes, opens, isName⟩
    · rw [empty] at cut
      exact Nat.not_lt_zero _ cut
    · rw [closes] at names within cut
      rw [names_of_opens opens, names_of_isName isName] at names
      refine names_ne_of_cut opens isName within ?_ names
      rintro rfl
      exact Nat.lt_irrefl _ cut
  · rcases split_start path with empty | ⟨c, start, opens⟩
    · rw [empty] at starts
      exact starts List.nil_prefix
    · have nothing : chars = [] := by
        rw [start] at begins starts
        cases chars with
        | nil => rfl
        | cons other chars =>
            cases (List.cons_prefix_cons.mp begins).1
            exact absurd (List.cons_prefix_cons.mpr ⟨rfl, List.nil_prefix⟩) starts
      rw [nothing, components_of_begins inside (bare_ne_dot front)] at same
      exact opens (List.append_eq_nil_iff.mp same.symm).1

/-- What stands before the name that closes a path is the path without its last component. -/
theorem dropsLast_of_bare_eq_append {path : Path} {front name : List Char}
    (closes : bare path.split.2 = front ++ name)
    (opens : front = [] ∨ ∃ outer, front = outer ++ ['/']) (isName : IsName name) :
    path.DropsLast ⟨path.split.1 ++ bare front⟩ := by
  have inside : bare front <+: path.split.2 := by
    refine (bare_begins front).trans (List.IsPrefix.trans ?_ (bare_begins path.split.2))
    rw [closes]
    exact List.prefix_append _ _
  have above : components ⟨path.split.1 ++ bare front⟩ =
      path.opening ++ (names ⟨front⟩).map .name := by
    rw [components_of_begins inside (bare_ne_dot front), names_bare]
  refine ⟨?_, ⟨.name name, Component.noConfusion, ?_⟩, ?_⟩
  · rw [← split_append path]
    exact (List.prefix_append_right_inj _).mpr inside
  · rw [above, components, names_of_bare_eq_append closes opens isName, List.map_append,
      List.append_assoc]
    rfl
  · intro chars begins same
    exact shortest_of_bare inside begins same

/-- Going to the parent drops the last component. -/
theorem dropsLast_of_parent? {path outer : Path} (parent : path.parent? = some outer) :
    path.DropsLast outer := by
  rcases bare_cases path.split.2 with empty | ⟨front, name, closes, opens, isName⟩
  · rw [parent?_of_bare_eq_nil empty] at parent
    split at parent
    · next dot =>
        cases parent
        have unnamed : path.names = [] := by
          rw [names_split, ← names_bare, empty]
          rfl
        refine ⟨List.nil_prefix, ⟨.here, Component.noConfusion, ?_⟩,
          fun _ _ _ => Nat.zero_le _⟩
        rw [components, opening_eq, unnamed, dot]
        rfl
    · cases parent
  · rw [parent?_of_bare_eq_append opens isName closes] at parent
    cases parent
    exact dropsLast_of_bare_eq_append closes opens isName

/-- A path without its last component is determined. -/
theorem DropsLast.unique {path first second : Path} (one : path.DropsLast first)
    (two : path.DropsLast second) : first = second := by
  obtain ⟨_, _, whole⟩ := one.last
  obtain ⟨_, _, wholeToo⟩ := two.last
  have same : first.components = second.components :=
    (List.append_inj' (whole.symm.trans wholeToo) rfl).1
  have sizes : first.chars.length = second.chars.length :=
    Nat.le_antisymm (one.shortest _ two.begins same.symm) (two.shortest _ one.begins same)
  have chars : first.chars = second.chars :=
    (List.prefix_of_prefix_length_le one.begins two.begins (Nat.le_of_eq sizes)).eq_of_length sizes
  cases first
  cases second
  cases chars
  rfl

/-- Only a path with a component besides the root can lose its last one. -/
theorem DropsLast.components_ne {path outer : Path} (drops : path.DropsLast outer) :
    ¬ (path.components = [] ∨ path.components = [.root]) := by
  obtain ⟨last, notRoot, whole⟩ := drops.last
  rw [whole]
  rintro (empty | root)
  · exact List.append_ne_nil_of_right_ne_nil _ (List.cons_ne_nil _ _) empty
  · rcases List.append_eq_singleton_iff.mp root with ⟨_, same⟩ | ⟨_, none⟩
    · exact notRoot (List.singleton_inj.mp same)
    · cases none

/-- A path without a parent has no component, or the root alone. -/
theorem parent?_eq_none {path : Path} :
    path.parent? = none ↔ path.components = [] ∨ path.components = [.root] := by
  constructor
  · intro parent
    rcases bare_cases path.split.2 with empty | ⟨front, name, closes, opens, isName⟩
    · have unnamed : path.names = [] := by
        rw [names_split, ← names_bare, empty]
        rfl
      rw [parent?_of_bare_eq_nil empty, ite_eq_right_iff] at parent
      have noDot : path.split.1 ≠ ['.'] := fun dot => Option.some_ne_none _ (parent dot)
      rw [components, unnamed, opening_eq, if_neg noDot, List.map_nil, List.append_nil]
      split
      · exact .inr rfl
      · exact .inl rfl
    · rw [parent?_of_bare_eq_append opens isName closes] at parent
      cases parent
  · intro short
    cases parent : path.parent? with
    | none => rfl
    | some outer => exact absurd short (dropsLast_of_parent? parent).components_ne

/-- **The parent is the path without its last component.** -/
theorem parent?_eq_some {path outer : Path} :
    path.parent? = some outer ↔ path.DropsLast outer := by
  refine ⟨dropsLast_of_parent?, fun drops => ?_⟩
  cases parent : path.parent? with
  | none => exact absurd (parent?_eq_none.mp parent) drops.components_ne
  | some other => rw [(dropsLast_of_parent? parent).unique drops]

/-- The parent is spelled with fewer characters. -/
theorem length_lt_of_parent? {path outer : Path} (parent : path.parent? = some outer) :
    outer.chars.length < path.chars.length := by
  have drops := dropsLast_of_parent? parent
  apply Nat.lt_of_le_of_ne drops.begins.length_le
  intro same
  have spelled : outer.chars = path.chars := drops.begins.eq_of_length same
  obtain ⟨last, _, whole⟩ := drops.last
  cases path
  cases outer
  cases spelled
  exact absurd (List.self_eq_append_right.mp whole) (List.cons_ne_nil _ _)

/-! ## The way up -/

/-- The path, its parent, the parent of that one, and so on. -/
def wayUp (path : Path) : List Path :=
  match _ : path.parent? with
  | none => [path]
  | some outer => path :: outer.wayUp
termination_by path.chars.length
decreasing_by exact length_lt_of_parent? (by assumption)

/-- The way up goes on from the parent. -/
theorem wayUp_of_parent? {path outer : Path} (parent : path.parent? = some outer) :
    path.wayUp = path :: outer.wayUp := by
  rw [wayUp]
  split
  · next none => cases parent.symm.trans none
  · next other =>
      cases parent.symm.trans other
      rfl

/-- Without a parent the way up is the path alone. -/
theorem wayUp_of_no_parent {path : Path} (parent : path.parent? = none) :
    path.wayUp = [path] := by
  rw [wayUp]
  split
  · rfl
  · next other => cases parent.symm.trans other

/-- The places on the way up are reached by so many steps to a parent. -/
theorem getElem?_wayUp (above : Nat) : ∀ path : Path, path.wayUp[above]? = path.ascend above := by
  induction above with
  | zero =>
      intro path
      cases parent : path.parent? with
      | none => rw [wayUp_of_no_parent parent]; rfl
      | some outer => rw [wayUp_of_parent? parent]; rfl
  | succ above ih =>
      intro path
      rw [ascend]
      cases parent : path.parent? with
      | none => rw [wayUp_of_no_parent parent]; rfl
      | some outer =>
          rw [wayUp_of_parent? parent, List.getElem?_cons_succ, ih]
          rfl

/-- Each place on the way is the one before it without its last component. -/
theorem getElem?_wayUp_succ {path outer : Path} {above : Nat} :
    path.wayUp[above + 1]? = some outer ↔
      ∃ place, path.wayUp[above]? = some place ∧ place.DropsLast outer := by
  have once (place : Path) : place.ascend 1 = place.parent? := by
    rw [ascend]
    cases place.parent? <;> rfl
  simp only [getElem?_wayUp, ascend_add above 1, Option.bind_eq_some_iff, once, parent?_eq_some]

end LintReport.Path
