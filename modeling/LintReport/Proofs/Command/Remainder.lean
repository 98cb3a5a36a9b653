import LintReport.Command.Arguments
import LintReport.Proofs.Steps

/-!
# What has been read without some items

Of what has been read of a command line, some flags and options can be left out (`Given.without`).
A reading that never met them holds what is left of the other, or will hold it as soon as it has
looked at the value that it has put off (`Given.Leaves`); every step that succeeds in the one
reading does so in the other, unless it is about an item that is left out.
-/

namespace LintReport.Command

namespace Given

/-- What has been read, without some items. -/
def without (items : List Item) (given : Given) : Given where
  flags := given.flags.filter (.flag · ∉ items)
  values := given.values.filter (.parameter ·.1 ∉ items)
  pending := given.pending.filter (.parameter ·.1 ∉ items)

/-- A reading of fewer arguments holds what is left of another one, or will when it has looked at
its last value. -/
def Leaves (items : List Item) (given lean : Given) : Prop :=
  lean = given.without items ∨ lean.settle = .ok (given.without items)

/-- Whether one of some items still has to get its value. -/
def skips (items : List Item) (given : Given) : Bool :=
  match given.pending with
  | some (parameter, none) => .parameter parameter ∈ items
  | _ => false

variable {items : List Item} {given lean next settled : Given} {flag : Flag}
  {parameter : Parameter} {value : String}

/-- An option that is not left out keeps its value. -/
theorem value?_without (kept : .parameter parameter ∉ items) (given : Given) :
    (given.without items).value? parameter = given.value? parameter := by
  unfold value? without
  simp only
  induction given.values with
  | nil => rfl
  | cons entry entries ih =>
      obtain ⟨name, value⟩ := entry
      by_cases same : parameter = name
      · subst same
        rw [List.filter_cons_of_pos (by simpa using kept), List.lookup_cons_self,
          List.lookup_cons_self]
      · have other : (parameter == name) = false := beq_eq_false_iff_ne.mpr same
        rw [List.lookup_cons, other]
        by_cases left : Item.parameter name ∈ items
        · rw [List.filter_cons_of_neg (by simpa using left)]
          exact ih
        · rw [List.filter_cons_of_pos (by simpa using left), List.lookup_cons, other]
          exact ih

/-- An option that is left out has no value. -/
theorem value?_without_of_mem (left : .parameter parameter ∈ items) (given : Given) :
    (given.without items).value? parameter = none := by
  apply List.lookup_eq_none_iff.mpr
  intro entry member
  have kept := of_decide_eq_true (List.mem_filter.mp member).2
  rw [bne_iff_ne]
  rintro rfl
  exact kept left

/-- When a value is taken over. -/
theorem take_eq_ok : given.take parameter value = .ok next ↔
    given.value? parameter = none ∧ parameter.objection? value = none ∧
      next = ⟨given.flags, given.values ++ [(parameter, value)], none⟩ := by
  unfold take
  cases given.value? parameter with
  | some other => simp only [Option.isSome_some, ↓reduceIte, reduceCtorEq, false_and]
  | none =>
      simp only [Option.isSome_none, Bool.false_eq_true, ↓reduceIte, true_and]
      cases parameter.objection? value with
      | some error => simp only [reduceCtorEq, false_and]
      | none => simp only [Except.ok.injEq, true_and, eq_comm]

/-- Nothing is put off when the last value has been looked at. -/
theorem pending_of_settle (settles : given.settle = .ok next) : next.pending = none := by
  unfold settle at settles
  split at settles
  · next nothing =>
      cases settles
      exact nothing
  · cases settles
  · obtain ⟨_, _, rfl⟩ := take_eq_ok.mp settles
    rfl

/-- What is put off of an item that is left out is left out. -/
theorem without_put_off_of_mem (left : .parameter parameter ∈ items) (given : Given)
    (value : Option String) : without items { given with pending := some (parameter, value) } =
      without items { given with pending := none } :=
  congrArg (Given.mk _ _) (Option.filter_some_neg (by simpa using left))

/-- What is put off of another item stays put off. -/
theorem without_put_off_of_not_mem (kept : .parameter parameter ∉ items) (given : Given)
    (value : Option String) : without items { given with pending := some (parameter, value) } =
      { given.without items with pending := some (parameter, value) } :=
  congrArg (Given.mk _ _) (Option.filter_some_pos (by simpa using kept))

/-- Nothing happens when no value has been put off. -/
theorem settle_of_pending (nothing : given.pending = none) : given.settle = .ok given := by
  unfold settle
  rw [nothing]

/-- An option that waits for its value can not be looked at. -/
theorem settle_of_awaits (waits : given.pending = some (parameter, none)) :
    given.settle = .error (.refuse (.valueMissing parameter)) := by
  unfold settle
  rw [waits]

/-- Nothing waits for its value when nothing is put off. -/
theorem skips_of_pending (nothing : given.pending = none) : given.skips items = false := by
  unfold skips
  rw [nothing]

/-- Some option waits for its value. -/
theorem awaits_iff : given.awaits = true ↔ ∃ parameter, given.pending = some (parameter, none) := by
  unfold awaits
  rcases given.pending with _ | ⟨parameter, _ | value⟩
  · exact iff_of_false Bool.false_ne_true (by rintro ⟨_, ⟨⟩⟩)
  · exact iff_of_true rfl ⟨parameter, rfl⟩
  · exact iff_of_false Bool.false_ne_true (by rintro ⟨_, ⟨⟩⟩)

/-- The value of an option is skipped when the option is left out. -/
theorem skips_of_awaits (waits : given.pending = some (parameter, none)) :
    given.skips items = decide (.parameter parameter ∈ items) := by
  unfold skips
  rw [waits]

/-- Nothing is skipped when no option waits for its value. -/
theorem skips_of_idle (items : List Item) (idle : given.awaits = false) :
    given.skips items = false := by
  revert idle
  unfold awaits skips
  rcases given.pending with _ | ⟨parameter, _ | value⟩
  · exact fun _ => rfl
  · rintro ⟨⟩
  · exact fun _ => rfl

/-- What is skipped is the value of an option that is left out. -/
theorem skips_iff : given.skips items = true ↔
    ∃ parameter, given.pending = some (parameter, none) ∧ .parameter parameter ∈ items := by
  unfold skips
  rcases given.pending with _ | ⟨parameter, _ | value⟩
  · exact iff_of_false Bool.false_ne_true (by rintro ⟨_, ⟨⟩, _⟩)
  · simp only [decide_eq_true_eq, Option.some.injEq, Prod.mk.injEq, and_true, exists_eq_left']
  · exact iff_of_false Bool.false_ne_true (by rintro ⟨_, ⟨⟩, _⟩)

/-- A value that is taken over without the items is taken over or left out. -/
theorem without_of_take (items : List Item) (takes : given.take parameter value = .ok next)
    (nothing : given.pending = none) :
    if .parameter parameter ∈ items then next.without items = given.without items
    else (given.without items).take parameter value = .ok (next.without items) := by
  obtain ⟨absent, sound, rfl⟩ := take_eq_ok.mp takes
  split
  · next left =>
      simp only [without, List.filter_append, nothing]
      rw [List.filter_cons_of_neg (by simpa using left), List.filter_nil, List.append_nil]
  · next kept =>
      refine take_eq_ok.mpr ⟨(value?_without kept given).trans absent, sound, ?_⟩
      simp only [without, List.filter_append]
      rw [List.filter_cons_of_pos (by simpa using kept)]
      rfl

/-- Looking at the last value, what is left stays what is left. -/
theorem settle_without (items : List Item) (settles : given.settle = .ok next) :
    (given.without items).settle = .ok (next.without items) := by
  obtain ⟨flags, values, pending⟩ := given
  rcases pending with _ | ⟨parameter, _ | value⟩
  · cases settles
    rfl
  · cases settles
  · have takes : take ⟨flags, values, none⟩ parameter value = .ok next := settles
    have shorter := without_of_take items takes rfl
    split at shorter
    · next left =>
        rw [without_put_off_of_mem left ⟨flags, values, none⟩, shorter]
        rfl
    · next kept =>
        rw [without_put_off_of_not_mem kept ⟨flags, values, none⟩]
        exact shorter

/-- Looking at its last value, the shorter reading catches up. -/
theorem Leaves.settle (leaves : given.Leaves items lean) (settles : given.settle = .ok next) :
    lean.settle = .ok (next.without items) := by
  rcases leaves with rfl | catches
  · exact settle_without items settles
  · have caught := settle_without items settles
    rw [settle_of_pending (pending_of_settle catches)] at caught
    rw [catches, caught]

/-- When a flag is taken over. -/
theorem addFlag_eq_ok {help : Help} :
    given.addFlag flag help = .ok next ↔ flag ≠ .help ∧ flag ≠ .version ∧
      ∃ settled, given.settle = .ok settled ∧ flag ∉ settled.flags ∧
      next = { settled with flags := settled.flags ++ [flag] } := by
  unfold addFlag
  rw [Steps.bind_eq_ok]
  constructor
  · rintro ⟨settled, settles, adds⟩
    split at adds
    · cases adds
    · cases adds
    · next notHelp notVersion =>
        split at adds
        · cases adds
        · next fresh =>
            cases adds
            exact ⟨notHelp, notVersion, settled, settles, fresh, rfl⟩
  · rintro ⟨notHelp, notVersion, settled, settles, fresh, rfl⟩
    refine ⟨settled, settles, ?_⟩
    split
    · exact absurd rfl notHelp
    · exact absurd rfl notVersion
    · rw [if_neg fresh]
      rfl

/-- When a value is put off. -/
theorem defer_eq_ok {value : Option String} : given.defer parameter value = .ok next ↔
    ∃ settled, given.settle = .ok settled ∧
      next = { settled with pending := some (parameter, value) } := by
  unfold defer
  simp only [Steps.bind_eq_ok, Steps.pure_eq_ok, Except.ok.injEq, eq_comm (b := next)]

/-- A flag makes the shorter reading take it over too, or catch up when it is left out. -/
theorem Leaves.addFlag {help : Help} (leaves : given.Leaves items lean)
    (adds : given.addFlag flag help = .ok next) :
    if .flag flag ∈ items then next.Leaves items lean
    else lean.addFlag flag help = .ok (next.without items) := by
  obtain ⟨notHelp, notVersion, settled, settles, fresh, rfl⟩ := addFlag_eq_ok.mp adds
  have caught := leaves.settle settles
  split
  · next left =>
      refine .inr (caught.trans ?_)
      simp only [without, List.filter_append]
      rw [List.filter_cons_of_neg (by simpa using left), List.filter_nil, List.append_nil]
  · next kept =>
      refine addFlag_eq_ok.mpr ⟨notHelp, notVersion, _, caught, ?_, ?_⟩
      · exact fun member => fresh (List.mem_filter.mp member).1
      · simp only [without, List.filter_append]
        rw [List.filter_cons_of_pos (by simpa using kept), List.filter_nil]

/-- A value written right after its option is taken over or left out. -/
theorem Leaves.attach (leaves : given.Leaves items lean)
    (attaches : given.attach parameter value = .ok next) :
    if .parameter parameter ∈ items then next.Leaves items lean
    else lean.attach parameter value = .ok (next.without items) := by
  obtain ⟨settled, settles, takes⟩ := Steps.bind_eq_ok.mp attaches
  have caught := leaves.settle settles
  have shorter := without_of_take items takes (pending_of_settle settles)
  split at shorter
  · next left =>
      rw [if_pos left]
      exact .inr (caught.trans (congrArg _ shorter.symm))
  · next kept =>
      rw [if_neg kept]
      exact Steps.bind_eq_ok.mpr ⟨_, caught, shorter⟩

/-- An option whose value is put off is put off or left out. -/
theorem Leaves.defer {value : Option String} (leaves : given.Leaves items lean)
    (defers : given.defer parameter value = .ok next) :
    if .parameter parameter ∈ items then next.Leaves items lean
    else lean.defer parameter value = .ok (next.without items) := by
  obtain ⟨settled, settles, rfl⟩ := defer_eq_ok.mp defers
  have caught := leaves.settle settles
  split
  · next left =>
      have idle : { settled with pending := none } = settled := by
        rw [← pending_of_settle settles]
      refine .inr (caught.trans ?_)
      rw [without_put_off_of_mem left, idle]
  · next kept =>
      refine defer_eq_ok.mpr ⟨_, caught, ?_⟩
      rw [without_put_off_of_not_mem kept]

/-- What waits for a value and is not left out does so in both readings. -/
theorem Leaves.of_awaits (leaves : given.Leaves items lean)
    (waits : given.pending = some (parameter, none)) (kept : .parameter parameter ∉ items) :
    lean = given.without items := by
  rcases leaves with same | catches
  · exact same
  · obtain ⟨flags, values, pending⟩ := given
    subst waits
    have gone := pending_of_settle catches
    rw [without_put_off_of_not_mem kept ⟨flags, values, none⟩] at gone
    cases gone

/-- An option that is not left out waits for its value in the shorter reading too. -/
theorem Leaves.pending_of_awaits (leaves : given.Leaves items lean)
    (waits : given.pending = some (parameter, none)) (kept : .parameter parameter ∉ items) :
    lean.pending = some (parameter, none) := by
  rw [leaves.of_awaits waits kept]
  obtain ⟨flags, values, pending⟩ := given
  subst waits
  rw [without_put_off_of_not_mem kept ⟨flags, values, none⟩]

/-- Both readings wait for the value of an option, unless it is left out. -/
theorem Leaves.awaits (leaves : given.Leaves items lean) (idle : given.skips items = false) :
    lean.awaits = given.awaits := by
  rw [Bool.eq_iff_iff, awaits_iff, awaits_iff]
  constructor
  · rintro ⟨parameter, waits⟩
    rcases leaves with rfl | catches
    · exact ⟨parameter, (Option.filter_eq_some_iff.mp waits).1⟩
    · rw [settle_of_awaits waits] at catches
      cases catches
  · rintro ⟨parameter, waits⟩
    have kept := of_decide_eq_false ((skips_of_awaits waits).symm.trans idle)
    exact ⟨parameter, leaves.pending_of_awaits waits kept⟩

/-- An option that has no value yet after looking at the last one had none before. -/
theorem value?_of_settle (settles : given.settle = .ok next)
    (absent : next.value? parameter = none) :
    given.value? parameter = none ∧ given.pending.map Prod.fst ≠ some parameter := by
  obtain ⟨flags, values, pending⟩ := given
  rcases pending with _ | ⟨other, _ | value⟩
  · cases settles
    exact ⟨absent, by rintro ⟨⟩⟩
  · cases settles
  · obtain ⟨_, _, rfl⟩ := take_eq_ok.mp (show take ⟨flags, values, none⟩ other value = _ from settles)
    unfold value? at absent
    rw [List.lookup_append, Option.or_eq_none_iff] at absent
    refine ⟨absent.1, ?_⟩
    rintro ⟨⟩
    rw [List.lookup_cons_self] at absent
    cases absent.2

/-- An option that has not been read is not in the shorter reading. -/
theorem Leaves.unread (leaves : given.Leaves items lean) (kept : .parameter parameter ∉ items)
    (absent : given.value? parameter = none)
    (idle : given.pending.map Prod.fst ≠ some parameter) :
    lean.value? parameter = none ∧ lean.pending.map Prod.fst ≠ some parameter := by
  have gone : (given.without items).value? parameter = none :=
    (value?_without kept given).trans absent
  rcases leaves with rfl | catches
  · refine ⟨gone, fun still => idle ?_⟩
    obtain ⟨entry, waits, rfl⟩ := Option.map_eq_some_iff.mp still
    rw [(Option.filter_eq_some_iff.mp waits).1]
    rfl
  · exact value?_of_settle catches gone

end Given

end LintReport.Command
