import LintReport.Proofs.Command.Remainder

/-!
# Arguments without some items

Flags and options may be left out of a command line (`Command.leavingOut`): an argument is left out,
or only some of its letters are, or it is left as it is, and the value of an option goes with it. A
reading of the shorter line keeps up with that of the longer one at every argument
(`Command.readArgument_left`, `Command.readArgument_skipped`).
-/

namespace LintReport.Command

/-! ## Shorter command lines -/

/-- What a word after two dashes names where it names anything. -/
def Item.ofWord? (word : String) : Option Item :=
  [Scope.program, .report, .checkUpdate].findSome? (·.longItem? word)

/-- What a letter after one dash names where it names anything. -/
def Item.ofLetter? (letter : Char) : Option Item :=
  [Scope.program, .report, .checkUpdate].findSome? (·.shortItem? letter)

/-- Whether an item has a value. -/
def Item.hasValue : Item → Bool
  | flag _ => false
  | parameter _ => true

/-- What is left of the letters after one dash without some items, and whether the next argument is
the value of one of these. -/
def lettersLeft (items : List Item) : List Char → List Char × Bool
  | [] => ([], false)
  | letter :: rest =>
    match Item.ofLetter? letter with
    | none => (letter :: rest, false)
    | some (.parameter parameter) =>
      if .parameter parameter ∈ items then ([], rest.isEmpty) else (letter :: rest, false)
    | some (.flag flag) =>
      let (left, awaits) := lettersLeft items rest
      (if .flag flag ∈ items then left else letter :: left, awaits)

/-- What is left of an argument without some items, and whether the next argument is the value of
one of these. -/
def argumentLeft (items : List Item) (argument : String) : Option String × Bool :=
  match argument.toList with
  | '-' :: '-' :: chars =>
    let (name, value) := splitLong chars
    match Item.ofWord? name with
    | none => (some argument, false)
    | some item =>
      if item ∈ items then (none, item.hasValue && value.isNone) else (some argument, false)
  | '-' :: letter :: chars =>
    match lettersLeft items (letter :: chars) with
    | ([], awaits) => (none, awaits)
    | (left, awaits) => (some (String.ofList ('-' :: left)), awaits)
  | _ => (some argument, false)

/-- What is left of arguments without some items, the first of which may be the value of one of
these. Behind two dashes alone there are no items. -/
def argumentsLeft (items : List Item) : (awaits : Bool) → List String → List String
  | _, [] => []
  | true, _ :: rest => argumentsLeft items false rest
  | false, argument :: rest =>
    if argument = "--" then argument :: rest
    else
      let (left, awaits) := argumentLeft items argument
      left.toList ++ argumentsLeft items awaits rest

/-- A command line without some items. -/
def leavingOut (items : List Item) (arguments : List String) : List String :=
  argumentsLeft items false arguments

example : leavingOut [.flag .quiet, .parameter .format]
    ["-qv", "report", "-qf", "json", "--", "-q"] = ["-v", "report", "--", "-q"] := by decide

/-- The item that a word names in a scope is the one that it names at all. -/
theorem Item.ofWord?_of_longItem? {scope : Scope} {word : String} {item : Item}
    (names : scope.longItem? word = some item) : Item.ofWord? word = some item := by
  unfold Scope.longItem? at names
  split at names <;> cases names <;> rfl

/-- The item that a letter names in a scope is the one that it names at all. -/
theorem Item.ofLetter?_of_shortItem? {scope : Scope} {letter : Char} {item : Item}
    (names : scope.shortItem? letter = some item) : Item.ofLetter? letter = some item := by
  unfold Scope.shortItem? at names
  split at names <;> cases names <;> rfl

open Given

/-! ## Single arguments -/

variable {items : List Item} {scope : Scope} {given lean next : Given} {argument : String}

/-- A flag leaves nothing to wait for. -/
theorem skips_of_addFlag {flag : Flag} {help : Help}
    (adds : given.addFlag flag help = .ok next) : next.skips items = false := by
  obtain ⟨_, _, settled, settles, _, rfl⟩ := addFlag_eq_ok.mp adds
  have nothing : settled.pending = none := pending_of_settle settles
  exact skips_of_pending nothing

/-- A value written right after its option leaves nothing to wait for. -/
theorem skips_of_attach {parameter : Parameter} {value : String}
    (attaches : given.attach parameter value = .ok next) : next.skips items = false := by
  obtain ⟨settled, _, takes⟩ := Steps.bind_eq_ok.mp attaches
  obtain ⟨_, _, rfl⟩ := take_eq_ok.mp takes
  rfl

/-- The value of an option is waited for when it is not there. -/
theorem skips_of_defer {parameter : Parameter} {value : Option String}
    (defers : given.defer parameter value = .ok next) :
    next.skips items = (decide (.parameter parameter ∈ items) && value.isNone) := by
  obtain ⟨settled, _, rfl⟩ := defer_eq_ok.mp defers
  cases value with
  | none => exact (Bool.and_true _).symm
  | some value => exact (Bool.and_false _).symm

/-- **A word after two dashes** names an item, which is left out or read by both readings. -/
theorem readLong_left {chars : List Char} {name : String} {value : Option String}
    (leaves : given.Leaves items lean) (splits : splitLong chars = (name, value))
    (reads : readLong scope given chars = .ok next) :
    ∃ item, Item.ofWord? name = some item ∧
      next.skips items = (decide (item ∈ items) && (item.hasValue && value.isNone)) ∧
      if item ∈ items then next.Leaves items lean
      else readLong scope lean chars = .ok (next.without items) := by
  unfold readLong at reads ⊢
  simp only [splits] at reads ⊢
  cases names : scope.longItem? name with
  | none =>
      rw [names] at reads
      cases reads
  | some item =>
      rw [names] at reads
      refine ⟨item, Item.ofWord?_of_longItem? names, ?_⟩
      cases item with
      | flag flag =>
          cases value with
          | some value => cases reads
          | none =>
              refine ⟨(skips_of_addFlag reads).trans ?_, leaves.addFlag reads⟩
              exact (Bool.and_false _).symm
      | parameter parameter =>
          cases value with
          | some value =>
              refine ⟨(skips_of_attach reads).trans ?_, leaves.attach reads⟩
              exact (Bool.and_false _).symm
          | none => exact ⟨skips_of_defer reads, leaves.defer reads⟩

/-- **Letters after one dash** name flags and at last an option, of which some are left out. Those
that are left are read by the shorter reading; the first of them is no dash. -/
theorem readShort_left (letters : List Char) : ∀ {given lean : Given},
    given.Leaves items lean → given.skips items = false →
    readShort scope given letters = .ok next →
    next.skips items = (lettersLeft items letters).2 ∧
    (lettersLeft items letters).1.head? ≠ some '-' ∧
    ∃ nextToo, readShort scope lean (lettersLeft items letters).1 = .ok nextToo ∧
      next.Leaves items nextToo := by
  induction letters with
  | nil =>
      rintro given lean leaves idle ⟨⟩
      exact ⟨idle, by rintro ⟨⟩, lean, rfl, leaves⟩
  | cons letter rest ih =>
      intro given lean leaves idle reads
      have notDash {item : Item} (names : scope.shortItem? letter = some item) :
          some letter ≠ some '-' := by
        rintro ⟨⟩
        cases scope <;> cases names
      unfold readShort at reads
      cases names : scope.shortItem? letter with
      | none =>
          rw [names] at reads
          cases reads
      | some item =>
          rw [names] at reads
          unfold lettersLeft
          rw [Item.ofLetter?_of_shortItem? names]
          cases item with
          | flag flag =>
              obtain ⟨between, adds, further⟩ := Steps.bind_eq_ok.mp reads
              have both := leaves.addFlag adds
              by_cases left : Item.flag flag ∈ items
              · rw [if_pos left] at both
                simp only [left, ↓reduceIte]
                exact ih both (skips_of_addFlag adds) further
              · rw [if_neg left] at both
                simp only [left, ↓reduceIte]
                obtain ⟨skips, _, nextToo, furtherToo, leavesToo⟩ :=
                  ih (.inl rfl) (skips_of_addFlag adds) further
                refine ⟨skips, notDash names, nextToo, ?_, leavesToo⟩
                unfold readShort
                rw [names]
                exact Steps.bind_eq_ok.mpr ⟨_, both, furtherToo⟩
          | parameter parameter =>
              have both : next.skips items =
                    (decide (.parameter parameter ∈ items) && rest.isEmpty) ∧
                  if .parameter parameter ∈ items then next.Leaves items lean
                  else readShort scope lean (letter :: rest) = .ok (next.without items) := by
                unfold readShort
                rw [names]
                simp only at reads ⊢
                split at reads
                · exact ⟨skips_of_defer reads, leaves.defer reads⟩
                · refine ⟨(skips_of_attach reads).trans ?_, leaves.attach reads⟩
                  exact (Bool.and_false _).symm
                · next some _ =>
                    have rest : rest.isEmpty = false := by
                      cases rest with
                      | nil => exact absurd rfl some
                      | cons => rfl
                    refine ⟨(skips_of_attach reads).trans ?_, leaves.attach reads⟩
                    rw [rest, Bool.and_false]
              obtain ⟨skips, both⟩ := both
              by_cases left : Item.parameter parameter ∈ items
              · rw [if_pos left] at both
                simp only [left, ↓reduceIte]
                exact ⟨skips.trans (by simp [left]), by rintro ⟨⟩, lean, rfl, both⟩
              · rw [if_neg left] at both
                simp only [left, ↓reduceIte]
                exact ⟨skips.trans (by simp [left]), notDash names, _, both, .inl rfl⟩

/-- **An argument that stands for itself** is read by both readings. -/
theorem readPlain_left (input : .parameter .input ∉ items) (leaves : given.Leaves items lean)
    (reads : readPlain scope given argument = .ok next) :
    readPlain scope lean argument = .ok (next.without items) ∧ next.skips items = false := by
  cases scope with
  | program => cases reads
  | checkUpdate => cases reads
  | report =>
      simp only [readPlain] at reads ⊢
      split at reads
      · cases reads
      · next fresh =>
          obtain ⟨absent, idle⟩ := not_or.mp fresh
          obtain ⟨absentToo, idleToo⟩ :=
            leaves.unread input (Option.not_isSome_iff_eq_none.mp absent) idle
          have both := leaves.defer reads
          rw [if_neg input] at both
          rw [if_neg (not_or.mpr ⟨Option.not_isSome_iff_eq_none.mpr absentToo, idleToo⟩)]
          exact ⟨both, (skips_of_defer reads).trans (Bool.and_false _)⟩

/-- The reading of fewer arguments goes on with what is left of an argument. -/
def readLeft (scope : Scope) (lean : Given) : Option String → Except Stop Given
  | none => .ok lean
  | some argument => readArgument scope lean argument

/-- An argument with two dashes is read as a long option. -/
theorem readArgument_long {chars : List Char} (spelled : argument.toList = '-' :: '-' :: chars) :
    readArgument scope given argument = readLong scope given chars := by
  unfold readArgument
  rw [spelled]
  rfl

/-- An argument with one dash is read as a cluster of short options. -/
theorem readArgument_short {letter : Char} {rest : List Char}
    (spelled : argument.toList = '-' :: letter :: rest) (other : letter ≠ '-') :
    readArgument scope given argument = readShort scope given (letter :: rest) := by
  unfold readArgument
  rw [spelled]
  split
  · next same =>
      cases same
      exact absurd rfl other
  · next same =>
      cases same
      rfl
  · next impossible => exact absurd rfl (impossible letter rest)

/-- An argument without dashes is the value of an option that waits for one. -/
theorem readArgument_value {parameter : Parameter}
    (plain : ∀ letter rest, argument.toList ≠ '-' :: letter :: rest)
    (waits : given.pending = some (parameter, none)) :
    readArgument scope given argument =
      .ok { given with pending := some (parameter, some argument) } := by
  unfold readArgument
  rw [waits]
  split
  · next spelled => exact absurd spelled (plain _ _)
  · next spelled => exact absurd spelled (plain _ _)
  · rfl

/-- An argument without dashes stands for itself when no option waits for a value. -/
theorem readArgument_plain (plain : ∀ letter rest, argument.toList ≠ '-' :: letter :: rest)
    (idle : given.awaits = false) :
    readArgument scope given argument = readPlain scope given argument := by
  unfold readArgument
  split
  · next spelled => exact absurd spelled (plain _ _)
  · next spelled => exact absurd spelled (plain _ _)
  · split
    · next waits =>
        unfold Given.awaits at idle
        rw [waits] at idle
        cases idle
    · rfl

/-- **An argument** is left out or shortened, and the shorter reading goes on with what is left. -/
theorem readArgument_left (input : .parameter .input ∉ items) (leaves : given.Leaves items lean)
    (idle : given.skips items = false) (reads : readArgument scope given argument = .ok next) :
    next.skips items = (argumentLeft items argument).2 ∧
    ∃ nextToo, readLeft scope lean (argumentLeft items argument).1 = .ok nextToo ∧
      next.Leaves items nextToo := by
  unfold argumentLeft
  split
  · next chars spelled =>
      rw [readArgument_long spelled] at reads
      rcases splits : splitLong chars with ⟨name, value⟩
      obtain ⟨item, names, skips, both⟩ := readLong_left leaves splits reads
      simp only [names]
      by_cases left : item ∈ items
      · rw [if_pos left] at both
        simp only [left, ↓reduceIte, decide_true, Bool.true_and] at skips ⊢
        exact ⟨skips, lean, rfl, both⟩
      · rw [if_neg left, ← readArgument_long spelled] at both
        simp only [left, ↓reduceIte, decide_false, Bool.false_and] at skips ⊢
        exact ⟨skips, _, both, .inl rfl⟩
  · next letter rest noDash spelled =>
      rw [readArgument_short spelled noDash] at reads
      obtain ⟨skips, notDash, nextToo, readsToo, leavesToo⟩ :=
        readShort_left (letter :: rest) leaves idle reads
      rcases found : lettersLeft items (letter :: rest) with ⟨_ | ⟨first, left⟩, awaits⟩
      · rw [found] at skips readsToo
        cases readsToo
        exact ⟨skips, lean, rfl, leavesToo⟩
      · rw [found] at skips readsToo notDash
        refine ⟨skips, nextToo, ?_, leavesToo⟩
        have other : first ≠ '-' := fun same => notDash (congrArg some same)
        exact (readArgument_short String.toList_ofList other).trans readsToo
  · next long short =>
      have plain : ∀ letter rest, argument.toList ≠ '-' :: letter :: rest := short
      cases waits : given.awaits with
      | true =>
          obtain ⟨parameter, waits⟩ := awaits_iff.mp waits
          have kept : .parameter parameter ∉ items :=
            of_decide_eq_false ((skips_of_awaits waits).symm.trans idle)
          have stays : lean.pending = some (parameter, none) :=
            leaves.pending_of_awaits waits kept
          rw [readArgument_value plain waits] at reads
          cases reads
          refine ⟨rfl, _, readArgument_value plain stays, .inl ?_⟩
          rw [without_put_off_of_not_mem kept, leaves.of_awaits waits kept]
      | false =>
          rw [readArgument_plain plain waits] at reads
          obtain ⟨both, skips⟩ := readPlain_left input leaves reads
          have idleToo : lean.awaits = false := (leaves.awaits idle).trans waits
          exact ⟨skips, _, (readArgument_plain plain idleToo).trans both, .inl rfl⟩

/-- No word after two dashes can follow an option that waits for its value. -/
theorem readLong_of_settle {stop : Stop} (fails : given.settle = .error stop)
    (chars : List Char) : readLong scope given chars ≠ .ok next := by
  unfold readLong addFlag defer attach
  simp only [fails, Steps.error_bind]
  split <;> rintro ⟨⟩

/-- No letters after one dash can follow an option that waits for its value. -/
theorem readShort_of_settle {stop : Stop} (fails : given.settle = .error stop) (letter : Char)
    (rest : List Char) : readShort scope given (letter :: rest) ≠ .ok next := by
  unfold readShort addFlag defer attach
  simp only [fails, Steps.error_bind]
  split
  · rintro ⟨⟩
  · rintro ⟨⟩
  · split <;> rintro ⟨⟩

/-- Only the value of an option can follow an option that waits for it. -/
theorem readPlain_of_settle {stop : Stop} (fails : given.settle = .error stop) :
    readPlain scope given argument ≠ .ok next := by
  unfold readPlain defer
  simp only [fails, Steps.error_bind]
  split
  · rintro ⟨⟩
  · rintro ⟨⟩
  · split <;> rintro ⟨⟩

/-- An argument that is skipped is the value of an option that is left out. -/
theorem readArgument_skipped (leaves : given.Leaves items lean) (skips : given.skips items = true)
    (reads : readArgument scope given argument = .ok next) :
    next.Leaves items lean ∧ next.skips items = false := by
  obtain ⟨parameter, waits, left⟩ := skips_iff.mp skips
  have fails := settle_of_awaits waits
  unfold readArgument at reads
  split at reads
  · exact absurd reads (readLong_of_settle fails _)
  · exact absurd reads (readShort_of_settle fails _ _)
  · rw [waits] at reads
    cases reads
    obtain ⟨flags, values, pending⟩ := given
    subst waits
    have gone := without_put_off_of_mem left ⟨flags, values, none⟩
    refine ⟨?_, rfl⟩
    unfold Leaves at leaves ⊢
    rw [gone none] at leaves
    rwa [gone (some argument)]

end LintReport.Command
