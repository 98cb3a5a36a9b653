import LintReport.Proofs.Command.Omission

/-!
# Command lines without some items

A command line that is in order is still in order when flags and options are left out of it, and
asks for what is left when nobody looks at them (`Command.read_leavingOut`). The two readings run
side by side, argument by argument.
-/

namespace LintReport.Command

open Given

variable {items : List Item} {scope : Scope} {given lean next : Given} {argument : String}

/-! ## The arguments of a command -/

/-- Behind two dashes both readings go on alike. -/
theorem readScope_plain (input : .parameter .input ∉ items) (arguments : List String) :
    ∀ {given lean : Given}, given.Leaves items lean →
    readScope scope true given arguments = .ok next →
    readScope scope true lean arguments = .ok (next.without items) := by
  induction arguments with
  | nil => exact fun leaves settles => leaves.settle settles
  | cons argument rest ih =>
      intro given lean leaves reads
      unfold readScope at reads ⊢
      simp only [↓reduceIte] at reads ⊢
      obtain ⟨between, here, further⟩ := Steps.bind_eq_ok.mp reads
      obtain ⟨hereToo, _⟩ := readPlain_left input leaves here
      exact Steps.bind_eq_ok.mpr ⟨_, hereToo, ih (.inl rfl) further⟩

/-- Two dashes cannot follow an option that waits for its value. -/
theorem readScope_plain_of_settle {stop : Stop} (fails : given.settle = .error stop)
    (arguments : List String) : readScope scope true given arguments ≠ .ok next := by
  cases arguments with
  | nil =>
      unfold readScope
      rw [fails]
      rintro ⟨⟩
  | cons argument rest =>
      intro reads
      unfold readScope at reads
      simp only [↓reduceIte] at reads
      obtain ⟨between, here, _⟩ := Steps.bind_eq_ok.mp reads
      exact readPlain_of_settle fails here

/-- Two dashes alone are no argument. -/
theorem readArgument_dashes : readArgument scope given "--" ≠ .ok next := by
  rw [readArgument_long rfl]
  cases scope <;> rintro ⟨⟩

/-- What is left of an argument is the argument or begins with a dash. -/
theorem argumentLeft_cases {left : String} (leaves : (argumentLeft items argument).1 = some left) :
    left = argument ∨ ∃ rest, left.toList = '-' :: rest := by
  unfold argumentLeft at leaves
  split at leaves
  · simp only at leaves
    split at leaves
    · cases leaves
      exact .inl rfl
    · split at leaves
      · cases leaves
      · cases leaves
        exact .inl rfl
  · split at leaves
    · cases leaves
    · cases leaves
      exact .inr ⟨_, String.toList_ofList⟩
  · cases leaves
    exact .inl rfl

/-- One argument of many is left out, or the shorter reading goes on with what is left of it, which
is the argument or begins with a dash. -/
theorem argumentsLeft_of_readArgument (input : .parameter .input ∉ items)
    (leaves : given.Leaves items lean) (idle : given.skips items = false)
    (reads : readArgument scope given argument = .ok next) (other : argument ≠ "--")
    (rest : List String) :
    (argumentsLeft items false (argument :: rest) = argumentsLeft items (next.skips items) rest ∧
      next.Leaves items lean) ∨
    ∃ left nextToo, argumentsLeft items false (argument :: rest) =
        left :: argumentsLeft items (next.skips items) rest ∧
      readArgument scope lean left = .ok nextToo ∧ next.Leaves items nextToo ∧ left ≠ "--" ∧
      (left = argument ∨ ∃ rest, left.toList = '-' :: rest) := by
  obtain ⟨skips, nextToo, readsToo, leavesToo⟩ := readArgument_left input leaves idle reads
  rcases found : argumentLeft items argument with ⟨_ | left, awaits⟩
  · rw [found] at skips readsToo
    rw [argumentsLeft, if_neg other, found, skips]
    cases readsToo
    exact .inl ⟨rfl, leavesToo⟩
  · rw [found] at skips readsToo
    rw [argumentsLeft, if_neg other, found, skips]
    have here : readArgument scope lean left = .ok nextToo := readsToo
    refine .inr ⟨left, nextToo, rfl, here, leavesToo, ?_, ?_⟩
    · rintro rfl
      exact readArgument_dashes here
    · exact argumentLeft_cases (congrArg Prod.fst found)

/-- **The arguments of a command** are read without some items as if these were not looked at. -/
theorem readScope_left (input : .parameter .input ∉ items) (arguments : List String) :
    ∀ {given lean : Given}, given.Leaves items lean →
    readScope scope false given arguments = .ok next →
    readScope scope false lean (argumentsLeft items (given.skips items) arguments) =
      .ok (next.without items) := by
  induction arguments with
  | nil =>
      intro given lean leaves settles
      cases given.skips items <;> exact leaves.settle settles
  | cons argument rest ih =>
      intro given lean leaves reads
      rw [readScope, if_neg Bool.false_ne_true] at reads
      cases skips : given.skips items with
      | true =>
          obtain ⟨parameter, waits, _⟩ := skips_iff.mp skips
          by_cases dashes : argument = "--"
          · rw [if_pos dashes] at reads
            exact absurd reads (readScope_plain_of_settle (settle_of_awaits waits) rest)
          rw [if_neg dashes] at reads
          obtain ⟨between, here, further⟩ := Steps.bind_eq_ok.mp reads
          obtain ⟨leavesToo, idle⟩ := readArgument_skipped leaves skips here
          have goes := ih leavesToo further
          rwa [idle] at goes
      | false =>
          by_cases dashes : argument = "--"
          · rw [if_pos dashes] at reads
            rw [argumentsLeft, if_pos dashes, readScope, if_neg Bool.false_ne_true, if_pos dashes]
            exact readScope_plain input rest leaves reads
          rw [if_neg dashes] at reads
          obtain ⟨between, here, further⟩ := Steps.bind_eq_ok.mp reads
          rcases argumentsLeft_of_readArgument input leaves skips here dashes rest with
            ⟨shorter, leavesToo⟩ | ⟨left, nextToo, shorter, hereToo, leavesToo, other, _⟩
          · rw [shorter]
            exact ih leavesToo further
          · rw [shorter, readScope, if_neg Bool.false_ne_true, if_neg other]
            exact Steps.bind_eq_ok.mpr ⟨nextToo, hereToo, ih leavesToo further⟩

/-! ## The arguments of the program -/

/-- What the reading of the program does with an argument in front of a command. -/
theorem readProgram_cons {argument : String} {arguments rest : List String} {before : Given} :
    readProgram false given (argument :: arguments) = .ok (before, some (scope, rest)) ↔
      (given.awaits = false ∧ commandOf? argument = some scope ∧ given = before ∧
        arguments = rest) ∨
      ((given.awaits = true ∨ argument ≠ "help" ∧ commandOf? argument = none) ∧ argument ≠ "--" ∧
        ∃ between, readArgument .program given argument = .ok between ∧
          readProgram false between arguments = .ok (before, some (scope, rest))) := by
  rw [readProgram, if_neg Bool.false_ne_true]
  have nothing : readProgram true given arguments ≠ .ok (before, some (scope, rest)) := by
    cases arguments with
    | nil => exact fun impossible => by cases impossible
    | cons => exact fun impossible => by cases impossible
  have onward : (if argument = "--" then readProgram true given arguments else do
        let given ← readArgument .program given argument
        readProgram false given arguments) = .ok (before, some (scope, rest)) ↔
      argument ≠ "--" ∧ ∃ between, readArgument .program given argument = .ok between ∧
        readProgram false between arguments = .ok (before, some (scope, rest)) := by
    by_cases dashes : argument = "--"
    · simp only [dashes, ↓reduceIte, nothing, ne_eq, not_true, false_and]
    · simp only [dashes, ↓reduceIte, Steps.bind_eq_ok, ne_eq, not_false_eq_true, true_and]
  cases waits : given.awaits with
  | true =>
      simp only [Bool.not_true, Bool.false_and, Bool.false_eq_true, ↓reduceIte, onward,
        Bool.true_eq_false, false_and, false_or, true_or, true_and]
  | false =>
      by_cases help : argument = "help"
      · subst help
        have known : commandOf? "help" = none := rfl
        simp only [Bool.not_false, Bool.true_and, decide_true, ↓reduceIte, reduceCtorEq, known,
          Bool.false_eq_true, ne_eq, not_true, false_and, and_false, or_self]
      · have unasked : ¬ (!false && decide (argument = "help")) = true := by
          simp only [help, decide_false, Bool.and_false, Bool.false_eq_true, not_false_eq_true]
        rw [if_neg unasked, if_neg Bool.false_ne_true]
        cases command : commandOf? argument with
        | none =>
            simp only [reduceCtorEq, false_and, and_false, false_or, Bool.false_eq_true, ne_eq,
              help, not_false_eq_true, true_and]
            exact onward
        | some found =>
            simp only [Except.ok.injEq, Prod.mk.injEq, Option.some.injEq, true_and, reduceCtorEq,
              Bool.false_eq_true, and_false, or_self, false_and, or_false]
            exact and_left_comm

/-- No command begins with a dash. -/
theorem commandOf?_of_dash {rest : List Char} (dash : argument.toList = '-' :: rest) :
    argument ≠ "help" ∧ commandOf? argument = none := by
  refine ⟨?_, ?_⟩
  · rintro rfl
    cases dash
  · unfold commandOf?
    split
    · cases dash
    · cases dash
    · rfl

/-- The name of a command is left as it is. -/
theorem argumentLeft_of_commandOf? (items : List Item) (command : commandOf? argument = some scope) :
    argument ≠ "--" ∧ argumentLeft items argument = (some argument, false) := by
  unfold commandOf? at command
  split at command
  · exact ⟨by decide, rfl⟩
  · exact ⟨by decide, rfl⟩
  · cases command

/-- **The arguments of the program** are read without some items up to the command. -/
theorem readProgram_left (input : .parameter .input ∉ items) (arguments : List String) :
    ∀ {given lean before : Given} {rest : List String}, given.Leaves items lean →
    readProgram false given arguments = .ok (before, some (scope, rest)) →
    ∃ beforeToo,
      readProgram false lean (argumentsLeft items (given.skips items) arguments) =
        .ok (beforeToo, some (scope, leavingOut items rest)) ∧ before.Leaves items beforeToo := by
  induction arguments with
  | nil =>
      intro given lean before rest leaves impossible
      cases impossible
  | cons argument arguments ih =>
      intro given lean before rest leaves reads
      rcases readProgram_cons.mp reads with
        ⟨idle, command, rfl, rfl⟩ | ⟨onward, dashes, between, here, further⟩
      · obtain ⟨other, left⟩ := argumentLeft_of_commandOf? items command
        have skips := skips_of_idle items idle
        refine ⟨lean, ?_, leaves⟩
        rw [skips, argumentsLeft, if_neg other, left]
        exact readProgram_cons.mpr (.inl ⟨(leaves.awaits skips).trans idle, command, rfl, rfl⟩)
      cases skips : given.skips items with
      | true =>
          obtain ⟨leavesToo, idle⟩ := readArgument_skipped leaves skips here
          have goes := ih leavesToo further
          rwa [idle] at goes
      | false =>
          rcases argumentsLeft_of_readArgument input leaves skips here dashes arguments with
            ⟨shorter, leavesToo⟩ | ⟨left, nextToo, shorter, hereToo, leavesToo, other, same⟩
          · rw [shorter]
            exact ih leavesToo further
          · obtain ⟨beforeToo, furtherToo, ends⟩ := ih leavesToo further
            refine ⟨beforeToo, ?_, ends⟩
            rw [shorter, readProgram_cons, leaves.awaits skips]
            refine .inr ⟨?_, other, nextToo, hereToo, furtherToo⟩
            rcases same with rfl | ⟨rest, dash⟩
            · exact onward
            · exact .inr (commandOf?_of_dash dash)

/-! ## What is asked for without some items -/

/-- What holds for a command without some items. -/
def Globals.without (items : List Item) (globals : Globals) : Globals where
  quiet := globals.quiet && .flag .quiet ∉ items
  verbose := globals.verbose && .flag .verbose ∉ items
  config := if .parameter .config ∈ items then none else globals.config

/-- A request without some items. -/
def Request.without (items : List Item) : Request → Request
  | .report request =>
    .report ⟨request.input, request.noSort && .flag .noSort ∉ items,
      if .parameter .format ∈ items then none else request.format⟩
  | .checkUpdate request =>
    .checkUpdate ⟨if .parameter .current ∈ items then none else request.current,
      if .parameter .latest ∈ items then none else request.latest,
      if .parameter .manifest ∈ items then none else request.manifest⟩

/-- A command line without some items. -/
def Invocation.without (items : List Item) (invocation : Invocation) : Invocation :=
  ⟨invocation.globals.without items, invocation.request.without items⟩

/-- When a command line is in order. -/
theorem read_eq_ok {arguments : List String} {invocation : Invocation} :
    read arguments = .ok invocation ↔ ∃ before scope rest after settled,
      readProgram false .empty arguments = .ok (before, some (scope, rest)) ∧
      readScope scope false .empty rest = .ok after ∧ conflict? after = none ∧
      before.settle = .ok settled ∧
      invocation = ⟨globalsOf settled after, requestOf scope after⟩ := by
  constructor
  · intro accepted
    obtain ⟨⟨before, command⟩, reads, accepted⟩ := Steps.bind_eq_ok.mp accepted
    rcases command with _ | ⟨scope, rest⟩
    · obtain ⟨_, _, impossible⟩ := Steps.bind_eq_ok.mp accepted
      cases impossible
    obtain ⟨after, readsAfter, accepted⟩ := Steps.bind_eq_ok.mp accepted
    cases conflict : conflict? after with
    | some error =>
        rw [conflict] at accepted
        cases accepted
    | none =>
        rw [conflict] at accepted
        obtain ⟨settled, settles, done⟩ := Steps.bind_eq_ok.mp accepted
        exact ⟨before, scope, rest, after, settled, reads, readsAfter, conflict, settles,
          (Except.ok.inj done).symm⟩
  · rintro ⟨before, scope, rest, after, settled, reads, readsAfter, conflict, settles, rfl⟩
    unfold read
    rw [reads, Steps.ok_bind]
    simp only
    rw [readsAfter, Steps.ok_bind, conflict]
    simp only
    rw [settles, Steps.ok_bind]
    rfl

/-- No two options exclude each other when at most one of the two is given. -/
theorem conflict?_eq_none : conflict? given = none ↔
    ((given.values.map Prod.fst).filter (· ∈ [Parameter.latest, Parameter.manifest])).length ≤ 1 := by
  unfold conflict?
  rcases (given.values.map Prod.fst).filter _ with _ | ⟨first, _ | ⟨second, rest⟩⟩
  · exact iff_of_true rfl (Nat.zero_le 1)
  · exact iff_of_true rfl (Nat.le_refl 1)
  · refine iff_of_false (by rintro ⟨⟩) fun few => ?_
    exact absurd (Nat.le_of_succ_le_succ few) (Nat.not_succ_le_zero _)

/-- Options that do not exclude each other do not when some are left out. -/
theorem conflict?_without (items : List Item) (fits : conflict? given = none) :
    conflict? (given.without items) = none := by
  rw [conflict?_eq_none] at fits ⊢
  refine Nat.le_trans (List.Sublist.length_le ?_) fits
  exact (List.filter_sublist.map Prod.fst).filter _

/-- A flag has been read without some items when it has been read and is none of them. -/
theorem mem_flags_without (items : List Item) (flag : Flag) (given : Given) :
    flag ∈ (given.without items).flags ↔ flag ∈ given.flags ∧ .flag flag ∉ items := by
  unfold without
  rw [List.mem_filter, decide_eq_true_eq]

/-- The value of an option without some items. -/
theorem value?_without_eq (items : List Item) (parameter : Parameter) (given : Given) :
    (given.without items).value? parameter =
      if .parameter parameter ∈ items then none else given.value? parameter := by
  split
  · next left => exact value?_without_of_mem left given
  · next kept => exact value?_without kept given

/-- What holds for the command is what is left of it. -/
theorem globalsOf_without (items : List Item) (before after : Given) :
    globalsOf (before.without items) (after.without items) =
      (globalsOf before after).without items := by
  have flag (flag : Flag) :
      decide (flag ∈ (before.without items).flags ++ (after.without items).flags) =
        (decide (flag ∈ before.flags ++ after.flags) && .flag flag ∉ items) := by
    simp only [List.mem_append, mem_flags_without, ← or_and_right, Bool.decide_and]
  unfold globalsOf Globals.without
  rw [flag, flag, value?_without_eq, value?_without_eq]
  split <;> rfl

/-- What is asked for is what is left of it. -/
theorem requestOf_without (input : .parameter .input ∉ items) (scope : Scope) (given : Given) :
    requestOf scope (given.without items) = (requestOf scope given).without items := by
  unfold requestOf Request.without
  simp only [value?_without_eq, mem_flags_without, if_neg input, Bool.decide_and]
  cases scope with
  | checkUpdate =>
      by_cases left : Item.parameter .manifest ∈ items <;>
        simp only [left, ↓reduceIte, Option.map_none]
  | report | program =>
      by_cases left : Item.parameter .format ∈ items <;>
        simp only [left, ↓reduceIte, Option.bind_none]

/-- **Flags and options may be left out of a command line:** it is still in order, and asks for what
is left when nobody looks at them. -/
theorem read_leavingOut {arguments : List String} {invocation : Invocation}
    (input : .parameter .input ∉ items) (accepted : read arguments = .ok invocation) :
    read (leavingOut items arguments) = .ok (invocation.without items) := by
  obtain ⟨before, scope, rest, after, settled, reads, readsAfter, conflict, settles, rfl⟩ :=
    read_eq_ok.mp accepted
  have start : Given.empty.Leaves items .empty := .inl rfl
  obtain ⟨beforeToo, readsToo, leaves⟩ := readProgram_left input arguments start reads
  refine read_eq_ok.mpr ⟨beforeToo, scope, leavingOut items rest, after.without items,
    settled.without items, readsToo, readScope_left input rest start readsAfter,
    conflict?_without items conflict, leaves.settle settles, ?_⟩
  rw [globalsOf_without, requestOf_without input]
  rfl

/-- Items that are left out twice are left out. -/
theorem Invocation.without_without (items : List Item) (invocation : Invocation) :
    (invocation.without items).without items = invocation.without items := by
  have again {α : Type} (item : Item) (given : Option α) :
      (if item ∈ items then none else if item ∈ items then none else given) =
        if item ∈ items then none else given := by
    split <;> rfl
  obtain ⟨globals, request⟩ := invocation
  cases request <;>
    simp only [without, Globals.without, Request.without, Bool.and_assoc, Bool.and_self, again]

/-- A command line without some items, or one that is the same without them, asks for the same but
for these. -/
theorem without_eq_of_leavingOut {arguments otherArguments : List String}
    {invocation other : Invocation} (input : .parameter .input ∉ items)
    (accepted : read arguments = .ok invocation) (acceptedToo : read otherArguments = .ok other)
    (differ : otherArguments = leavingOut items arguments ∨
      leavingOut items otherArguments = leavingOut items arguments) :
    other.without items = invocation.without items := by
  have here := read_leavingOut input accepted
  rcases differ with rfl | same
  · rw [here] at acceptedToo
    cases acceptedToo
    exact invocation.without_without items
  · have there := read_leavingOut input acceptedToo
    rw [same, here] at there
    exact (Except.ok.inj there).symm

end LintReport.Command
