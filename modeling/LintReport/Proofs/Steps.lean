/-!
# Steps that may fail

Readers, decoders and loaders are runs of steps of which each may fail. A run succeeds exactly
when its first step does and the rest succeeds with what that step gave; it fails with what the
first failing step says.
-/

namespace LintReport.Steps

variable {ε α β : Type}

@[simp] theorem ok_bind (given : α) (next : α → Except ε β) :
    ((Except.ok given : Except ε α) >>= next) = next given := rfl

@[simp] theorem error_bind (failure : ε) (next : α → Except ε β) :
    ((Except.error failure : Except ε α) >>= next) = .error failure := rfl

@[simp] theorem pure_eq_ok (given : α) : (pure given : Except ε α) = .ok given := rfl

@[simp] theorem map_ok (f : α → β) (given : α) :
    (Except.ok given : Except ε α).map f = .ok (f given) := rfl

@[simp] theorem map_error (f : α → β) (failure : ε) :
    (Except.error failure : Except ε α).map f = .error failure := rfl

/-- A changed result comes from a result. -/
theorem map_eq_ok {f : α → β} {step : Except ε α} {result : β} :
    step.map f = .ok result ↔ ∃ given, step = .ok given ∧ f given = result := by
  cases step <;> simp only [map_ok, map_error, Except.ok.injEq, reduceCtorEq, exists_eq_left',
    false_and, exists_false]

/-- What a run gives when it succeeds. -/
theorem toOption_bind (step : Except ε α) (next : α → Except ε β) :
    (step >>= next).toOption = step.toOption.bind fun given => (next given).toOption := by
  cases step <;> rfl

/-- A step has a result as an option exactly when it succeeds with it. -/
theorem toOption_eq_some {step : Except ε α} {given : α} :
    step.toOption = some given ↔ step = .ok given := by
  cases step <;> simp only [Except.toOption, Option.some.injEq, Except.ok.injEq, reduceCtorEq]

/-- A step has no result as an option exactly when it fails. -/
theorem toOption_eq_none {step : Except ε α} :
    step.toOption = none ↔ ∃ failure, step = .error failure := by
  cases step <;> simp [Except.toOption]

/-- Wording a failure differently does not change when a step succeeds. -/
theorem mapError_eq_ok {ε' : Type} {wording : ε → ε'} {step : Except ε α} {given : α} :
    step.mapError wording = .ok given ↔ step = .ok given := by
  constructor
  · intro succeeds
    cases step with
    | error failure => cases succeeds
    | ok found =>
        cases succeeds
        rfl
  · intro succeeds
    rw [succeeds]
    rfl

/-- A run succeeds when its first step does and the rest succeeds with what it gave. -/
theorem bind_eq_ok {step : Except ε α} {next : α → Except ε β} {result : β} :
    (step >>= next) = .ok result ↔ ∃ given, step = .ok given ∧ next given = .ok result := by
  cases step with
  | error failure =>
      constructor
      · intro impossible
        cases impossible
      · rintro ⟨given, impossible, _⟩
        cases impossible
  | ok given =>
      constructor
      · intro succeeds
        exact ⟨given, rfl, succeeds⟩
      · rintro ⟨other, same, succeeds⟩
        cases same
        exact succeeds

/-- Two steps fail when the first does, or the second on what the first gives. -/
theorem bind_eq_error {step : Except ε α} {next : α → Except ε β} {failure : ε} :
    (step >>= next) = .error failure ↔
      step = .error failure ∨ ∃ given, step = .ok given ∧ next given = .error failure := by
  cases step with
  | error other =>
      constructor
      · intro fails
        cases fails
        exact .inl rfl
      · rintro (fails | ⟨given, impossible, _⟩)
        · cases fails
          rfl
        · cases impossible
  | ok given =>
      constructor
      · intro fails
        exact .inr ⟨given, rfl, fails⟩
      · rintro (impossible | ⟨other, same, fails⟩)
        · cases impossible
        · cases same
          exact fails

/-- Whatever a run gives when it succeeds has a property. -/
def Yields (holds : α → Prop) (step : Except ε α) : Prop := ∀ given, step = .ok given → holds given

namespace Yields

/-- What is given has the property when it has it. -/
theorem ok {holds : α → Prop} {given : α} (has : holds given) :
    Yields holds (Except.ok given : Except ε α) := by
  rintro _ ⟨⟩
  exact has

/-- A failure gives nothing, so nothing has to be shown. -/
theorem error {holds : α → Prop} (failure : ε) :
    Yields holds (Except.error failure : Except ε α) := by
  rintro _ ⟨⟩

/-- A run yields what the rest of it yields with whatever its first step gives. -/
theorem bind {holds : α → Prop} {other : β → Prop} {step : Except ε α} {next : α → Except ε β}
    (yields : Yields holds step) (onwards : ∀ given, holds given → Yields other (next given)) :
    Yields other (step >>= next) := by
  intro result succeeds
  obtain ⟨given, first, rest⟩ := bind_eq_ok.mp succeeds
  exact onwards given (yields given first) result rest

/-- Changing what is given changes its property. -/
theorem map {holds : α → Prop} {other : β → Prop} {step : Except ε α} {f : α → β}
    (yields : Yields holds step) (keeps : ∀ given, holds given → other (f given)) :
    Yields other (step.map f) := by
  cases step with
  | error failure => exact .error failure
  | ok given => exact .ok (keeps given (yields given rfl))

/-- About what a step gives nothing may be known. -/
theorem any (step : Except ε α) : Yields (fun _ => True) step := fun _ _ => trivial

end Yields

/-- Two runs agree: they fail and say the same, or they succeed and give related results. -/
inductive Agree (related : α → β → Prop) : Except ε α → Except ε β → Prop
  | failed (failure : ε) : Agree related (.error failure) (.error failure)
  | succeeded {given : α} {other : β} (relates : related given other) :
      Agree related (.ok given) (.ok other)

namespace Agree

theorem refl {related : α → α → Prop} (each : ∀ given, related given given)
    (step : Except ε α) : Agree related step step := by
  cases step with
  | error failure => exact .failed failure
  | ok given => exact .succeeded (each given)

theorem mono {related weaker : α → β → Prop} {step : Except ε α} {other : Except ε β}
    (agree : Agree related step other)
    (implies : ∀ given found, step = .ok given → other = .ok found → related given found →
      weaker given found) : Agree weaker step other := by
  cases agree with
  | failed failure => exact .failed failure
  | succeeded relates => exact .succeeded (implies _ _ rfl rfl relates)

/-- Runs agree when their first steps do, and what follows agrees on related results. -/
theorem bind {α' β' : Type} {related : α → α' → Prop} {relatedNext : β → β' → Prop}
    {step : Except ε α} {other : Except ε α'} {next : α → Except ε β}
    {otherNext : α' → Except ε β'} (agree : Agree related step other)
    (onwards : ∀ given found, related given found →
      Agree relatedNext (next given) (otherNext found)) :
    Agree relatedNext (step >>= next) (other >>= otherNext) := by
  cases agree with
  | failed failure => exact .failed failure
  | succeeded relates => exact onwards _ _ relates

/-- Changing what is given on both sides keeps the agreement. -/
theorem map {α' β' : Type} {related : α → α' → Prop} {relatedNext : β → β' → Prop}
    {step : Except ε α} {other : Except ε α'} {f : α → β} {g : α' → β'}
    (agree : Agree related step other)
    (keeps : ∀ given found, related given found → relatedNext (f given) (g found)) :
    Agree relatedNext (step.map f) (other.map g) := by
  cases agree with
  | failed failure => exact .failed failure
  | succeeded relates => exact .succeeded (keeps _ _ relates)

end Agree

end LintReport.Steps
