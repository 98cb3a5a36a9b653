import LintReport.Report.Outlet

/-!
# What an outlet takes

However an outlet answers, what it takes of a text is a beginning of it, and writing the text
succeeds when that is all of it (`Outlet.writeAll_takes`). There are steps enough for every offer
that has to be made again, so writing never ends for lack of them.
-/

namespace LintReport.Outlet

variable {σ : Type} [Outlet σ]

/-- These bytes are taken of a text that is written, and writing it ends in this way. -/
structure Takes (sink : σ) (bytes taken : List UInt8) (ends : Except StreamError Unit × σ) :
    Prop where
  starts : taken <+: bytes
  data : data ends.2 = data sink ++ taken
  succeeds_iff : ends.1 = .ok () ↔ taken = bytes

/-- One offer: it ends the writing, or what is left is offered next. -/
theorem writeSteps_succ (steps : Nat) (sink : σ) {bytes : List UInt8} (left : bytes ≠ []) :
    writeSteps (steps + 1) sink bytes =
      match (write sink bytes).1.failure? with
      | some error => (.error error, (write sink bytes).2)
      | none => writeSteps steps (write sink bytes).2 (bytes.drop (write sink bytes).1.count) := by
  obtain ⟨byte, more, rfl⟩ := List.exists_cons_of_ne_nil left
  rfl

/-- An offer that ends the writing took nothing. -/
theorem count_of_failure? {answer : Answer} {error : StreamError}
    (fails : answer.failure? = some error) : answer.count = 0 := by
  cases answer with
  | took count =>
      cases count with
      | zero => rfl
      | succ count => cases fails
  | interrupted => rfl
  | refused error => rfl

/-- What is taken after an offer follows what the offer took. -/
theorem Takes.step {sink : σ} {bytes taken : List UInt8} {ends : Except StreamError Unit × σ}
    (rest : Takes (write sink bytes).2 (bytes.drop (write sink bytes).1.count) taken ends) :
    Takes sink bytes (bytes.take (write sink bytes).1.count ++ taken) ends where
  starts := by
    obtain ⟨further, whole⟩ := rest.starts
    exact ⟨further, by rw [List.append_assoc, whole, List.take_append_drop]⟩
  data := by rw [rest.data, data_write, List.append_assoc]
  succeeds_iff := by
    rw [rest.succeeds_iff]
    constructor
    · rintro rfl
      exact List.take_append_drop _ _
    · intro whole
      exact List.append_cancel_left (whole.trans (List.take_append_drop _ bytes).symm)

/-- Offering a text until all is taken, with steps enough, takes a beginning of it. -/
theorem writeSteps_takes (steps : Nat) : ∀ (sink : σ) (bytes : List UInt8),
    patience sink bytes < steps → ∃ taken, Takes sink bytes taken (writeSteps steps sink bytes) := by
  induction steps with
  | zero => exact fun _ _ impossible => absurd impossible (Nat.not_lt_zero _)
  | succ steps ih =>
      intro sink bytes enough
      by_cases left : bytes = []
      · subst left
        exact ⟨[], List.nil_prefix, (List.append_nil _).symm, iff_of_true rfl rfl⟩
      rw [writeSteps_succ steps sink left]
      cases fails : (write sink bytes).1.failure? with
      | some error =>
          refine ⟨[], List.nil_prefix, ?_, iff_of_false (by rintro ⟨⟩) (Ne.symm left)⟩
          rw [data_write, count_of_failure? fails, List.take_zero]
      | none =>
          have fewer := patience_write sink bytes fails
          obtain ⟨taken, takes⟩ := ih _ _ (Nat.lt_of_lt_of_le fewer (Nat.lt_succ_iff.mp enough))
          exact ⟨_, takes.step⟩

/-- **What becomes of a text that is written to an outlet.** -/
theorem writeAll_takes (sink : σ) (bytes : List UInt8) :
    ∃ taken, Takes sink bytes taken (writeAll sink bytes) :=
  writeSteps_takes _ sink bytes (Nat.lt_succ_self _)

/-- An outlet to which a text is delivered takes a beginning of it; unless it takes all, the
delivery fails. -/
theorem deliver_takes (sink : σ) (bytes : List UInt8) :
    ∃ taken, taken <+: bytes ∧ data (deliver sink bytes).2 = data sink ++ taken ∧
      (taken ≠ bytes → ∃ error, (deliver sink bytes).1 = .error error) := by
  obtain ⟨taken, takes⟩ := writeAll_takes sink bytes
  refine ⟨taken, takes.starts, ?_⟩
  unfold deliver
  split
  · next error after writes =>
      rw [writes] at takes
      exact ⟨takes.data, fun _ => ⟨error, rfl⟩⟩
  · next after writes =>
      rw [writes] at takes
      refine ⟨(data_flush after).trans takes.data, fun part => ?_⟩
      exact absurd (takes.succeeds_iff.mp rfl) part

end LintReport.Outlet
