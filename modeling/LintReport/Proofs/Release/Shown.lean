import LintReport.Proofs.Json.RoundTrip
import LintReport.Proofs.Release.Status

/-!
# States are told apart

The state of an update check is shown in two ways, as a line and as a JSON text. A JSON text gives
back the value that was written (`Json.Restorable`), and the value names the state and holds its
numbers (`UpdateStatus.toJson_inj`), so neither way of showing a state confuses it with another one
(`UpdateStatus.shown_apart`).
-/

namespace LintReport

theorem Whole.ofUInt64_inj {first second : UInt64} :
    Whole.ofUInt64 first = Whole.ofUInt64 second ↔ first = second := by
  refine ⟨fun same => ?_, congrArg Whole.ofUInt64⟩
  have naturals := congrArg Whole.toUInt64? same
  rw [Whole.toUInt64?_ofUInt64, Whole.toUInt64?_ofUInt64] at naturals
  exact Option.some.inj naturals

theorem Json.ofUInt64_inj {first second : UInt64} :
    Json.ofUInt64 first = Json.ofUInt64 second ↔ first = second := by
  rw [ofUInt64, ofUInt64, number.injEq, JsonNumber.whole.injEq, Whole.ofUInt64_inj]

namespace UpdateStatus

theorem versionJson_inj {first second : Version} :
    versionJson first = versionJson second ↔ first = second := by
  refine ⟨fun same => ?_, congrArg versionJson⟩
  unfold versionJson at same
  simp only [Json.object.injEq, List.cons.injEq, Prod.mk.injEq, true_and, and_true,
    Json.ofUInt64_inj] at same
  obtain ⟨major, minor, patch⟩ := same
  cases first
  cases second
  cases major
  cases minor
  cases patch
  rfl

/-- A version is not shown as nothing. -/
theorem versionJson_ne_null (version : Version) : versionJson version ≠ .null := by
  unfold versionJson
  exact Json.noConfusion

/-- The first member of the value tells the kind of state, the others its versions. -/
theorem toJson_inj {first second : UpdateStatus} :
    first.toJson = second.toJson ↔ first = second := by
  refine ⟨fun same => ?_, congrArg toJson⟩
  cases first with
  | checking =>
      cases second with
      | checking => rfl
      | updateAvailable older newer => simp [toJson] at same
      | upToDate other => simp [toJson] at same
  | updateAvailable current latest =>
      cases second with
      | checking => simp [toJson] at same
      | updateAvailable older newer =>
          simp only [toJson, Json.object.injEq, List.cons.injEq, Prod.mk.injEq, true_and, and_true,
            versionJson_inj] at same
          rw [same.1, same.2]
      | upToDate other => simp [toJson] at same
  | upToDate current =>
      cases second with
      | checking => simp [toJson] at same
      | updateAvailable older newer => simp [toJson] at same
      | upToDate other =>
          simp only [toJson, Json.object.injEq, List.cons.injEq, Prod.mk.injEq, true_and,
            and_true] at same
          cases current with
          | none =>
              cases other with
              | none => rfl
              | some version => exact absurd same.symm (versionJson_ne_null version)
          | some version =>
              cases other with
              | none => exact absurd same (versionJson_ne_null version)
              | some otherVersion => rw [versionJson_inj.mp same]

/-- A version is given back by its text. -/
theorem restorable_versionJson (depth : Nat) (version : Version) :
    Json.Restorable (depth + 1) (versionJson version) := by
  refine .object (by simp [Members.keys]) ?_
  simp only [List.forall_mem_cons, List.not_mem_nil, false_imp_iff, implies_true, and_true]
  exact ⟨.ofUInt64 depth _, .ofUInt64 depth _, .ofUInt64 depth _⟩

/-- A state is written with one object inside another at most. -/
theorem restorable_toJson (status : UpdateStatus) : Json.Restorable 2 status.toJson := by
  have word (s : String) : Json.Restorable 1 (.string s) := ⟨.string s, .string s, .string s⟩
  cases status with
  | checking =>
      refine .object (by simp [Members.keys]) ?_
      simp only [List.forall_mem_singleton]
      exact word _
  | updateAvailable current latest =>
      refine .object (by simp [Members.keys]) ?_
      simp only [List.forall_mem_cons, List.not_mem_nil, false_imp_iff, implies_true, and_true]
      exact ⟨word _, restorable_versionJson 0 current, restorable_versionJson 0 latest⟩
  | upToDate current =>
      refine .object (by simp [Members.keys]) ?_
      simp only [List.forall_mem_cons, List.not_mem_nil, false_imp_iff, implies_true, and_true]
      refine ⟨word _, ?_⟩
      cases current with
      | none => exact ⟨.null, .null, .null⟩
      | some version => exact restorable_versionJson 0 version

/-- The JSON text of a state is read as the value that was written. -/
theorem parse_toJson (status : UpdateStatus) : Json.parse status.toJson.render = .ok status.toJson :=
  ((restorable_toJson status).mono (by decide)).parse_render

/-- **States are shown apart.** Two states that are shown by the same line are the same, and so are
two states with the same JSON text. The line is one line. -/
theorem shown_apart :
    (∀ first second : UpdateStatus, first.render = second.render ↔ first = second) ∧
    (∀ first second : UpdateStatus, first.toJson.render = second.toJson.render ↔ first = second) ∧
    ∀ status : UpdateStatus, '\n' ∉ status.render.toList := by
  refine ⟨fun first second => render_inj, fun first second => ⟨fun same => ?_, ?_⟩,
    fun status => ?_⟩
  · have values : Except.ok (ε := Json.Error) first.toJson = .ok second.toJson := by
      rw [← parse_toJson, same, parse_toJson]
    exact toJson_inj.mp (Except.ok.inj values)
  · rintro rfl
    rfl
  · rw [render, String.toList_ofList]
    exact newline_not_mem_text status

end UpdateStatus

end LintReport
