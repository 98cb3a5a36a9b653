import LintReport.Release.Manifest
import LintReport.Proofs.Release.Newer
import LintReport.Proofs.Release.Status

/-!
# Two ways to ask for an update

Whether a release is newer (`Version.isNewer`) and what the state of an update check is
(`UpdateStatus.resolve`) are decided apart from each other, from the same two texts. The answers
agree (`UpdateStatus.resolve_agrees`). They differ in what they note: a check notes each of the
texts that is refused (`UpdateStatus.line_resolveEvents`), the comparison only the first
(`Version.line_isNewerEvents`).
-/

namespace LintReport

namespace Version

/-- Why a text denotes no version, if it denotes none. -/
def rejection? (text : String) : Option VersionError :=
  match parse text with
  | .ok _ => none
  | .error error => some error

/-- A line of the log that tells why a text was refused. -/
def refusal (message : String) (error : VersionError) : String :=
  "DEBUG " ++ message ++ " error=" ++ error.message

/-- A refused text is told of in one line of the log. -/
theorem line_refusal (area : Area) (message : String) (error : VersionError) :
    Event.line ⟨.debug, area, message, [("error", error.message)]⟩ = refusal message error := by
  have joined : String.join [" " ++ "error" ++ "=" ++ error.message] =
      " error=" ++ error.message := by
    have name : " " ++ "error" ++ "=" = " error=" := by decide
    rw [name, String.join_cons, String.join_nil, String.append_empty]
  have opening : Level.debug.name ++ " " = "DEBUG " := by decide
  unfold Event.line refusal
  rw [List.map_singleton, joined, opening]
  simp only [String.append_assoc]

variable {text : String}

/-- A text is rejected with the error that reading it gives. -/
theorem rejection?_eq_some {error : VersionError} :
    rejection? text = some error ↔ parse text = .error error := by
  unfold rejection?
  cases parse text with
  | ok version => simp only [reduceCtorEq]
  | error found => simp only [Option.some.injEq, Except.error.injEq]

/-- A text that denotes a version is not rejected. -/
theorem rejection?_eq_none : rejection? text = none ↔ ∃ version, parse text = .ok version := by
  unfold rejection?
  cases parse text with
  | ok version => simp only [Except.ok.injEq, exists_eq']
  | error found => simp only [reduceCtorEq, exists_false]

/-- The comparison notes the first of the texts that is refused. -/
theorem line_isNewerEvents (current target : String) :
    (isNewerEvents current target).map Event.line =
      ([("current version rejected, reporting no update", current),
        ("target version rejected, reporting no update", target)].findSome? fun noted =>
          (rejection? noted.2).map (refusal noted.1)).toList := by
  unfold isNewerEvents
  cases reads : parse current with
  | error error =>
      simp only [List.findSome?_cons, rejection?_eq_some.mpr reads, Option.map_some,
        List.map_singleton, line_refusal, Option.toList_some]
  | ok older =>
      have sound := rejection?_eq_none.mpr ⟨older, reads⟩
      cases readsToo : parse target with
      | error error =>
          simp only [List.findSome?_cons, sound, rejection?_eq_some.mpr readsToo,
            Option.map_none, Option.map_some, List.map_singleton, line_refusal,
            Option.toList_some]
      | ok newer =>
          simp only [List.findSome?_cons, List.findSome?_nil, sound,
            rejection?_eq_none.mpr ⟨newer, readsToo⟩, Option.map_none, List.map_nil,
            Option.toList_none]

end Version

namespace UpdateStatus

/-- For a rejected text there is one line in the log, and for others none. -/
theorem line_rejectionEvents (message text : String) :
    (rejectionEvents message text).map Event.line =
      ((Version.rejection? text).map (Version.refusal message)).toList := by
  unfold rejectionEvents Version.rejection?
  cases Version.parse text with
  | ok version => rfl
  | error error =>
      simp only [List.map_singleton, Version.line_refusal, Option.map_some, Option.toList_some]

/-- A check notes each of the texts that is refused, in their order. -/
theorem line_resolveEvents (current latest : String) :
    (resolveEvents current latest).map Event.line =
      [("current version rejected", current), ("latest version rejected", latest)].filterMap
        fun noted => (Version.rejection? noted.2).map (Version.refusal noted.1) := by
  unfold resolveEvents
  rw [List.map_append, line_rejectionEvents, line_rejectionEvents, List.filterMap_eq_flatMap_toList]
  simp only [List.flatMap_cons, List.flatMap_nil, List.append_nil]

/-- Two texts always come to a decision. -/
theorem resolve_ne_checking (current latest : String) : resolve current latest ≠ .checking := by
  intro waits
  by_cases newer : ∃ older newer, resolve current latest = .updateAvailable older newer
  · obtain ⟨older, newer, available⟩ := newer
    cases waits.symm.trans available
  · cases waits.symm.trans (resolve_eq_upToDate newer)

/-- A text is newer exactly when it makes an update available. -/
theorem isNewer_iff_resolve {current latest : String} :
    Version.isNewer current latest = true ↔
      ∃ older newer, resolve current latest = .updateAvailable older newer := by
  simp only [Version.isNewer_iff, resolve_eq_updateAvailable_iff]

/-- **A check and a comparison agree.** For the same two texts a check finds an update exactly when
the latest is newer, and then shows the versions that the two denote. Otherwise there is none, and
the current version is shown if its text denotes one. The check notes each text that is refused, the
current one first, and the comparison the first of them. A manifest is checked by the text in it. -/
theorem resolve_agrees (current latest : String) :
    ((∃ older newer, resolve current latest = .updateAvailable older newer) ↔
      Version.isNewer current latest = true) ∧
    (∀ older newer, resolve current latest = .updateAvailable older newer →
      Version.parse current = .ok older ∧ Version.parse latest = .ok newer) ∧
    (Version.isNewer current latest = false →
      resolve current latest = .upToDate (Version.parse current).toOption) ∧
    resolve current latest ≠ .checking ∧
    (resolveEvents current latest).map Event.line =
      ([("current version rejected", current), ("latest version rejected", latest)].filterMap
        fun noted => (Version.rejection? noted.2).map (Version.refusal noted.1)) ∧
    (Version.isNewerEvents current latest).map Event.line =
      ([("current version rejected, reporting no update", current),
        ("target version rejected, reporting no update", latest)].findSome? fun noted =>
          (Version.rejection? noted.2).map (Version.refusal noted.1)).toList ∧
    ∀ manifest : Manifest, manifest.version = latest →
      manifest.statusFor current = resolve current latest := by
  refine ⟨isNewer_iff_resolve.symm, fun older newer available => ?_, fun notNewer => ?_,
    resolve_ne_checking current latest, line_resolveEvents current latest,
    Version.line_isNewerEvents current latest, ?_⟩
  · obtain ⟨reads, readsToo, _⟩ := resolve_eq_updateAvailable_iff.mp available
    exact ⟨reads, readsToo⟩
  · apply resolve_eq_upToDate
    intro available
    exact Bool.false_ne_true (notNewer.symm.trans (isNewer_iff_resolve.mpr available))
  · rintro manifest rfl
    rfl

/-- Both texts are refused: the check notes both, the comparison the first. -/
theorem resolve_agrees_refused :
    resolve "nightly" "9.0" = .upToDate none ∧
      (resolveEvents "nightly" "9.0").map Event.line =
        ["DEBUG current version rejected error=" ++
            "invalid version 'nightly': expected 3 components, found 1",
          "DEBUG latest version rejected error=" ++
            "invalid version '9.0': expected 3 components, found 2"] ∧
      (Version.isNewerEvents "nightly" "9.0").map Event.line =
        ["DEBUG current version rejected, reporting no update error=" ++
            "invalid version 'nightly': expected 3 components, found 1"] ∧
      Version.parse "1.1.0" = .ok ⟨1, 1, 0⟩ ∧ Version.parse "1.2.0" = .ok ⟨1, 2, 0⟩ ∧
      (Manifest.mk "1.2.0").statusFor "1.1.0" = .updateAvailable ⟨1, 1, 0⟩ ⟨1, 2, 0⟩ := by
  obtain ⟨_, _, refused, _, lines, first, _⟩ := resolve_agrees "nightly" "9.0"
  obtain ⟨_, shown, _, _, _, _, same⟩ := resolve_agrees "1.1.0" "1.2.0"
  have available : resolve "1.1.0" "1.2.0" = .updateAvailable ⟨1, 1, 0⟩ ⟨1, 2, 0⟩ := by
    decide +kernel
  obtain ⟨reads, readsToo⟩ := shown _ _ available
  refine ⟨(refused (by decide +kernel)).trans (by decide +kernel), lines.trans (by decide +kernel),
    first.trans (by decide +kernel), reads, readsToo, (same _ rfl).trans available⟩

end UpdateStatus

end LintReport
