import Mathlib.Data.List.Basic
import LintReport.Proofs.Release.Version

/-!
# When a release is newer

A text denotes a newer release than another when both denote versions and the version of the one is
below that of the other (`Version.isNewer_iff`). As a relation between all texts, those that denote
no version among them, this is a strict order that sees of a text only the version it denotes
(`Version.isNewer_orders`).
-/

namespace LintReport.Version

variable {current target : String}

/-- A text is newer than another when both denote versions in this order. -/
theorem isNewer_iff : isNewer current target = true ↔ ∃ older newer,
    parse current = .ok older ∧ parse target = .ok newer ∧ older.Below newer := by
  unfold isNewer
  cases parse current with
  | error error => simp only [Bool.false_eq_true, reduceCtorEq, false_and, exists_false]
  | ok older =>
      cases parse target with
      | error error =>
          simp only [Bool.false_eq_true, reduceCtorEq, false_and, and_false, exists_false]
      | ok newer => simp only [isBelow_iff, Except.ok.injEq, exists_and_left, exists_eq_left']

/-- Of texts that denote versions the order of these decides. -/
theorem isNewer_of_parse {older newer : Version} (reads : parse current = .ok older)
    (readsToo : parse target = .ok newer) : isNewer current target = true ↔ older.Below newer := by
  simp only [isNewer_iff, reads, readsToo, Except.ok.injEq, exists_and_left, exists_eq_left']

/-- No text is newer than itself. -/
theorem not_isNewer_self (text : String) : isNewer text text = false := by
  apply Bool.eq_false_iff.mpr
  intro newer
  obtain ⟨older, _, reads, same, below⟩ := isNewer_iff.mp newer
  cases reads.symm.trans same
  exact Below.irrefl older below

theorem isNewer_trans {first second third : String} (lower : isNewer first second = true)
    (upper : isNewer second third = true) : isNewer first third = true := by
  obtain ⟨oldest, middle, reads, between, below⟩ := isNewer_iff.mp lower
  obtain ⟨_, newest, same, readsToo, above⟩ := isNewer_iff.mp upper
  cases between.symm.trans same
  exact isNewer_iff.mpr ⟨oldest, newest, reads, readsToo, below.trans above⟩

/-- Of two texts at most one is newer than the other. -/
theorem not_isNewer_of_isNewer (newer : isNewer current target = true) :
    isNewer target current = false := by
  apply Bool.eq_false_iff.mpr
  intro older
  exact Bool.false_ne_true ((not_isNewer_self current).symm.trans (isNewer_trans newer older))

/-- Only the versions that texts denote count. -/
theorem isNewer_congr {text spelling : String} (same : parse text = parse spelling)
    (other : String) :
    isNewer text other = isNewer spelling other ∧ isNewer other text = isNewer other spelling := by
  unfold isNewer
  rw [same]
  exact ⟨rfl, rfl⟩

/-- **The order of releases.** A target is newer than what is current exactly when both texts denote
versions and the first comes before the second in the order of versions, which goes by the most
significant number that differs. No text is newer than itself, no two are newer than each other, and
what is newer than a newer one is newer. Of two texts that denote versions either is newer than
the other, or they denote the same version; and another spelling of a version changes no answer. -/
theorem isNewer_orders :
    (∀ current target, isNewer current target = true ↔ ∃ older newer,
      parse current = .ok older ∧ parse target = .ok newer ∧ older.order newer = .lt) ∧
    (∀ older newer : Version, older.order newer = .lt ↔ older.major < newer.major ∨
      older.major = newer.major ∧ (older.minor < newer.minor ∨
        older.minor = newer.minor ∧ older.patch < newer.patch)) ∧
    (∀ text, isNewer text text = false) ∧
    (∀ first second, isNewer first second = true → isNewer second first = false) ∧
    (∀ first second third, isNewer first second = true → isNewer second third = true →
      isNewer first third = true) ∧
    (∀ first second one two, parse first = .ok one → parse second = .ok two →
      (isNewer first second = true ∧ isNewer second first = false ∧ one ≠ two) ∨
      (isNewer first second = false ∧ isNewer second first = true ∧ one ≠ two) ∨
      (isNewer first second = false ∧ isNewer second first = false ∧ one = two)) ∧
    ∀ text spelling version, parse text = .ok version → parse spelling = .ok version →
      ∀ other, isNewer text other = isNewer spelling other ∧
        isNewer other text = isNewer other spelling := by
  refine ⟨?_, fun _ _ => order_eq_lt, not_isNewer_self, fun _ _ => not_isNewer_of_isNewer,
    fun _ _ _ => isNewer_trans, ?_, ?_⟩
  · intro current target
    simp only [order_eq_lt]
    exact isNewer_iff
  · intro first second one two reads readsToo
    have upward := isNewer_of_parse reads readsToo
    have downward := isNewer_of_parse readsToo reads
    by_cases below : one.Below two
    · refine .inl ⟨upward.mpr below, not_isNewer_of_isNewer (upward.mpr below), ?_⟩
      rintro rfl
      exact Below.irrefl one below
    · have notNewer := Bool.eq_false_iff.mpr (mt upward.mp below)
      by_cases above : two.Below one
      · refine .inr (.inl ⟨notNewer, downward.mpr above, ?_⟩)
        rintro rfl
        exact below above
      · have notOlder := Bool.eq_false_iff.mpr (mt downward.mp above)
        exact .inr (.inr ⟨notNewer, notOlder, Below.eq_of_not below above⟩)
  · intro text spelling version reads readsToo other
    exact isNewer_congr (reads.trans readsToo.symm) other

/-- The number in the middle decides as a number, with or without a zero in front of it. -/
theorem isNewer_orders_spelled :
    isNewer "1.9.7" "1.10.0" = true ∧ isNewer "1.9.7" "1.010.0" = true ∧
      isNewer "1.10.0" "1.9.7" = false ∧ isNewer "1.9.6" "1.10.0" = true ∧
      isNewer "1.10.0" "1.010.0" = false := by
  obtain ⟨decided, _, _, asymmetric, transitive, trichotomy, spelled⟩ := isNewer_orders
  have lower : parse "1.9.6" = .ok ⟨1, 9, 6⟩ := by decide +kernel
  have middle : parse "1.9.7" = .ok ⟨1, 9, 7⟩ := by decide +kernel
  have upper : parse "1.10.0" = .ok ⟨1, 10, 0⟩ := by decide +kernel
  have padded : parse "1.010.0" = .ok ⟨1, 10, 0⟩ := by decide +kernel
  have first : isNewer "1.9.6" "1.9.7" = true := (decided _ _).mpr ⟨_, _, lower, middle, rfl⟩
  have second : isNewer "1.9.7" "1.10.0" = true := (decided _ _).mpr ⟨_, _, middle, upper, rfl⟩
  have respelled := (spelled _ _ _ upper padded "1.9.7").2
  refine ⟨second, respelled.symm.trans second, asymmetric _ _ second,
    transitive _ _ _ first second, ?_⟩
  rcases trichotomy _ _ _ _ upper padded with ⟨_, _, different⟩ | ⟨_, _, different⟩ | same
  · exact absurd rfl different
  · exact absurd rfl different
  · exact same.1

end LintReport.Version
