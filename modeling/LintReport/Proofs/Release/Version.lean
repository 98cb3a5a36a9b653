import LintReport.Release.Version

/-!
# The order of versions, and where a written version ends

One version is below another when its first number that differs is smaller (`Version.Below`). A
written version holds digits and dots only, so it ends at the first other character, and what is
written tells which version it was.
-/

namespace LintReport.Version

/-- The first number that differs is smaller. -/
def Below (left right : Version) : Prop :=
  left.major < right.major ∨ left.major = right.major ∧
    (left.minor < right.minor ∨ left.minor = right.minor ∧ left.patch < right.patch)

/-- The first pair decides, unless its numbers are equal. -/
theorem precedes_cons {left right : UInt64} {more : List (UInt64 × UInt64)} :
    precedes ((left, right) :: more) = true ↔
      left < right ∨ left = right ∧ precedes more = true := by
  rw [precedes]
  cases compared : compare left right with
  | lt =>
      have less := Std.compare_eq_lt.mp compared
      simp only [less, true_or]
  | eq =>
      have same := Std.compare_eq_iff_eq.mp compared
      simp only [same, UInt64.lt_irrefl, false_or, true_and]
  | gt =>
      have greater := Std.compare_eq_gt.mp compared
      have different : left ≠ right := fun same => UInt64.lt_irrefl _ (same ▸ greater)
      simp only [UInt64.lt_asymm greater, different, false_and, or_self, Bool.false_eq_true]

/-- The comparison of the program is the order of versions. -/
theorem isBelow_iff {left right : Version} : left.isBelow right = true ↔ left.Below right := by
  have ended : precedes [] = false := rfl
  simp only [isBelow, numbers, List.zip_cons_cons, List.zip_nil_right, precedes_cons, ended,
    Bool.false_eq_true, and_false, or_false, Below]

/-- The order of versions looks at the same difference. -/
theorem order_eq_lt {left right : Version} : left.order right = .lt ↔ left.Below right := by
  simp only [order, Ordering.then_eq_lt, Std.compare_eq_lt, Std.compare_eq_iff_eq, Below]

namespace Below

/-- Versions are ordered as the triples of their numbers. -/
theorem iff_toNat {left right : Version} : left.Below right ↔
    left.major.toNat < right.major.toNat ∨ left.major.toNat = right.major.toNat ∧
      (left.minor.toNat < right.minor.toNat ∨ left.minor.toNat = right.minor.toNat ∧
        left.patch.toNat < right.patch.toNat) := by
  simp only [Below, UInt64.lt_iff_toNat_lt, ← UInt64.toNat_inj]

theorem irrefl (version : Version) : ¬ version.Below version := by
  rw [iff_toNat]
  omega

theorem trans {first second third : Version} (lower : first.Below second)
    (upper : second.Below third) : first.Below third := by
  rw [iff_toNat] at *
  omega

/-- Two versions of which neither is below the other are the same. -/
theorem eq_of_not {left right : Version} (notBelow : ¬ left.Below right)
    (notAbove : ¬ right.Below left) : left = right := by
  rw [iff_toNat] at notBelow notAbove
  have same : left.major.toNat = right.major.toNat ∧ left.minor.toNat = right.minor.toNat ∧
      left.patch.toNat = right.patch.toNat := by
    omega
  simp only [UInt64.toNat_inj] at same
  cases left
  cases right
  simp only [mk.injEq]
  exact same

end Below

/-- A written version ends where something else than a digit or dot comes. -/
theorem text_append_inj {c : Char} (other : c.isDigit = false) {first second : Version}
    {more rest : List Char} (same : first.text ++ c :: more = second.text ++ c :: rest) :
    first = second ∧ more = rest := by
  have dot : '.'.isDigit = false := rfl
  unfold text at same
  simp only [List.append_assoc, List.cons_append] at same
  obtain ⟨major, same⟩ := Decimal.digits_append_inj dot same
  obtain ⟨minor, same⟩ := Decimal.digits_append_inj dot same
  obtain ⟨patch, behind⟩ := Decimal.digits_append_inj other same
  cases first
  cases second
  simp only [UInt64.toNat_inj] at major minor patch
  subst major minor patch
  exact ⟨rfl, behind⟩

/-- Different versions are written differently. -/
theorem text_inj {first second : Version} : first.text = second.text ↔ first = second := by
  constructor
  · intro same
    have ended : first.text ++ [' '] = second.text ++ [' '] := congrArg (· ++ [' ']) same
    exact (text_append_inj rfl ended).1
  · exact congrArg text

/-- A version is written with digits and points only. -/
theorem not_mem_text {c : Char} (other : c.isDigit = false) (noDot : c ≠ '.')
    (version : Version) : c ∉ version.text := by
  have absent := Decimal.not_mem_digits other
  simp only [text, List.mem_append, List.mem_cons, not_or]
  exact ⟨⟨absent _, noDot, absent _⟩, noDot, absent _⟩

end LintReport.Version
