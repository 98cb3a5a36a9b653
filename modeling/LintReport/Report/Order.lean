import LintReport.Finding.Basic

/-!
# The order of findings

Findings are ordered by line and then by character. What a finding says does not count, so two
findings at one place are equal in this order, and sorting leaves them as they came.
-/

namespace LintReport.Finding

/-- Compares two findings by line, then by character. -/
def comparePosition (left right : Finding) : Ordering :=
  (compare left.line right.line).then (compare left.character right.character)

/-- Whether one finding may stand before the other. -/
def notAfter (left right : Finding) : Bool := (left.comparePosition right).isLE

/-- The findings by position; those at one place keep their order. -/
def sort (findings : List Finding) : List Finding := findings.mergeSort notAfter

/-- Sorting keeps every finding and adds none. -/
theorem sort_perm (findings : List Finding) : (sort findings).Perm findings :=
  List.mergeSort_perm findings notAfter

end LintReport.Finding
