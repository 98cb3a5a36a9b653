import LintReport.Text.Decimal
import LintReport.Finding.Basic

/-!
# Tallies

How many findings of each severity a batch holds. A finding without a severity counts for the
total only.
-/

namespace LintReport

/-- The numbers of findings by severity, and of all findings. -/
structure Tally where
  errors : Nat
  warnings : Nat
  infos : Nat
  total : Nat
  deriving DecidableEq, Repr

namespace Tally

/-- The number of findings of one severity. -/
def count (severity : Severity) (findings : List Finding) : Nat :=
  findings.countP (·.severity? == some severity)

/-- The tally of a batch. -/
def ofFindings (findings : List Finding) : Tally where
  errors := count .error findings
  warnings := count .warning findings
  infos := count .info findings
  total := findings.length

/-- Whether a finding is an error. -/
def hasErrors (tally : Tally) : Bool := 0 < tally.errors

/-- Whether a finding is an error or a warning. -/
def hasProblems (tally : Tally) : Bool := 0 < tally.errors || 0 < tally.warnings

/-- The line that sums a batch up. -/
def text (tally : Tally) : List Char :=
  Decimal.digits tally.errors ++ " error(s), ".toList ++ Decimal.digits tally.warnings ++
    " warning(s)".toList

end Tally

end LintReport
