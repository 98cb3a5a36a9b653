/-!
# Severities

A finding is an error, a warning or a piece of information. A severity is written as a marker, a
letter or a word in any case of ASCII, or shows in the first letter of a rule's code.
-/

namespace LintReport

/-- How severe a finding is, from least to most. -/
inductive Severity where
  | info
  | warning
  | error
  deriving DecidableEq, Repr

namespace Severity

/-- The place of a severity in the order, from zero for the least. -/
def rank : Severity → Nat
  | info => 0
  | warning => 1
  | error => 2

/-- The word for a severity. -/
def word : Severity → String
  | info => "info"
  | warning => "warning"
  | error => "error"

/-- The severity that a marker stands for; the case of ASCII letters does not matter. -/
def ofMarker? (marker : String) : Option Severity :=
  match String.ofList (marker.toList.map Char.toLower) with
  | "e" => some error
  | "error" => some error
  | "w" => some warning
  | "warning" => some warning
  | "i" => some info
  | "info" => some info
  | _ => none

/-- The severity that the first letter of a rule's code shows. -/
def ofCode? (code : String) : Option Severity :=
  match code.toList with
  | 'E' :: _ => some error
  | 'W' :: _ => some warning
  | 'I' :: _ => some info
  | _ => none

end Severity

end LintReport
