import LintReport.Binary64.Shortest

/-!
# Layouts of floating-point numerals

A layout says for which magnitudes a number is written out in full; all other magnitudes are
written with one digit before the point and a power of ten. A number written out in full always
has a point and a digit after it.
-/

namespace LintReport.Binary64

/-- The powers of ten of the first digit for which a number is written out in full, and what is
done about ties. -/
structure Layout where
  least : Int
  greatest : Int
  tie : Tie
  deriving DecidableEq, Repr

namespace Layout

/-- From `1e-5` up to, but not including, `1e16`, numbers are written out in full; ties go to the
even digit. -/
def compact : Layout := ⟨-5, 15, .toEven⟩

/-- Every number is written out in full; ties go away from zero. -/
def full : Layout := ⟨-400, 400, .away⟩

end Layout

/-- All digits before and after the point, at least one on each side. -/
def Decimal.inFull (d : Decimal) : List Char :=
  if d.lead < 0 then
    '0' :: '.' :: List.replicate ((-d.lead).toNat - 1) '0' ++ d.digits
  else
    let before := d.lead.toNat + 1
    let whole := d.digits.take before ++ List.replicate (before - d.digits.length) '0'
    let fraction := d.digits.drop before
    whole ++ '.' :: (if fraction.isEmpty then ['0'] else fraction)

/-- One digit, the others after a point if there are any, and the power of ten with its sign. -/
def Decimal.scientific (d : Decimal) : List Char :=
  let exponent := (if d.lead < 0 then '-' else '+') :: LintReport.Decimal.digits d.lead.natAbs
  match d.digits with
  | [] => 'e' :: exponent
  | [only] => only :: 'e' :: exponent
  | first :: more => first :: '.' :: more ++ 'e' :: exponent

/-- The shortest digits of a number in a layout, after a minus sign for the negative ones, the
negative zero among them. -/
def write (layout : Layout) (x : Binary64) : List Char :=
  let d := x.shortest layout.tie
  let body := if layout.least ≤ d.lead ∧ d.lead ≤ layout.greatest then d.inFull else d.scientific
  if x.negative then '-' :: body else body

end LintReport.Binary64
