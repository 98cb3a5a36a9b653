import LintReport.Text.Decimal
import LintReport.Binary64.Basic

/-!
# Shortest decimal digits

The digits written for a floating-point number are the fewest that read back as it, and of those
the ones nearest to it. A decimal reads back as `x` when it lies between the midpoints to the
neighbours of `x`, the midpoints themselves included just when the significand of `x` is even.
For one digit, two digits and so on, the two decimals of that many digits around `x` are tried;
the first number of digits for which one of them reads back is the least possible.
-/

namespace LintReport.Binary64

/-- A decimal number without its sign: `0.d₁d₂… · 10^(lead + 1)`, the first digit standing for
`10^lead`. -/
structure Decimal where
  digits : List Char
  lead : Int
  deriving DecidableEq, Repr

/-- The power of ten at or below a positive ratio. -/
def floorLog10 (num den : Nat) : Int :=
  if den ≤ num then ((LintReport.Decimal.digits (num / den)).length : Int) - 1
  else -((LintReport.Decimal.digits ((den - 1) / num)).length : Int)

/-- Four times the significand times a power of two: `(4 · significand + shift) / 4` of a unit in
the last place, as a numerator over `quarterDen`. -/
def quarterNum (x : Binary64) (quarters : Nat) : Nat := quarters * twoTo (x.power - 2)

/-- The denominator that goes with `quarterNum`. -/
def quarterDen (x : Binary64) : Nat := twoTo (2 - x.power)

/-- The lower midpoint in quarters of the last place: half a unit below, and only a quarter below
a power of two, where the spacing changes. -/
def lowQuarters (x : Binary64) : Nat :=
  if x.significand = twoTo 52 ∧ -1074 < x.power then 4 * x.significand - 1
  else 4 * x.significand - 2

/-- The upper midpoint in quarters of the last place. -/
def highQuarters (x : Binary64) : Nat := 4 * x.significand + 2

/-- Whether `count · 10^unit` reads back as the magnitude of `x`. -/
def readsBack (x : Binary64) (count : Nat) (unit : Int) : Bool :=
  let left := count * tenTo unit * x.quarterDen
  let low := x.quarterNum x.lowQuarters * tenTo (-unit)
  let high := x.quarterNum x.highQuarters * tenTo (-unit)
  if x.significand % 2 = 0 then low ≤ left && left ≤ high else low < left && left < high

/-- Which of two decimals is taken when they are equally near: the one whose last digit is even,
or the one that is farther from zero. -/
inductive Tie where
  | toEven
  | away
  deriving DecidableEq, Repr

/-- The whole number nearest to a ratio. -/
def Tie.nearest : Tie → (num den : Nat) → Nat
  | toEven, num, den => roundQuotient num den
  | away, num, den => (2 * num + den) / (2 * den)

/-- The multiple of `10^unit` that stands for `x` on that grid: of the two multiples around `x`
the one that reads back, the nearer one if both do, and if both are equally near the one that the
tie says. -/
def onGrid? (x : Binary64) (tie : Tie) (unit : Int) : Option Nat :=
  let scaledNum := x.num * tenTo (-unit)
  let scaledDen := x.den * tenTo unit
  let below := scaledNum / scaledDen
  match x.readsBack below unit, x.readsBack (below + 1) unit with
  | true, true => some (tie.nearest scaledNum scaledDen)
  | true, false => some below
  | false, true => some (below + 1)
  | false, false => none

/-- The decimal with the given count of units of a power of ten, without closing zeros. -/
def Decimal.ofCount (count : Nat) (unit : Int) : Decimal :=
  let all := LintReport.Decimal.digits count
  let kept := (all.reverse.dropWhile (· == '0')).reverse
  ⟨if kept.isEmpty then ['0'] else kept, unit + (all.length : Int) - 1⟩

/-- The fewest digits that read back as the magnitude of `x`, nearest to it among as few. -/
def shortest (x : Binary64) (tie : Tie) : Decimal :=
  if x.isZero then ⟨['0'], 0⟩
  else
    let lead := floorLog10 x.num x.den
    let found := (List.range 17).findSome? fun (more : Nat) =>
      let unit := lead - (more : Int)
      (x.onGrid? tie unit).map (Decimal.ofCount · unit)
    found.getD ⟨['0'], 0⟩

end LintReport.Binary64
