/-!
# Binary floating-point numbers of 64 bits

A finite number of the format is a sign, a significand below 2^53 and a power of two. The one
operation that all others go through is `Binary64.ofRatio`: the number nearest to a given ratio,
a half going to the even neighbour. The arithmetic is exact, on natural numbers, so that every
result can be computed and reasoned about.
-/

namespace LintReport

/-- A finite 64-bit floating-point number: `± significand · 2^power`. The significand lies below
`2^53`, the power between `-1074` and `971`, and only the least power has significands below
`2^52`. -/
structure Binary64 where
  negative : Bool
  significand : Nat
  power : Int
  deriving DecidableEq, Repr

namespace Binary64

/-- Two to a power; a negative power counts as zero. -/
def twoTo (power : Int) : Nat := Nat.pow 2 power.toNat

/-- Ten to a power; a negative power counts as zero. -/
def tenTo (power : Int) : Nat := Nat.pow 10 power.toNat

/-- The zero of the given sign. -/
def zero (negative : Bool) : Binary64 := ⟨negative, 0, -1074⟩

/-- Zero, of either sign. -/
def isZero (x : Binary64) : Bool := x.significand == 0

/-- The number with its sign changed. -/
def negate (x : Binary64) : Binary64 := { x with negative := !x.negative }

/-- The number without its sign. -/
def magnitude (x : Binary64) : Binary64 := { x with negative := false }

/-- The quotient rounded to the nearest whole number, a half to the even one. -/
def roundQuotient (num den : Nat) : Nat :=
  let quotient := num / den
  let twice := 2 * (num % den)
  if twice < den then quotient
  else if den < twice then quotient + 1
  else if quotient % 2 = 0 then quotient
  else quotient + 1

/-- The power of two at or below a positive ratio: the greatest `e` with `2^e ≤ num / den`. -/
def floorLog2 (num den : Nat) : Int :=
  let estimate : Int := (num.log2 : Int) - (den.log2 : Int)
  if den * twoTo estimate ≤ num * twoTo (-estimate) then estimate else estimate - 1

/-- The number nearest to a ratio, a half going to the even neighbour; none when the nearest would
lie beyond the greatest finite number. -/
def ofRatio (negative : Bool) (num den : Nat) : Option Binary64 :=
  if num = 0 then some (zero negative)
  else
    let power := max (-1074) (floorLog2 num den - 52)
    let rounded := roundQuotient (num * twoTo (-power)) (den * twoTo power)
    let (significand, power) :=
      if rounded = twoTo 53 then (twoTo 52, power + 1) else (rounded, power)
    if 971 < power then none
    else if significand = 0 then some (zero negative)
    else some ⟨negative, significand, power⟩

/-- The numerator of the magnitude as an exact ratio. -/
def num (x : Binary64) : Nat := x.significand * twoTo x.power

/-- The denominator of the magnitude as an exact ratio. -/
def den (x : Binary64) : Nat := twoTo (-x.power)

/-- The number nearest to a natural number below `2^1024`. -/
def ofNat (n : Nat) : Binary64 := (ofRatio false n 1).getD (zero false)

/-- The number nearest to a power of ten, up to `10^308`. -/
def powerOfTen (exponent : Nat) : Binary64 := ofNat (tenTo exponent)

/-- The rounded product; none when it is too great. -/
def mul? (x y : Binary64) : Option Binary64 :=
  ofRatio (x.negative != y.negative) (x.num * y.num) (x.den * y.den)

/-- The rounded quotient by a number other than zero; none when it is too great. -/
def div? (x y : Binary64) : Option Binary64 :=
  ofRatio (x.negative != y.negative) (x.num * y.den) (x.den * y.num)

/-- The number nearest to `digits · 10^exponent`; none when it is too great. Numbers whose first
digit stands beyond the range of the format on either side are decided at once. -/
def ofDecimal (negative : Bool) (digits : Nat) (exponent : Int) : Option Binary64 :=
  let lead := exponent + (Nat.toDigits 10 digits).length
  if digits = 0 ∨ lead < -330 then some (zero negative)
  else if 310 < lead then none
  else ofRatio negative (digits * tenTo exponent) (tenTo (-exponent))

end Binary64

end LintReport
