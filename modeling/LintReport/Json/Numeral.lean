import LintReport.Text.Decimal
import LintReport.Json.Fault

/-!
# JSON numerals

A numeral is read in two steps: its parts are taken from the text by the grammar, and then given
a value. Whole numerals in range are exact. All others are floating-point: their digits are
gathered into a 64-bit significand for as long as they fit, and the significand is scaled once by
a power of ten. The scaling rounds a second time, so the result is not always the nearest number.
-/

namespace LintReport.Json

/-- The parts of a numeral: a sign, digits before the point, digits after it, and a power of ten
with its own sign. -/
structure Numeral where
  negative : Bool
  whole : List Char
  fraction : Option (List Char)
  exponent : Option (Bool × List Char)
  deriving DecidableEq, Repr

namespace Numeral

/-- Digits before the point: a lone zero, or digits of which the first is no zero. The given
cause is reported where the text ends. -/
def readWhole (atEnd : Cause) : Reader (List Char)
  | [] => .error (.here atEnd [])
  | first :: rest =>
    if first = '0' then
      match rest with
      | [] => .ok (['0'], [])
      | second :: _ =>
        if second.isDigit then .error (.next .invalidNumber rest) else .ok (['0'], rest)
    else if first.isDigit then
      .ok (first :: rest.takeWhile Char.isDigit, rest.dropWhile Char.isDigit)
    else .error (.next .invalidNumber (first :: rest))

/-- One or more digits. -/
def readDigits (atEnd : Cause) : Reader (List Char)
  | [] => .error (.here atEnd [])
  | first :: rest =>
    if first.isDigit then
      .ok (first :: rest.takeWhile Char.isDigit, rest.dropWhile Char.isDigit)
    else .error (.next .invalidNumber (first :: rest))

/-- A point and digits, if a point comes next. -/
def readFraction (atEnd : Cause) : Reader (Option (List Char))
  | '.' :: rest => do
    let (run, rest) ← readDigits atEnd rest
    return (some run, rest)
  | rest => .ok (none, rest)

/-- A power of ten, if its mark comes next; true stands for a minus sign. -/
def readExponent (atEnd : Cause) : Reader (Option (Bool × List Char))
  | mark :: rest =>
    if mark = 'e' ∨ mark = 'E' then do
      let (minus, rest) := match rest with
        | '-' :: rest => (true, rest)
        | '+' :: rest => (false, rest)
        | rest => (false, rest)
      let (run, rest) ← readDigits atEnd rest
      return (some (minus, run), rest)
    else .ok (none, mark :: rest)
  | [] => .ok (none, [])

/-- A numeral by the grammar; the given cause is reported where the text ends too early. -/
def read (atEnd : Cause) (text : List Char) : Except Fault (Numeral × List Char) := do
  let (negative, text) := match text with
    | '-' :: rest => (true, rest)
    | text => (false, text)
  let (whole, text) ← readWhole atEnd text
  let (fraction, text) ← readFraction atEnd text
  let (exponent, text) ← readExponent atEnd text
  return (⟨negative, whole, fraction, exponent⟩, text)

/-- Takes digits into a significand for as long as it stays below `2^64`; gives the significand
and the digits that no longer fit. -/
def gather (significand : Nat) : List Char → Nat × List Char
  | [] => (significand, [])
  | c :: rest =>
    let grown := significand * 10 + Decimal.digit c
    if grown < UInt64.size then gather grown rest else (significand, c :: rest)

/-- Divides by ten to the power `308` until the exponent is small enough for one division, or
until nothing is left. -/
def shrink : (steps : Nat) → Binary64 → Int → Binary64 × Int
  | 0, x, exponent => (x, exponent)
  | steps + 1, x, exponent =>
    if -308 ≤ exponent ∨ x.isZero then (x, exponent)
    else
      shrink steps ((x.div? (Binary64.powerOfTen 308)).getD (Binary64.zero false)) (exponent + 308)

/-- A significand times a power of ten, rounded at each step; none when it is too great. -/
def scale (significand : Nat) (exponent : Int) : Option Binary64 :=
  let start := Binary64.ofNat significand
  if 0 ≤ exponent then
    if 308 < exponent then
      if start.isZero then some start else none
    else start.mul? (Binary64.powerOfTen exponent.toNat)
  else
    let (x, exponent) := shrink exponent.natAbs start exponent
    if x.isZero then some x else x.div? (Binary64.powerOfTen exponent.natAbs)

/-- How many digits of an exponent are read before it no longer fits in 31 bits, if it ever
does not. -/
def exponentLimit? (run : List Char) : Option Nat :=
  (List.range run.length).map (· + 1) |>.find? fun count =>
    2147483648 ≤ Decimal.value (run.take count)

/-- The floating-point value of a numeral, or how many digits of its exponent were read when it
was found too great (none when all of the numeral had been read). -/
def toDouble (n : Numeral) : Except (Option Nat) Binary64 :=
  let (significand, unused) := gather 0 n.whole
  let fraction := n.fraction.getD []
  let (significand, dropped) := gather significand fraction
  let point : Int := unused.length - (fraction.length - dropped.length : Nat)
  let signed (x : Binary64) : Binary64 := if n.negative then x.negate else x
  let finish (exponent : Int) : Except (Option Nat) Binary64 :=
    match scale significand exponent with
    | some x => .ok (signed x)
    | none => .error none
  match n.exponent with
  | none => finish point
  | some (minus, run) =>
    match exponentLimit? run with
    | some count =>
      if significand ≠ 0 ∧ ¬minus then .error (some count) else .ok (signed (Binary64.zero false))
    | none =>
      let power : Int := Decimal.value run
      finish (if minus then point - power else point + power)

/-- The whole number that a numeral without point and exponent denotes, if it is in range; the
negative zero is not one. -/
def toWhole? (n : Numeral) : Option Whole :=
  match n.fraction, n.exponent with
  | none, none =>
    let magnitude := Decimal.value n.whole
    if n.negative then
      if magnitude = 0 then none else Whole.ofInt? (-(magnitude : Int))
    else Whole.ofInt? magnitude
  | _, _ => none

end Numeral

/-- Reads a number. One that is out of range is reported where its last digit was looked at. -/
def readNumber (text : List Char) : Except Fault (JsonNumber × List Char) := do
  let (numeral, rest) ← Numeral.read .endInValue text
  match numeral.toWhole? with
  | some n => return (.whole n, rest)
  | none =>
    match numeral.toDouble with
    | .ok x => return (.double x, rest)
    | .error none => .error (.here .numberOutOfRange rest)
    | .error (some count) =>
      let run := (numeral.exponent.map Prod.snd).getD []
      .error (.here .numberOutOfRange (run.drop count ++ rest))

end LintReport.Json
