import LintReport.Toml.Text

/-!
# Numbers, dates and times of TOML documents

Digits may have single underscores between them. Whole numbers fit in 64 bits with a sign, and may
be written in three other bases. A number with a point or a power of ten is rounded to the nearest
floating-point number. Dates are those of the calendar, and a minute may have a leap second.
-/

namespace LintReport.Toml

/-- The digits after the first one of a run, without the underscores between them. -/
def readMoreDigits (isDigit : Char → Bool) : List Char → Except Fault (List Char × List Char)
  | '_' :: c :: rest =>
    if isDigit c then (readMoreDigits isDigit rest).map fun read => (c :: read.1, read.2)
    else .error .malformed
  | c :: rest =>
    if isDigit c then (readMoreDigits isDigit rest).map fun read => (c :: read.1, read.2)
    else if c = '_' then .error .malformed
    else .ok ([], c :: rest)
  | [] => .ok ([], [])

/-- A run of one or more digits. -/
def readDigits (isDigit : Char → Bool) : List Char → Except Fault (List Char × List Char)
  | c :: rest =>
    if isDigit c then (readMoreDigits isDigit rest).map fun read => (c :: read.1, read.2)
    else .error .malformed
  | [] => .error .malformed

/-- Decimal digits of which the first is zero only if it stands alone. -/
def readWhole : List Char → Except Fault (List Char × List Char)
  | '0' :: rest => .ok (['0'], rest)
  | text => readDigits Char.isDigit text

/-- A sign, if there is one; true stands for a minus sign. -/
def readSign : List Char → Bool × List Char
  | '-' :: rest => (true, rest)
  | '+' :: rest => (false, rest)
  | rest => (false, rest)

/-- A point and digits, if a point comes next. -/
def readFraction : List Char → Except Fault (Option (List Char) × List Char)
  | '.' :: rest => (readDigits Char.isDigit rest).map fun read => (some read.1, read.2)
  | rest => .ok (none, rest)

/-- A power of ten, if its mark comes next. -/
def readExponent : List Char → Except Fault (Option Int × List Char)
  | c :: rest =>
    if c = 'e' ∨ c = 'E' then
      let (negative, rest) := readSign rest
      (readDigits Char.isDigit rest).map fun read =>
        let value : Int := Decimal.value read.1
        (some (if negative then -value else value), read.2)
    else .ok (none, c :: rest)
  | [] => .ok (none, [])

/-- A whole number within 64 bits. -/
def inRange (n : Int) : Except Fault Int :=
  if -9223372036854775808 ≤ n ∧ n ≤ 9223372036854775807 then .ok n else .error .malformed

/-- A floating-point number by its digits; one too great is an error unless it is negative. -/
def realOf (negative : Bool) (digits : List Char) (exponent : Int) : Except Fault Real :=
  match Binary64.ofDecimal negative (Decimal.value digits) exponent with
  | some x => .ok (.finite x)
  | none => if negative then .ok (.infinite true) else .error .malformed

/-- A decimal number after its sign. -/
def readDecimal (negative : Bool) (make : List Char → Span) (text : List Char) :
    Except Fault (Toml × List Char) := do
  let (whole, rest) ← readWhole text
  let (fraction, rest) ← readFraction rest
  let (exponent, rest) ← readExponent rest
  match fraction, exponent with
  | none, none =>
    let magnitude : Int := Decimal.value whole
    let n ← inRange (if negative then -magnitude else magnitude)
    return (.integer (make rest) n, rest)
  | _, _ =>
    let digits := fraction.getD []
    let x ← realOf negative (whole ++ digits) (exponent.getD 0 - digits.length)
    return (.real (make rest) x, rest)

/-- The value of digits in a base of up to sixteen. -/
def valueIn (base : Nat) (digits : List Char) : Nat :=
  digits.foldl (fun total c => base * total + (Decimal.hexDigit? c).getD 0) 0

/-- Whether a character is a digit in a base of up to sixteen. -/
def isDigitIn (base : Nat) (c : Char) : Bool :=
  match Decimal.hexDigit? c with
  | some value => value < base
  | none => false

/-- A whole number in another base, after its mark. -/
def readInBase (base : Nat) (make : List Char → Span) (text : List Char) :
    Except Fault (Toml × List Char) := do
  let (digits, rest) ← readDigits (isDigitIn base) text
  let n ← inRange (valueIn base digits)
  return (.integer (make rest) n, rest)

/-- The number that a fixed count of decimal digits denotes, if it lies within bounds. -/
def readField (count least greatest : Nat) (text : List Char) :
    Except Fault (Nat × List Char) :=
  let digits := text.take count
  let value := Decimal.value digits
  if digits.length = count ∧ digits.all Char.isDigit ∧ least ≤ value ∧ value ≤ greatest then
    .ok (value, text.drop count)
  else .error .malformed

/-- One given character. -/
def readMark (mark : Char) : List Char → Except Fault (List Char)
  | c :: rest => if c = mark then .ok rest else .error .malformed
  | [] => .error .malformed

/-- Whether a year has a twenty-ninth of February. -/
def isLeapYear (year : Nat) : Bool := year % 4 == 0 && (year % 100 != 0 || year % 400 == 0)

/-- The number of days of a month. -/
def daysOf (year month : Nat) : Nat :=
  if month = 2 then (if isLeapYear year then 29 else 28)
  else if month = 4 ∨ month = 6 ∨ month = 9 ∨ month = 11 then 30
  else 31

/-- Passes over a date. -/
def skipDate (text : List Char) : Except Fault (List Char) := do
  let (year, rest) ← readField 4 0 9999 text
  let rest ← readMark '-' rest
  let (month, rest) ← readField 2 1 12 rest
  let rest ← readMark '-' rest
  let (_, rest) ← readField 2 1 (daysOf year month) rest
  return rest

/-- The text after a point and digits, if they come next; a point without digits is left. -/
def skipFraction : List Char → List Char
  | '.' :: c :: rest => if c.isDigit then rest.dropWhile Char.isDigit else '.' :: c :: rest
  | rest => rest

/-- Passes over a time of day. -/
def skipTime (text : List Char) : Except Fault (List Char) := do
  let (_, rest) ← readField 2 0 23 text
  let rest ← readMark ':' rest
  let (_, rest) ← readField 2 0 59 rest
  let rest ← readMark ':' rest
  let (_, rest) ← readField 2 0 60 rest
  return skipFraction rest

/-- Passes over the distance of a time from universal time, if it is given. -/
def skipOffset : List Char → Except Fault (List Char)
  | [] => .ok []
  | c :: rest =>
    if c = 'Z' ∨ c = 'z' then .ok rest
    else if c = '+' ∨ c = '-' then do
      let (_, rest) ← readField 2 0 23 rest
      let rest ← readMark ':' rest
      let (_, rest) ← readField 2 0 59 rest
      return rest
    else .ok (c :: rest)

/-- Whether a text begins with a count of decimal digits, which are at most a given number, and
then a mark. -/
def startsField (count greatest : Nat) (mark : Char) (text : List Char) : Bool :=
  (readField count 0 greatest text).toOption.map (·.2.head?) == some (some mark)

/-- Whether a text begins like a date. -/
def startsDate (text : List Char) : Bool := startsField 4 9999 '-' text

/-- Whether a text begins with an hour of the day. -/
def startsTime (text : List Char) : Bool := startsField 2 23 ':' text

/-- Passes over a date, and over a time after it if one follows. -/
def skipDateTime (text : List Char) : Except Fault (List Char) := do
  let rest ← skipDate text
  match rest with
  | c :: left =>
    if (c = 'T' ∨ c = 't' ∨ c = ' ') ∧ startsTime left then
      let left ← skipTime left
      skipOffset left
    else return rest
  | [] => return rest

/-- The words for values that are no finite number. -/
def readRealWord (negative : Bool) (make : List Char → Span) :
    List Char → Except Fault (Toml × List Char)
  | 'i' :: 'n' :: 'f' :: rest => .ok (.real (make rest) (.infinite negative), rest)
  | 'n' :: 'a' :: 'n' :: rest => .ok (.real (make rest) .undefined, rest)
  | _ => .error .malformed

/-- A number, a date or a time. What follows the longest beginning that is one of these is left,
so of an hour that no day has only the number is read. -/
def readNumeral (text : List Char) : Except Fault (Toml × List Char) :=
  let make (rest : List Char) : Span := .between text rest
  let moment (rest : List Char) : Toml × List Char := (.moment (make rest), rest)
  if startsDate text then (skipDateTime text).map moment
  else if startsTime text then (skipTime text).map moment
  else
    match text with
    | '0' :: 'x' :: rest => readInBase 16 make rest
    | '0' :: 'o' :: rest => readInBase 8 make rest
    | '0' :: 'b' :: rest => readInBase 2 make rest
    | _ =>
      let (negative, rest) := readSign text
      match rest with
      | [] => .error .malformed
      | c :: _ =>
        if c.isDigit then readDecimal negative make rest else readRealWord negative make rest

end LintReport.Toml
