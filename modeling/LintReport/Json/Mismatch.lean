import LintReport.Text.Quoted
import LintReport.Binary64.Layout
import LintReport.Json.Reader

/-!
# A value of another kind than the one asked for

When a document is read straight into a value of a certain kind, whatever else stands there is
named in the fault. A scalar is read to its end first, so a broken scalar is reported as broken;
of a list or an object only the opening bracket is looked at.
-/

namespace LintReport.Json

/-- A number as it is named in a fault. -/
def JsonNumber.describe : JsonNumber → String
  | .whole n => "integer `" ++ String.ofList (Decimal.integer n.val) ++ "`"
  | .double x => "floating point `" ++ String.ofList (Binary64.write .compact x) ++ "`"

/-- What a truth value is called in a fault. -/
def describeBoolean (b : Bool) : String := "boolean `" ++ toString b ++ "`"

/-- What a string is called in a fault. -/
def describeString (s : String) : String := "string " ++ Quoted.quote s

/-- The fault of a text, at whose first character something else was expected to begin. -/
def mismatch (expected : String) (text : List Char) : Fault :=
  let scalar {α : Type} (read : Except Fault (α × List Char)) (describe : α → String) : Fault :=
    match read with
    | .error fault => fault
    | .ok (found, rest) => .here (.wrongType (describe found) expected) rest
  let word (letters : List Char) (rest : List Char) (name : String) : Fault :=
    match readWord letters rest with
    | .error fault => fault
    | .ok rest => .here (.wrongType name expected) rest
  match text with
  | 'n' :: rest => word ['u', 'l', 'l'] rest "null"
  | 't' :: rest => word ['r', 'u', 'e'] rest (describeBoolean true)
  | 'f' :: rest => word ['a', 'l', 's', 'e'] rest (describeBoolean false)
  | '"' :: rest => scalar (Text.read rest) describeString
  | '[' :: rest => .here (.wrongType "sequence" expected) ('[' :: rest)
  | '{' :: rest => .here (.wrongType "map" expected) ('{' :: rest)
  | [] => .here .valueExpected []
  | c :: rest =>
    if c = '-' ∨ c.isDigit then scalar (readNumber (c :: rest)) JsonNumber.describe
    else .next .valueExpected (c :: rest)

/-- A string, and nothing else. -/
def readString (expected : String) (text : List Char) : Except Fault (String × List Char) :=
  match skipBlanks text with
  | [] => .error (.here .endInValue [])
  | '"' :: rest => Text.read rest
  | left => .error (mismatch expected left)

/-- The word `null`, and nothing else. -/
def readNull (expected : String) (text : List Char) : Except Fault (List Char) :=
  match skipBlanks text with
  | [] => .error (.here .endInValue [])
  | 'n' :: rest => readWord ['u', 'l', 'l'] rest
  | left => .error (mismatch expected left)

end LintReport.Json
