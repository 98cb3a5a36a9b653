import LintReport.Binary64.Layout
import LintReport.Json.Text

/-!
# Writing JSON values

A value is written on one line without blanks.
-/

namespace LintReport.Json

/-- A number: whole numbers in decimal, others with the fewest digits that read back. -/
def writeNumber : JsonNumber → List Char
  | .whole n => Decimal.integer n.val
  | .double x => Binary64.write .compact x

mutual

/-- A value without blanks. -/
def write : Json → List Char
  | .null => ['n', 'u', 'l', 'l']
  | .boolean true => ['t', 'r', 'u', 'e']
  | .boolean false => ['f', 'a', 'l', 's', 'e']
  | .number n => writeNumber n
  | .string s => Text.write s
  | .list items => '[' :: writeItems true items ++ [']']
  | .object members => '{' :: writeMembers true members ++ ['}']

/-- Values with commas between them; the first has none before it. -/
def writeItems : (first : Bool) → List Json → List Char
  | _, [] => []
  | first, item :: rest =>
    (if first then [] else [',']) ++ write item ++ writeItems false rest

/-- Members with commas between them; the first has none before it. -/
def writeMembers : (first : Bool) → List (String × Json) → List Char
  | _, [] => []
  | first, (key, value) :: rest =>
    (if first then [] else [',']) ++ Text.write key ++ ':' :: write value ++
      writeMembers false rest

end

/-- The text of a value. -/
def render (value : Json) : String := String.ofList (write value)

end LintReport.Json
