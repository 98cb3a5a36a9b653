import LintReport.Text.Position
import LintReport.Json.Basic

/-!
# What can be wrong with a JSON text

A fault is a cause and a place. While a text is being read the place is given by what is left of
the text, and by how many bytes past that point the fault lies; the reader of a whole text turns
it into a line and a column.
-/

namespace LintReport.Json

/-- Why a JSON text cannot be read, or cannot be read as the value that was asked for. -/
inductive Cause where
  | endInValue
  | endInList
  | endInObject
  | endInText
  | valueExpected
  | wordExpected
  | colonExpected
  | listEndExpected
  | objectEndExpected
  | trailingComma
  | trailingCharacters
  | keyNotText
  | invalidNumber
  | numberOutOfRange
  | invalidEscape
  | controlCharacter
  | loneSurrogate
  | escapeCutShort
  | nestingTooDeep
  | wrongType (found expected : String)
  | missingField (name : String)
  | duplicateField (name : String)
  | wrongLength (length : Nat) (expected : String)
  | unknownVariant (name : String) (choices : List String)
  deriving DecidableEq, Repr

/-- Choices of a value, each between backticks: two with `or` between them, more with commas. -/
def choiceText : List String → String
  | [] => "there are no variants"
  | [only] => "expected `" ++ only ++ "`"
  | [first, second] => "expected `" ++ first ++ "` or `" ++ second ++ "`"
  | many => "expected one of " ++ ", ".intercalate (many.map ("`" ++ · ++ "`"))

/-- The wording of a cause. -/
def Cause.message : Cause → String
  | endInValue => "EOF while parsing a value"
  | endInList => "EOF while parsing a list"
  | endInObject => "EOF while parsing an object"
  | endInText => "EOF while parsing a string"
  | valueExpected => "expected value"
  | wordExpected => "expected ident"
  | colonExpected => "expected `:`"
  | listEndExpected => "expected `,` or `]`"
  | objectEndExpected => "expected `,` or `\x7d`"
  | trailingComma => "trailing comma"
  | trailingCharacters => "trailing characters"
  | keyNotText => "key must be a string"
  | invalidNumber => "invalid number"
  | numberOutOfRange => "number out of range"
  | invalidEscape => "invalid escape"
  | controlCharacter => "control character (\\u0000-\\u001F) found while parsing a string"
  | loneSurrogate => "lone leading surrogate in hex escape"
  | escapeCutShort => "unexpected end of hex escape"
  | nestingTooDeep => "recursion limit exceeded"
  | wrongType found expected => "invalid type: " ++ found ++ ", expected " ++ expected
  | missingField name => "missing field `" ++ name ++ "`"
  | duplicateField name => "duplicate field `" ++ name ++ "`"
  | wrongLength length expected =>
    "invalid length " ++ toString length ++ ", expected " ++ expected
  | unknownVariant name choices => "unknown variant `" ++ name ++ "`, " ++ choiceText choices

/-- A cause, what is left of the text, and how many bytes beyond that point the fault lies. -/
structure Fault where
  cause : Cause
  rest : List Char
  past : Nat
  deriving DecidableEq, Repr

namespace Fault

/-- A fault where the rest begins. -/
def here (cause : Cause) (rest : List Char) : Fault := ⟨cause, rest, 0⟩

/-- A fault just after the first byte of the rest. -/
def next (cause : Cause) (rest : List Char) : Fault := ⟨cause, rest, 1⟩

/-- How many bytes of the text lie before the fault, never more than the text has. -/
def offset (fault : Fault) (text : List Char) : Nat :=
  min (utf8Length text) (utf8Length text - utf8Length fault.rest + fault.past)

end Fault

/-- A cause at a line and column. -/
structure Error where
  cause : Cause
  place : Position
  deriving DecidableEq, Repr

/-- The wording of an error. -/
def Error.message (error : Error) : String :=
  error.cause.message ++ " at line " ++ toString error.place.line ++ " column " ++
    toString error.place.column

/-- A step of reading: a value and what is left of the text, or a fault. -/
abbrev Reader (α : Type) := List Char → Except Fault (α × List Char)

/-- Blanks between the parts of a document are space, tab, line feed and carriage return. -/
def isBlank (c : Char) : Bool := c == ' ' || c == '\t' || c == '\n' || c == '\r'

/-- The text after leading blanks. -/
def skipBlanks (text : List Char) : List Char := text.dropWhile isBlank

/-- Reads a whole text: blanks may follow, nothing else. -/
def readAll {α : Type} (reader : Reader α) (text : String) : Except Error α :=
  let chars := text.toList
  let located (fault : Fault) : Error :=
    ⟨fault.cause, Position.start.advance (fault.offset chars) chars⟩
  match reader chars with
  | .error fault => .error (located fault)
  | .ok (value, rest) =>
    match skipBlanks rest with
    | [] => .ok value
    | left => .error (located (.next .trailingCharacters left))

end LintReport.Json
