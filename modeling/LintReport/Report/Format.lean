import LintReport.Json.Mismatch
import LintReport.Report.Renderer

/-!
# Report formats

A report is written as JSON or as text. The format is named by a word; in a JSON document it is
that word as a string, or an object whose one key is the word and whose value is null.
-/

namespace LintReport

/-- The kind of a report. -/
inductive Format where
  | json
  | text
  deriving DecidableEq, Repr

namespace Format

/-- The word for a format. -/
def word : Format → String
  | json => "json"
  | text => "text"

/-- The words for the formats, in the order in which they are offered. -/
def words : List String := ["json", "text"]

/-- The format that a word names. -/
def ofWord? : String → Option Format
  | "json" => some json
  | "text" => some text
  | _ => none

/-- The renderer that goes with a format; text comes with the tally. -/
def renderer : Format → Renderer
  | json => .json
  | text => .terminal true

/-- The format that a word names, or a fault after the word. -/
def named (name : String) (rest : List Char) : Except Json.Fault Format :=
  match ofWord? name with
  | some format => .ok format
  | none => .error (.here (.unknownVariant name words) rest)

/-- The word of an object whose opening brace has been read. -/
def readTag (text : List Char) : Except Json.Fault (Format × List Char) :=
  match Json.skipBlanks text with
  | [] => .error (.here .endInObject [])
  | '"' :: rest => do
    let (name, rest) ← Json.Text.read rest
    let format ← named name rest
    return (format, rest)
  | '}' :: left => .error (.next .valueExpected ('}' :: left))
  | left => .error (.next .keyNotText left)

/-- A format in a JSON document. -/
def read : Json.Reader Format
  | chars =>
    match Json.skipBlanks chars with
    | [] => .error (.here .endInValue [])
    | '"' :: rest => do
      let (name, rest) ← Json.Text.read rest
      let format ← named name rest
      return (format, rest)
    | '{' :: rest => do
      let (format, rest) ← readTag rest
      let rest ← Json.readColon rest
      let rest ← Json.readNull "unit" rest
      match Json.skipBlanks rest with
      | [] => .error (.here .endInObject [])
      | '}' :: rest => return (format, rest)
      | rest => .error (.here .valueExpected rest)
    | left => .error (.next .valueExpected left)

/-- The format that a JSON text denotes. -/
def parse (document : String) : Except Json.Error Format := Json.readAll read document

/-- A format is named by its word. -/
theorem ofWord?_word (format : Format) : ofWord? format.word = some format := by
  cases format <;> rfl

end Format

end LintReport
