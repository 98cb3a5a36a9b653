import LintReport.Json.Writer
import LintReport.Report.Tally

/-!
# Renderers

A batch is shown either as one line of JSON, a list of the findings, or as a table for a terminal:
a row for each finding, with positions padded to the widest of the batch, and below it perhaps the
tally.
-/

namespace LintReport

/-- How a batch is turned into text. -/
inductive Renderer where
  | json
  | terminal (footer : Bool)
  deriving DecidableEq, Repr

namespace Renderer

/-- The position of a finding as it is shown in a table. -/
def position (finding : Finding) : List Char :=
  Decimal.digits finding.line.toNat ++ ':' :: Decimal.digits finding.character.toNat

/-- A text with blanks after it up to a width; a longer text stays whole. -/
def padded (width : Nat) (text : List Char) : List Char :=
  text ++ List.replicate (width - text.length) ' '

/-- The width of the widest position of a batch. -/
def positionWidth (findings : List Finding) : Nat :=
  findings.foldl (fun width finding => max width (position finding).length) 0

/-- The word for the severity of a finding, or a dash. -/
def severityWord (finding : Finding) : List Char :=
  match finding.severity? with
  | some severity => severity.word.toList
  | none => ['-']

/-- The message of a finding, or a remark that there is none. -/
def reasonText (finding : Finding) : List Char := (finding.reason?.getD "(no message)").toList

/-- The code of a finding between parentheses, or nothing. -/
def codeText (finding : Finding) : List Char :=
  match finding.code? with
  | some code => ' ' :: '(' :: code.toList ++ [')']
  | none => []

/-- A row of the table. -/
def row (width : Nat) (finding : Finding) : List Char :=
  [' ', ' '] ++ padded width (position finding) ++ [' ', ' '] ++
    padded 7 (severityWord finding) ++ [' ', ' '] ++ reasonText finding ++ codeText finding ++
    ['\n']

/-- The rows of a batch, in its order. -/
def table (findings : List Finding) : List Char :=
  findings.flatMap (row (positionWidth findings))

/-- The line below the table, after an empty line when there are rows. -/
def footerLines (findings : List Finding) : List Char :=
  (if findings.isEmpty then [] else ['\n']) ++ (Tally.ofFindings findings).text ++ ['\n']

/-- The text of a batch. -/
def write : Renderer → List Finding → List Char
  | json, findings => Json.write (.list (findings.map Finding.toJson)) ++ ['\n']
  | terminal footer, findings =>
    table findings ++ if footer then footerLines findings else []

/-- The text of a batch as a string. -/
def render (renderer : Renderer) (findings : List Finding) : String :=
  String.ofList (renderer.write findings)

end Renderer

end LintReport
