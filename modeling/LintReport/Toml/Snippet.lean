import LintReport.Text.Position
import LintReport.Toml.Basic

/-!
# Messages about a document

A message about a part of a document shows the line in which the part begins, with the part
underlined as far as it lies in that line. What is said of a text that breaks the grammar is a
matter of the reader of documents, and is left open.
-/

namespace LintReport.Toml

/-- What is said of each text that is no document because it breaks the grammar. -/
abbrev Wording := List Char → String

/-- The same short words for every such text. -/
def Wording.brief : Wording := fun _ => "not a TOML document"

/-- The characters since the last line feed. -/
def lineBefore (before : List Char) : List Char :=
  (before.reverse.takeWhile (· != '\n')).reverse

/-- How many marks underline a part: as many as it has bytes, no more than reach to the end of the
line, and at least one. -/
def underlineLength (part lineText : List Char) (column : Nat) : Nat :=
  max 1 (min (utf8Length part) (utf8Length lineText - column))

/-- A message about a part of a text. -/
def snippet (text : List Char) (span : Span) (message : String) : String :=
  let before := text.take (text.length - span.opens)
  let part := (text.drop before.length).take (span.opens - span.closes)
  let start := lineBefore before
  let lineText := start ++ (text.drop before.length).takeWhile (· != '\n')
  let number := toString (before.count '\n' + 1)
  let margin := String.ofList (List.replicate (number.length + 1) ' ') ++ "|"
  let blanks := String.ofList (List.replicate (start.length + 1) ' ')
  let marks := String.ofList (List.replicate (underlineLength part lineText start.length) '^')
  "TOML parse error at line " ++ number ++ ", column " ++ toString (start.length + 1) ++ "\n" ++
    margin ++ "\n" ++ number ++ " | " ++ String.ofList lineText ++ "\n" ++
    margin ++ blanks ++ marks ++ "\n" ++ message ++ "\n"

end LintReport.Toml
