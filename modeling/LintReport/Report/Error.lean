import LintReport.Finding.Record
import LintReport.Json.Fault

/-!
# Errors of a report

A batch cannot be read, or a report cannot be written.
-/

namespace LintReport

/-- Why a byte stream could not be written to, or a file not be read. -/
inductive StreamError where
  | closed
  | noProgress
  | flushFailed
  | noSpace
  | notFound
  | notDirectory
  | isDirectory
  | linkLoop
  | nameTooLong
  | nulInName
  | notUtf8
  | other (text : String)
  deriving DecidableEq, Repr

/-- The wording of an error of a stream or file. -/
def StreamError.message : StreamError → String
  | closed => "closed"
  | noProgress => "failed to write whole buffer"
  | flushFailed => "flush failed"
  | noSpace => "No space left on device (os error 28)"
  | notFound => "No such file or directory (os error 2)"
  | notDirectory => "Not a directory (os error 20)"
  | isDirectory => "Is a directory (os error 21)"
  | linkLoop => "Too many levels of symbolic links (os error 40)"
  | nameTooLong => "File name too long (os error 36)"
  | nulInName => "file name contained an unexpected NUL byte"
  | notUtf8 => "stream did not contain valid UTF-8"
  | other text => text

/-- Why there is no report. -/
inductive ReportError where
  | unreadable (error : Json.Error)
  | notList
  | record (index : Nat) (defect : Defect)
  | output (error : StreamError)

/-- The wording of an error of a report. -/
def ReportError.message : ReportError → String
  | unreadable error => "failed to parse analysis results: " ++ error.message
  | notList => "analysis results must be a JSON array"
  | record index defect => "result " ++ toString index ++ ": " ++ defect.message
  | output error => "failed to write report: " ++ error.message

/-- A batch of records in the order of the text. -/
def readBatch (text : String) : Except ReportError (List Record) :=
  match Json.parse text with
  | .error error => .error (.unreadable error)
  | .ok (.list items) =>
    match Record.ofJsonList 0 items with
    | .error (index, defect) => .error (.record index defect)
    | .ok records => .ok records
  | .ok _ => .error .notList

end LintReport
