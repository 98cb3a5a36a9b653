import LintReport.Log.Event
import LintReport.Finding.Severity
import LintReport.Finding.Payload

/-!
# Findings

A finding is what an analyzer reports at one place of a source file. Only its position is
interpreted; everything else is its payload and goes out as it came in.
-/

namespace LintReport

/-- A finding at a line and a character of it. -/
structure Finding where
  line : UInt64
  character : UInt64
  payload : Payload

namespace Finding

/-- A finding of which only the position is known. -/
def atPosition (line character : UInt64) : Finding := ⟨line, character, .empty⟩

/-- The finding with a member of its payload set; the position cannot be set this way. -/
def attach (finding : Finding) (key : String) (value : Json) : Finding :=
  { finding with payload := finding.payload.put key value }

/-- Setting a key of the position is noted, since it has no effect. -/
def attachEvents (key : String) : List Event :=
  if key ∈ positionKeys then
    [⟨.debug, .finding, "ignoring position field in payload", [("field", key)]⟩]
  else []

/-- The message, if the analyzer gave one. -/
def reason? (finding : Finding) : Option String :=
  (finding.payload.get? "reason").bind Json.toText?

/-- The code of the rule, if the analyzer gave one. -/
def code? (finding : Finding) : Option String :=
  (finding.payload.get? "code").bind Json.toText?

/-- The severity: the marker under `severity` if it is one, else what the code shows. -/
def severity? (finding : Finding) : Option Severity :=
  (((finding.payload.get? "severity").bind Json.toText?).bind Severity.ofMarker?).or
    (finding.code?.bind Severity.ofCode?)

/-- The finding as an object: its line, its character, and its payload in order. -/
def toJson (finding : Finding) : Json :=
  .object (("line", Json.ofUInt64 finding.line) ::
    ("character", Json.ofUInt64 finding.character) :: finding.payload.members)

end Finding

end LintReport
