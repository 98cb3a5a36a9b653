import LintReport.Finding.Basic
import LintReport.Json.Reader
import LintReport.Json.Writer

/-!
# Reading findings

An analyzer writes a list of records, each an object with a finding under `error` and perhaps the
name of a file under `file`. A batch is read as a whole: one record that is not in order rejects
all of them, and the first such record is the one that is named.
-/

namespace LintReport

/-- One record of an analyzer's output. -/
structure Record where
  file : Option String
  finding : Finding

/-- What is wrong with a record. -/
inductive Defect where
  | missing (field : String)
  | wrongKind (field expected : String) (found : Json)
  | notNatural (field : String) (found : Json)

/-- The wording of a defect. -/
def Defect.message : Defect → String
  | missing field => "missing required field `" ++ field ++ "`"
  | wrongKind field expected found =>
    "invalid field `" ++ field ++ "`: expected " ++ expected ++ ", found " ++ found.kind
  | notNatural field found =>
    "invalid field `" ++ field ++ "`: expected a non-negative integer, found " ++ found.render

namespace Finding

/-- One number of a position. A member that is null counts as missing. -/
def position (members : Members) (field : String) : Except Defect UInt64 :=
  match members.get? field with
  | none => .error (.missing field)
  | some .null => .error (.missing field)
  | some value =>
    match value.toUInt64? with
    | some n => .ok n
    | none => .error (.notNatural field value)

/-- The finding that an object denotes. -/
def ofJson : Json → Except Defect Finding
  | .object members => do
    let line ← position members "line"
    let character ← position members "character"
    return ⟨line, character, Payload.ofMembers members⟩
  | other => .error (.wrongKind "error" "an object" other)

end Finding

namespace Record

/-- The record of a finding in no known file. -/
def ofFinding (finding : Finding) : Record := ⟨none, finding⟩

/-- The name of the file, if the record gives one. -/
def fileOf (members : Members) : Except Defect (Option String) :=
  match members.get? "file" with
  | none => .ok none
  | some .null => .ok none
  | some (.string file) => .ok (some file)
  | some other => .error (.wrongKind "file" "a string" other)

/-- The finding that the record wraps. -/
def findingOf (members : Members) : Except Defect Finding :=
  match members.get? "error" with
  | none => .error (.missing "error")
  | some .null => .error (.missing "error")
  | some value => Finding.ofJson value

/-- The record that an object denotes. -/
def ofJson : Json → Except Defect Record
  | .object members => do
    let file ← fileOf members
    let finding ← findingOf members
    return ⟨file, finding⟩
  | other => .error (.wrongKind "result" "an object" other)

/-- The records of a list, or the place of the first one with a defect. -/
def ofJsonList : (index : Nat) → List Json → Except (Nat × Defect) (List Record)
  | _, [] => .ok []
  | index, item :: rest =>
    match ofJson item with
    | .error defect => .error (index, defect)
    | .ok record => (ofJsonList (index + 1) rest).map (record :: ·)

end Record

end LintReport
