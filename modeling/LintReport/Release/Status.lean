import LintReport.Json.Writer
import LintReport.Release.Version

/-!
# The state of an update check

What a user is shown about updates: that the check is under way, that there is a newer release, or
that there is none. A version that cannot be read never makes a release newer.
-/

namespace LintReport

/-- The state of an update check. -/
inductive UpdateStatus where
  | checking
  | updateAvailable (current latest : Version)
  | upToDate (current : Option Version)
  deriving DecidableEq, Repr

namespace UpdateStatus

/-- The state once the latest version is known. -/
def resolve (current latest : String) : UpdateStatus :=
  match Version.parse current, Version.parse latest with
  | .ok current, .ok latest =>
    if current.isBelow latest then updateAvailable current latest else upToDate (some current)
  | .ok current, .error _ => upToDate (some current)
  | .error _, _ => upToDate none

/-- What is noted about a text that denotes no version. -/
def rejectionEvents (message text : String) : List Event :=
  match Version.parse text with
  | .ok _ => []
  | .error error => [⟨.debug, .resolving, message, [("error", error.message)]⟩]

/-- What is noted when a check is resolved: each of the texts that denotes no version. -/
def resolveEvents (current latest : String) : List Event :=
  rejectionEvents "current version rejected" current ++
    rejectionEvents "latest version rejected" latest

/-- Whether there is a newer release. -/
def isAvailable : UpdateStatus → Bool
  | updateAvailable _ _ => true
  | _ => false

/-- A state as it is shown. -/
def text : UpdateStatus → List Char
  | checking => "checking for updates...".toList
  | updateAvailable current latest =>
    "update available: ".toList ++ current.text ++ " -> ".toList ++ latest.text
  | upToDate (some current) => "up to date (".toList ++ current.text ++ [')']
  | upToDate none => "up to date".toList

/-- A state as a string. -/
def render (status : UpdateStatus) : String := String.ofList status.text

/-- A version as a JSON object. -/
def versionJson (version : Version) : Json :=
  .object [("major", .ofUInt64 version.major), ("minor", .ofUInt64 version.minor),
    ("patch", .ofUInt64 version.patch)]

/-- A state as a JSON object, which names the state first. -/
def toJson : UpdateStatus → Json
  | checking => .object [("state", .string "checking")]
  | updateAvailable current latest =>
    .object [("state", .string "update_available"), ("current", versionJson current),
      ("latest", versionJson latest)]
  | upToDate current =>
    .object [("state", .string "up_to_date"),
      ("current", (current.map versionJson).getD .null)]

end UpdateStatus

end LintReport
