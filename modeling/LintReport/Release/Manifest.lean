import LintReport.Json.Mismatch
import LintReport.Json.Skip
import LintReport.Report.Error
import LintReport.Release.Status

/-!
# Release manifests

A manifest is a JSON document that names the latest release: an object with the version under one
of three names, or a list that holds the version alone. All other members of the object are passed
over. An object that names no version, or names one twice, is no manifest.
-/

namespace LintReport

/-- A release manifest: the text that names the latest version. -/
structure Manifest where
  version : String
  deriving DecidableEq, Repr

/-- Why there is no manifest. -/
inductive ManifestError where
  | malformed (error : Json.Error)
  | unreadable (error : StreamError)
  deriving DecidableEq, Repr

/-- The wording of an error. -/
def ManifestError.message : ManifestError → String
  | malformed error => "failed to parse release manifest: " ++ error.message
  | unreadable error => "failed to read release manifest: " ++ error.message

namespace Manifest

/-- The names under which a manifest may give the version. -/
def versionKeys : List String := ["version", "latest", "max_version"]

/-- How a manifest is named in a fault. -/
def expected : String := "struct ReleaseManifest"

/-- The fault of a second version: where the text goes on after the key, or after the closing brace
if that comes next. -/
def duplicate (text : List Char) : Json.Fault :=
  match Json.skipBlanks text with
  | '}' :: rest => .here (.duplicateField "version") rest
  | rest => .here (.duplicateField "version") rest

/-- The member whose opening quote has been read; gives the version known so far. -/
def readMember (known : Option String) (text : List Char) :
    Except Json.Fault (Option String × List Char) := do
  let (key, rest) ← Json.Text.read text
  if key ∈ versionKeys then
    if known.isSome then .error (duplicate rest)
    else
      let rest ← Json.readColon rest
      let (version, rest) ← Json.readString "a string" rest
      return (some version, rest)
  else
    let rest ← Json.readColon rest
    let rest ← Json.skipValue rest
    return (known, rest)

/-- The version that is known when the closing brace has been read. -/
def finish (known : Option String) (rest : List Char) :
    Except Json.Fault (String × List Char) :=
  match known with
  | some version => .ok (version, rest)
  | none => .error (.here (.missingField "version") rest)

/-- What may come after a member: the end of the object, or a comma and another member. -/
def readMembers : (steps : Nat) → (known : Option String) → List Char →
    Except Json.Fault (String × List Char)
  | 0, _, text => .error (.here .valueExpected text)
  | steps + 1, known, text =>
    match Json.skipBlanks text with
    | [] => .error (.here .endInObject [])
    | '}' :: rest => finish known rest
    | ',' :: rest =>
      match Json.skipBlanks rest with
      | [] => .error (.here .endInValue [])
      | '"' :: rest => do
        let (known, rest) ← readMember known rest
        readMembers steps known rest
      | '}' :: left => .error (.next .trailingComma ('}' :: left))
      | left => .error (.next .keyNotText left)
    | left => .error (.next .objectEndExpected left)

/-- An object whose opening brace has been read. -/
def readObject (text : List Char) : Except Json.Fault (String × List Char) :=
  match Json.skipBlanks text with
  | [] => .error (.here .endInObject [])
  | '}' :: rest => finish none rest
  | '"' :: rest => do
    let (known, rest) ← readMember none rest
    readMembers (rest.length + 1) known rest
  | left => .error (.next .keyNotText left)

/-- A list whose opening bracket has been read; it must hold one string. -/
def readList (text : List Char) : Except Json.Fault (String × List Char) :=
  match Json.skipBlanks text with
  | [] => .error (.here .endInList [])
  | ']' :: rest =>
    .error (.here (.wrongLength 0 "struct ReleaseManifest with 1 element") rest)
  | text => do
    let (version, rest) ← Json.readString "a string" text
    match Json.skipBlanks rest with
    | [] => .error (.here .endInList [])
    | ']' :: rest => return (version, rest)
    | ',' :: rest =>
      match Json.skipBlanks rest with
      | ']' :: left => .error (.next .trailingComma (']' :: left))
      | left => .error (.next .trailingCharacters left)
    | left => .error (.next .trailingCharacters left)

/-- The version that a manifest names. -/
def readVersion (text : List Char) : Except Json.Fault (String × List Char) :=
  match Json.skipBlanks text with
  | [] => .error (.here .endInValue [])
  | '[' :: rest => readList rest
  | '{' :: rest => readObject rest
  | left => .error (Json.mismatch expected left)

/-- The manifest that a text denotes. -/
def parse (text : String) : Except ManifestError Manifest :=
  match Json.readAll readVersion text with
  | .ok version => .ok ⟨version⟩
  | .error error => .error (.malformed error)

/-- The state of an update check against the manifest. -/
def statusFor (manifest : Manifest) (current : String) : UpdateStatus :=
  UpdateStatus.resolve current manifest.version

end Manifest

end LintReport
