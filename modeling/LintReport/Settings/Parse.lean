import LintReport.Text.Blank
import LintReport.Toml.Document
import LintReport.Toml.Snippet
import LintReport.Settings.Decode

/-!
# Reading settings

A text gives settings when it is a document, its values are of the right kinds, and the manifest,
if one is named, is named by more than white space.
-/

namespace LintReport

/-- Why there are no settings. -/
inductive SettingsError where
  | unreadable (error : StreamError)
  | malformed (text : List Char)
  | invalid (text : List Char) (objection : Objection)
  | blankManifest
  deriving DecidableEq, Repr

/-- An objection with the part of the text that it is about. -/
def Objection.report (text : List Char) (objection : Objection) : String :=
  match objection.span with
  | some span => Toml.snippet text span objection.complaint.message
  | none => objection.complaint.message ++ "\n"

/-- What is said of an error, with the words that the reader of documents has for a text that
breaks the grammar. -/
def SettingsError.message (error : SettingsError) (wording : Toml.Wording := .brief) : String :=
  match error with
  | unreadable error => "failed to read configuration: " ++ error.message
  | malformed text => "failed to parse configuration: " ++ wording text
  | invalid text objection => "failed to parse configuration: " ++ objection.report text
  | blankManifest => "validation error: update.manifest must not be empty"

namespace Settings

/-- Settings whose manifest, if there is one, is not blank. -/
def validate (settings : Settings) : Except SettingsError Settings :=
  match settings.update.manifest with
  | some manifest =>
    if manifest.toList.all isBlank then .error .blankManifest else .ok settings
  | none => .ok settings

/-- What a fault of a document is as an error of the settings. -/
def faultError (text : List Char) : Toml.Fault → SettingsError
  | .malformed => .malformed text
  | .duplicateKey name table place => .invalid text ⟨.duplicateKey name table, some place⟩

/-- The settings that the characters of a text give. -/
def ofChars (text : List Char) : Except SettingsError Settings := do
  let entries ← (Toml.parse text).mapError (faultError text)
  let settings ← (ofEntries entries).mapError (SettingsError.invalid text)
  validate settings

/-- The settings that a text gives. -/
def parse (text : String) : Except SettingsError Settings := ofChars text.toList

end Settings

end LintReport
