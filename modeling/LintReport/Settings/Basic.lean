import LintReport.Report.Delivery

/-!
# Settings

What a settings file may say: how reports are to look, and where the manifest of the latest
release is. Whatever is left out has its default.
-/

namespace LintReport

/-- How reports are to look. -/
structure ReportSettings where
  sort : Bool
  format : Format
  quiet : Bool
  deriving DecidableEq, Repr

/-- Where the manifest of the latest release is, if that is said. -/
structure UpdateSettings where
  manifest : Option String
  deriving DecidableEq, Repr

/-- All settings. -/
structure Settings where
  report : ReportSettings
  update : UpdateSettings
  deriving DecidableEq, Repr

/-- Sorted JSON, of every batch. -/
def ReportSettings.default : ReportSettings := ⟨true, .json, false⟩

/-- No manifest. -/
def UpdateSettings.default : UpdateSettings := ⟨none⟩

/-- The settings when nothing is said. -/
def Settings.default : Settings := ⟨.default, .default⟩

/-- The options that the settings give to a report. -/
def ReportSettings.options (settings : ReportSettings) : Options :=
  ⟨settings.sort, settings.quiet, settings.format⟩

end LintReport
