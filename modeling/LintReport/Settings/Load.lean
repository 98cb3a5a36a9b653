import LintReport.Settings.Parse
import LintReport.Settings.Discovery
import LintReport.Release.Manifest

/-!
# Loading settings

Settings are read from a file, and remember which: a path in them is taken from the directory that
holds the file.
-/

namespace LintReport

/-- Settings, and the file that they came from if they came from one. -/
structure Loaded where
  settings : Settings
  source : Option Path
  deriving DecidableEq, Repr

/-- A path that the settings name, taken from the directory that holds their file. -/
def Loaded.resolve (loaded : Loaded) (path : Path) : Path :=
  match loaded.source.bind Path.parent? with
  | some directory => if path.isAbsolute then path else directory.join path
  | none => path

namespace Settings

/-- What is noted when a settings file has been read. -/
def loadingEvent (path : Path) : Event :=
  ⟨.debug, .loading, "loading configuration", [("path", path.text)]⟩

/-- The settings of a file. -/
def load (path : Path) : Inquiry (Except SettingsError Settings) := do
  match ← Inquiry.askText (.file path) with
  | .error error => return .error (.unreadable error)
  | .ok text => do
    Inquiry.noteAll [loadingEvent path]
    return parse text

/-- The settings of the settings file in a directory. -/
def loadIn (directory : Path) : Inquiry (Except SettingsError Settings) :=
  load (directory.join Discovery.settingsName)

/-- The settings of a file, which is remembered. -/
def loadSource (path : Path) : Inquiry (Except SettingsError Loaded) := do
  return (← load path).map fun settings => ⟨settings, some path⟩

/-- What is noted when no settings file applies. -/
def defaultsEvent (directory : Path) : Event :=
  ⟨.debug, .settings, "no configuration found, using defaults", [("dir", directory.text)]⟩

/-- The settings that apply to a directory. -/
def discover (directory : Path) : Inquiry (Except SettingsError Loaded) := do
  match ← Discovery.find (some directory) with
  | some path => loadSource path
  | none => do
    Inquiry.noteAll [defaultsEvent directory]
    return .ok ⟨default, none⟩

end Settings

/-- The manifest of a file. -/
def Manifest.load (path : Path) : Inquiry (Except ManifestError Manifest) := do
  match ← Inquiry.askText (.file path) with
  | .error error => return .error (.unreadable error)
  | .ok text => return parse text

end LintReport
