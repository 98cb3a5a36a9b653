import LintReport.Json.Reader
import LintReport.Inquiry.Basic

/-!
# Finding the settings file

The settings of a directory come from the file that the nearest package description names, else
from the nearest settings file in the directory or above it, else from the user's own file. A
package description that is of no use is passed over.
-/

namespace LintReport.Discovery

/-- The name of a settings file in a project. -/
def settingsName : Path := .ofString "hintpane.toml"

/-- The name of the settings file in the user's directory. -/
def homeName : Path := .ofString ".hintpane.toml"

/-- The name of a package description. -/
def packageName : Path := .ofString "package.json"

/-- The member of a package description that names a settings file. -/
def packageKey : String := "hintpaneConfig"

/-- How many directories are visited on the way up. -/
def mostDirectories : Nat := 30

/-- The nearest file of a name in a directory or above it, among so many directories. -/
def findUp (name : Path) : (depth : Nat) → (place : Path) → Inquiry (Option Path)
  | 0, _ => pure none
  | depth + 1, place => do
    if ← Inquiry.askFile (place.join name) then return some (place.join name)
    else
      match place.parent? with
      | none => return none
      | some place => findUp name depth place

/-- A path that is found if it leads to a file. -/
def ifFile (path : Path) : Inquiry (Option Path) := do
  return if ← Inquiry.askFile path then some path else none

/-- The path that the text of a package description names. -/
def namedPath? (package : Path) (description : Json) : Option Path := do
  let name ← (description.member? packageKey).bind Json.toText?
  let directory ← package.parent?
  return directory.join (.ofString name)

/-- What is noted about a package description that is not a JSON document. -/
def skippedEvent (package : Path) (error : Json.Error) : Event :=
  ⟨.warn, .discovery, "skipping invalid package.json",
    [("path", package.text), ("error", error.message)]⟩

/-- The file that a package description names, if it does and the file is there. -/
def fromPackage (package : Path) : Inquiry (Option Path) := do
  match ← Inquiry.askText (.file package) with
  | .error _ => return none
  | .ok text =>
    match Json.parse text with
    | .error error => do
      Inquiry.noteAll [skippedEvent package error]
      return none
    | .ok description =>
      match namedPath? package description with
      | none => return none
      | some path => ifFile path

/-- The file that the nearest package description names. -/
def fromNearestPackage (start : Path) : Inquiry (Option Path) := do
  match ← findUp packageName mostDirectories start with
  | none => return none
  | some package => fromPackage package

/-- What is noted about the file that is used. -/
def foundEvent (message : String) (path : Path) : Event :=
  ⟨.debug, .discovery, message, [("path", path.text)]⟩

/-- The user's own file. -/
def fromHome : Inquiry (Option Path) := do
  match ← Inquiry.askHome with
  | none => return none
  | some home =>
    match ← ifFile (home.join homeName) with
    | none => return none
    | some path => do
      Inquiry.noteAll [foundEvent "using home configuration" path]
      return some path

/-- The settings file of a directory. -/
def findFrom (start : Path) : Inquiry (Option Path) := do
  match ← fromNearestPackage start with
  | some path => do
    Inquiry.noteAll [foundEvent "using configuration named by package.json" path]
    return some path
  | none =>
    match ← findUp settingsName mostDirectories start with
    | some path => do
      Inquiry.noteAll [foundEvent "using project configuration" path]
      return some path
    | none => fromHome

/-- The settings file of a directory; where there is no directory, the user's own file. -/
def find : (start : Option Path) → Inquiry (Option Path)
  | some start => findFrom start
  | none => fromHome

end LintReport.Discovery
