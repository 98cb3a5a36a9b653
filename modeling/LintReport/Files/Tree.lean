import LintReport.Text.Position
import LintReport.Files.Path
import LintReport.Report.Error

/-!
# Trees of files

A tree of directories, files and symbolic links. Each of them stands under its location, the names
that lead to it from the root. Following a path goes from directory to directory and through
links, of which at most forty are followed.
-/

namespace LintReport

/-- The names that lead from the root to a place. -/
abbrev Location := List (List Char)

/-- What stands at a place. -/
inductive Node where
  | file (content : List UInt8)
  | directory
  | link (target : Path)
  deriving DecidableEq, Repr

/-- What stands at every place but the root, which is a directory. -/
structure Tree where
  nodes : List (Location × Node)
  deriving Repr

namespace Tree

/-- The root alone. -/
def empty : Tree := ⟨[]⟩

/-- What stands at a location. -/
def get? (tree : Tree) : Location → Option Node
  | [] => some .directory
  | location => tree.nodes.lookup location

/-- The tree with something put at a location. -/
def put (tree : Tree) (location : Location) (node : Node) : Tree :=
  ⟨(location, node) :: tree.nodes.filter (·.1 ≠ location)⟩

/-- The tree without a location and all that is below it. -/
def erase (tree : Tree) (location : Location) : Tree :=
  ⟨tree.nodes.filter fun entry => !location.isPrefixOf entry.1⟩

/-- The longest name that a file may have, in bytes. -/
def longestName : Nat := 255

/-- Follows names from a place up to the first link, from which the rest of the way is followed in
another manner. Every place on the way must be a directory. -/
def along (tree : Tree)
    (follow : Location → List (List Char) → Except StreamError Location) :
    Location → List (List Char) → Except StreamError Location
  | place, [] => .ok place
  | place, name :: rest =>
    match tree.get? place with
    | some .directory =>
      if name = ['.'] then along tree follow place rest
      else if name = ['.', '.'] then along tree follow place.dropLast rest
      else if longestName < utf8Length name then .error .nameTooLong
      else
        match tree.get? (place ++ [name]) with
        | none => .error .notFound
        | some (.link target) =>
          follow (if target.isAbsolute then [] else place) (target.steps ++ rest)
        | some _ => along tree follow (place ++ [name]) rest
    | some _ => .error .notDirectory
    | none => .error .notFound

/-- Follows names from a place, and so many links. -/
def walk (tree : Tree) : (links : Nat) → Location → List (List Char) → Except StreamError Location
  | 0 => along tree fun _ _ => .error .linkLoop
  | links + 1 => along tree (walk tree links)

/-- How many links are followed on one way. -/
def mostLinks : Nat := 40

/-- Where a path leads from a place. -/
def locate (tree : Tree) (place : Location) (path : Path) : Except StreamError Location :=
  if path.chars.isEmpty then .error .notFound
  else tree.walk mostLinks (if path.isAbsolute then [] else place) path.steps

/-- Whether a path from the root leads to a file. -/
def isFile (tree : Tree) (path : Path) : Bool :=
  match tree.locate [] path with
  | .ok location =>
    match tree.get? location with
    | some (.file _) => true
    | _ => false
  | .error _ => false

/-- The content of the file that a path from the root leads to. -/
def read (tree : Tree) (path : Path) : Except StreamError (List UInt8) := do
  let location ← tree.locate [] path
  match tree.get? location with
  | some (.file content) => return content
  | some _ => .error .isDirectory
  | none => .error .notFound

/-- The place that a name leads to, made a directory if nothing is there. -/
def enter (state : Tree × Location) (name : List Char) : Tree × Location :=
  match state.1.walk mostLinks state.2 [name] with
  | .ok place => (state.1, place)
  | .error _ => (state.1.put (state.2 ++ [name]) .directory, state.2 ++ [name])

/-- Makes all directories on the way from a place along a path. -/
def makeDirectories (tree : Tree) (place : Location) (path : Path) : Tree × Location :=
  path.steps.foldl enter (tree, if path.isAbsolute then [] else place)

/-- Puts something at the end of a path from a place, with all directories on the way. What a link
at the end leads to is replaced instead of the link. -/
def place (tree : Tree) (start : Location) (path : Path) (node : Node) : Tree :=
  match path.steps.getLast? with
  | none => tree
  | some name =>
    let (tree, parent) :=
      path.steps.dropLast.foldl enter (tree, if path.isAbsolute then [] else start)
    match tree.walk mostLinks parent [name] with
    | .ok found => tree.put found node
    | .error _ => tree.put (parent ++ [name]) node

/-- Takes away what stands at the end of a path from a place. -/
def remove (tree : Tree) (start : Location) (path : Path) : Tree :=
  match path.steps.getLast? with
  | none => tree
  | some name =>
    match tree.walk mostLinks (if path.isAbsolute then [] else start) path.steps.dropLast with
    | .ok parent => tree.erase (parent ++ [name])
    | .error _ => tree

/-- The path of a location. -/
def pathOf (location : Location) : Path :=
  if location.isEmpty then ⟨['/']⟩ else ⟨location.flatMap ('/' :: ·)⟩

end Tree

end LintReport
