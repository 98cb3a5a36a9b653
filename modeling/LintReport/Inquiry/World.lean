import LintReport.Text.Utf8
import LintReport.Files.Tree
import LintReport.Inquiry.Basic
import LintReport.Report.Sink

/-!
# Worlds

A world answers the questions of a run. Files are known by their paths from the root; all other
paths are taken from the directory in which the run is, even when it has been taken away
meanwhile. A run in a world leaves a transcript: its result, what became of the standard output,
and its messages and events in their order.
-/

namespace LintReport

/-- What is known of files: which paths from the root lead to one, and what reading each of them
gives. -/
structure Files where
  isFile : Path → Bool
  read : Path → Except StreamError (List UInt8)

/-- The files of a tree. -/
def Tree.files (tree : Tree) : Files := ⟨tree.isFile, tree.read⟩

/-- Where a run is: a directory that is there, and how many directories below it that the run is
in have been taken away. -/
structure Standpoint where
  path : Path
  removed : Nat
  deriving DecidableEq, Repr

namespace Standpoint

/-- The directory in which a run is. One that has been taken away has no path. -/
def directory (standpoint : Standpoint) : Except StreamError Path :=
  if standpoint.removed = 0 then .ok standpoint.path else .error .notFound

/-- Where names lead from so many directories that have been taken away, and from the path of the
directory above them: nothing is left in them, but two dots lead out of them. -/
def follow (path : Path) : (removed : Nat) → List (List Char) → Except StreamError Path
  | 0, names => .ok (names.foldl (fun path name => path.join ⟨name⟩) path)
  | _ + 1, [] => .error .isDirectory
  | removed + 1, name :: rest =>
    if name = ['.'] then follow path (removed + 1) rest
    else if name = ['.', '.'] then follow path removed rest
    else .error .notFound

/-- The path from the root that a path means which does not begin there. -/
def resolve (standpoint : Standpoint) (path : Path) : Except StreamError Path :=
  if standpoint.removed = 0 then .ok (standpoint.path.join path)
  else follow standpoint.path standpoint.removed path.steps

end Standpoint

/-- The surroundings of a run. -/
structure World where
  files : Files
  standpoint : Standpoint
  home : Option Path
  input : List UInt8
  output : Sink

/-- What a run tells the user or notes, a message or an event. -/
inductive Notice where
  | message (text : String)
  | event (content : Event)
  deriving DecidableEq, Repr

/-- The text of a notice that is a message. -/
def Notice.message? : Notice → Option String
  | message text => some text
  | event _ => none

/-- The event of a notice that is one. -/
def Notice.event? : Notice → Option Event
  | message _ => none
  | event content => some content

/-- What a run leaves behind. -/
structure Transcript (α : Type) where
  result : α
  output : Sink
  notices : List Notice

/-- The messages in their order. -/
def Transcript.messages {α : Type} (transcript : Transcript α) : List String :=
  transcript.notices.filterMap Notice.message?

/-- The events in their order. -/
def Transcript.events {α : Type} (transcript : Transcript α) : List Event :=
  transcript.notices.filterMap Notice.event?

/-- The transcript with one notice more in front. -/
def Transcript.after {α : Type} (notice : Notice) (transcript : Transcript α) : Transcript α :=
  { transcript with notices := notice :: transcript.notices }

/-- The text that was read, or an error if the bytes stand for none. -/
def decodeText (bytes : List UInt8) : Except StreamError String :=
  match ofUtf8Bytes? bytes with
  | some text => .ok text
  | none => .error .notUtf8

namespace World

/-- The longest path that is followed, in bytes. -/
def longestPath : Nat := 4095

/-- The path from the root that a path means. It is the path as it is given that may be too
long. -/
def resolve (world : World) (path : Path) : Except StreamError Path :=
  if '\x00' ∈ path.chars then .error .nulInName
  else if longestPath < utf8Length path.chars then .error .nameTooLong
  else if path.isAbsolute then .ok path
  else if path.chars.isEmpty then .error .notFound
  else world.standpoint.resolve path

/-- Whether a path leads to a file. -/
def isFile (world : World) (path : Path) : Bool :=
  match world.resolve path with
  | .ok path => world.files.isFile path
  | .error _ => false

/-- The bytes of a file. -/
def readFile (world : World) (path : Path) : Except StreamError (List UInt8) :=
  (world.resolve path).bind world.files.read

/-- The text that a source holds. -/
def readText (world : World) : Source → Except StreamError String
  | .file path => (world.readFile path).bind decodeText
  | .input => decodeText world.input

/-- What a run in a world leaves behind. -/
def answer {α : Type} (world : World) : Inquiry α → Transcript α
  | .done result => ⟨result, world.output, []⟩
  | .isFile path next => world.answer (next (world.isFile path))
  | .read source next => world.answer (next (world.readText source))
  | .directory next => world.answer (next world.standpoint.directory)
  | .home next => world.answer (next world.home)
  | .print text next =>
    let (result, output) := Outlet.deliver world.output (utf8Bytes text)
    answer { world with output } (next result)
  | .tell text next => (world.answer next).after (.message text)
  | .note event next => (world.answer next).after (.event event)

end World

end LintReport
