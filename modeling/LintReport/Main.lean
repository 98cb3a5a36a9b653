import LintReport.Command.Run
import LintReport.Text.Utf8

/-!
# The program

Answers the questions of a run from the operating system, and gives its exit code.
-/

namespace LintReport.Main

/-- The number in an error of the operating system, which may stand there with its sign turned. -/
def signedCodeOf? : IO.Error → Option UInt32
  | .noFileOrDirectory _ code _ => some code
  | .inappropriateType _ code _ => some code
  | .resourceExhausted _ code _ => some code
  | .invalidArgument _ code _ => some code
  | .otherError code _ => some code
  | _ => none

/-- The number by which the operating system knows an error. -/
def codeOf? (error : IO.Error) : Option UInt32 :=
  (signedCodeOf? error).map fun code => if code < 0x80000000 then code else 0 - code

/-- An error of the operating system as an error of a stream. -/
def streamError (error : IO.Error) : StreamError :=
  match codeOf? error with
  | some 2 => .notFound
  | some 20 => .notDirectory
  | some 21 => .isDirectory
  | some 28 => .noSpace
  | some 36 => .nameTooLong
  | some 40 => .linkLoop
  | _ => .other (toString error)

/-- What an action gives, or the error it ends with. -/
def attempt {α : Type} (action : IO α) : IO (Except StreamError α) := do
  match ← action.toBaseIO with
  | .ok result => return .ok result
  | .error error => return .error (streamError error)

/-- Bytes as a text. -/
def decode (bytes : ByteArray) : Except StreamError String :=
  match ofUtf8Bytes? bytes.data.toList with
  | some text => .ok text
  | none => .error .notUtf8

/-- Whether a path leads to a file. -/
def isFile (path : Path) : IO Bool := do
  let found ← attempt do
    let resolved ← IO.FS.realPath path.text
    return (← resolved.metadata).type == .file
  return found.toOption.getD false

/-- The text that a source holds. -/
def readText : Source → IO (Except StreamError String)
  | .file path =>
    if '\x00' ∈ path.chars then return .error .nulInName
    else return (← attempt (IO.FS.readBinFile path.text)).bind decode
  | .input => do
    let input ← IO.getStdin
    return (← attempt input.readBinToEnd).bind decode

/-- Writes a text to the standard output. -/
def printText (text : String) : IO (Except StreamError Unit) := attempt do
  let output ← IO.getStdout
  output.putStr text
  output.flush

/-- The user's directory. -/
def homeDirectory : IO (Option Path) := do
  return ((← IO.getEnv "HOME").filter (!·.isEmpty)).map Path.ofString

/-- Runs an inquiry. -/
def perform {α : Type} : Inquiry α → IO α
  | .done result => return result
  | .isFile path next => do
    let answer ← isFile path
    perform (next answer)
  | .read source next => do
    let answer ← readText source
    perform (next answer)
  | .directory next => do
    let answer ← attempt IO.currentDir
    perform (next (answer.map fun directory => Path.ofString directory.toString))
  | .home next => do
    let answer ← homeDirectory
    perform (next answer)
  | .print text next => do
    let answer ← printText text
    perform (next answer)
  | .tell text next => do
    IO.eprint text
    perform next
  | .note event next => do
    IO.eprintln event.line
    perform next

end LintReport.Main

/-- Runs the program with the arguments of its command line. -/
def main (arguments : List String) : IO UInt32 := do
  let setting ← IO.getEnv "RUST_LOG"
  let code ← LintReport.Main.perform (LintReport.Command.run setting arguments)
  return UInt32.ofNat code
