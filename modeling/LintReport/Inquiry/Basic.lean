import LintReport.Log.Event
import LintReport.Files.Path
import LintReport.Report.Error

/-!
# Inquiries

A run of the program asks questions of its surroundings: whether a path leads to a file, what a
file or the standard input holds, which directory is the current one and which is the user's. It
writes reports and messages, and notes events. An inquiry is such a run as a value, so that what it
does can be stated for all surroundings at once.
-/

namespace LintReport

/-- Where a text is read from. -/
inductive Source where
  | file (path : Path)
  | input
  deriving DecidableEq, Repr

/-- A run that ends with a result, or asks or does one thing and goes on. -/
inductive Inquiry (α : Type) where
  | done (result : α)
  | isFile (path : Path) (next : Bool → Inquiry α)
  | read (source : Source) (next : Except StreamError String → Inquiry α)
  | directory (next : Except StreamError Path → Inquiry α)
  | home (next : Option Path → Inquiry α)
  | print (text : String) (next : Except StreamError Unit → Inquiry α)
  | tell (text : String) (next : Inquiry α)
  | note (event : Event) (next : Inquiry α)

namespace Inquiry

/-- Goes on with the result of a run. -/
def andThen {α β : Type} : Inquiry α → (α → Inquiry β) → Inquiry β
  | done result, more => more result
  | isFile path next, more => isFile path fun answer => (next answer).andThen more
  | read source next, more => read source fun answer => (next answer).andThen more
  | directory next, more => directory fun answer => (next answer).andThen more
  | home next, more => home fun answer => (next answer).andThen more
  | print text next, more => print text fun answer => (next answer).andThen more
  | tell text next, more => tell text (next.andThen more)
  | note event next, more => note event (next.andThen more)

instance : Monad Inquiry where
  pure := done
  bind := andThen

/-- Asks whether a path leads to a file. -/
def askFile (path : Path) : Inquiry Bool := isFile path done

/-- Asks for a text. -/
def askText (source : Source) : Inquiry (Except StreamError String) := read source done

/-- Asks for the current directory. -/
def askDirectory : Inquiry (Except StreamError Path) := directory done

/-- Asks for the user's directory. -/
def askHome : Inquiry (Option Path) := home done

/-- Writes a text to the standard output, all of it and at once. -/
def printText (text : String) : Inquiry (Except StreamError Unit) := print text done

/-- Writes a message. -/
def tellText (text : String) : Inquiry Unit := tell text (done ())

/-- Notes events. -/
def noteAll : List Event → Inquiry Unit
  | [] => done ()
  | event :: more => note event (noteAll more)

/-- The same run with only some of its events noted. -/
def keepNotes {α : Type} (keep : Event → Bool) : Inquiry α → Inquiry α
  | done result => done result
  | isFile path next => isFile path fun answer => (next answer).keepNotes keep
  | read source next => read source fun answer => (next answer).keepNotes keep
  | directory next => directory fun answer => (next answer).keepNotes keep
  | home next => home fun answer => (next answer).keepNotes keep
  | print text next => print text fun answer => (next answer).keepNotes keep
  | tell text next => tell text (next.keepNotes keep)
  | note event next =>
    if keep event then note event (next.keepNotes keep) else next.keepNotes keep

end Inquiry

end LintReport
