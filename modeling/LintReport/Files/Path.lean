/-!
# Paths

A path is kept as it is written. Joining and going to the parent work on the text, so a found path
shows how it was arrived at; nothing is resolved or tidied up.
-/

namespace LintReport

/-- A path as it is written. -/
structure Path where
  chars : List Char
  deriving DecidableEq, Repr

namespace Path

/-- The path that a string is. -/
def ofString (s : String) : Path := ⟨s.toList⟩

/-- The path as a string. -/
def text (path : Path) : String := String.ofList path.chars

/-- A path from the root. -/
def isAbsolute (path : Path) : Bool := path.chars.head? == some '/'

/-- A path taken from another one: an absolute path stands for itself. -/
def join (path more : Path) : Path :=
  if more.isAbsolute then more
  else if path.chars.isEmpty || path.chars.getLast? == some '/' then ⟨path.chars ++ more.chars⟩
  else ⟨path.chars ++ '/' :: more.chars⟩

/-- A path is split into what it starts from, the root, the dot of the current directory or
nothing, and the rest. -/
def split (path : Path) : List Char × List Char :=
  match path.chars with
  | '/' :: rest => (['/'], rest)
  | ['.'] => (['.'], [])
  | '.' :: '/' :: rest => (['.'], '/' :: rest)
  | rest => ([], rest)

/-- The part of a reversed text up to its first slash. -/
def lastName (reversed : List Char) : List Char := reversed.takeWhile (· != '/')

/-- What is left of a reversed text after its first slash. -/
def beforeLast (reversed : List Char) : List Char := (reversed.dropWhile (· != '/')).drop 1

/-- A reversed text without closing slashes and dots that name nothing. The steps bound the number
of names. -/
def trim : (steps : Nat) → (reversed : List Char) → List Char
  | 0, reversed => reversed
  | steps + 1, reversed =>
    if reversed.isEmpty then []
    else if lastName reversed = [] ∨ lastName reversed = ['.'] then
      trim steps (beforeLast reversed)
    else reversed

/-- The path without its last name; two dots are a name like any other. The root and the empty path
have no parent. -/
def parent? (path : Path) : Option Path :=
  let (start, rest) := path.split
  let reversed := trim rest.length rest.reverse
  if reversed.isEmpty then
    if start = ['.'] then some ⟨[]⟩ else none
  else some ⟨start ++ (trim rest.length (beforeLast reversed)).reverse⟩

/-- The names to follow from the start of a path to where it leads. A closing slash counts as one
dot more, since what it follows must be a directory. -/
def steps (path : Path) : List (List Char) :=
  (path.chars.splitOn '/').filter (· ≠ []) ++
    if path.chars.getLast? = some '/' then [['.']] else []

/-- Whether a path is a single dash, which stands for the standard input. -/
def isDash (path : Path) : Bool :=
  path.split.1 = [] &&
    (path.chars.splitOn '/').filter (fun name => name ≠ [] ∧ name ≠ ['.']) == [['-']]

end Path

end LintReport
