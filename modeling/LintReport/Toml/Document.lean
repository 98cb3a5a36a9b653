import LintReport.Toml.Value

/-!
# Reading TOML documents

A document is a run of lines: blank lines, comments, headers in one or two pairs of brackets, and
keys with values. A value may itself run over lines.
-/

namespace LintReport.Toml

/-- The rest of a line that says nothing more: blanks, perhaps a comment, and the line end or the
end of the document. -/
def skipLineEnd (text : List Char) : Except Fault (List Char) :=
  let left :=
    match skipGaps text with
    | '#' :: rest => rest.dropWhile isPlain
    | rest => rest
  match left with
  | [] => .ok []
  | left =>
    match lineEnd? left with
    | some rest => .ok rest
    | none => .error .malformed

/-- A header in one pair of brackets, the first of which has been read. -/
def readHeader (text rest : List Char) (assembly : Assembly) :
    Except Fault (Assembly × List Char) := do
  let (path, left) ← readKeys rest
  let left ← readMark ']' left
  let span := Span.between text left
  let left ← skipLineEnd left
  let assembly ← assembly.startTable path span
  return (assembly, left)

/-- A header in two pairs of brackets, both opening ones of which have been read. -/
def readRunHeader (text rest : List Char) (assembly : Assembly) :
    Except Fault (Assembly × List Char) := do
  let (path, left) ← readKeys rest
  let left ← readMark ']' left
  let left ← readMark ']' left
  let span := Span.between text left
  let left ← skipLineEnd left
  let assembly ← assembly.startInRun path span
  return (assembly, left)

/-- A key and its value. What is wrong with the key itself is reported where the line begins. -/
def readEntry (text : List Char) (assembly : Assembly) :
    Except Fault (Assembly × List Char) := do
  let ((keys, value), left) ← readPair (readValue (nestingLimit - 1)) text
  let left ← skipLineEnd left
  match keys.getLast? with
  | none => .error .malformed
  | some key => do
    let place : Span := ⟨text.length, text.length - 1⟩
    let assembly ← assembly.addLine place keys.dropLast key value
    return (assembly, left)

/-- One line, from its first character that is not blank. -/
def readLine (text : List Char) (assembly : Assembly) : Except Fault (Assembly × List Char) :=
  match text with
  | '[' :: '[' :: rest => readRunHeader text rest assembly
  | '[' :: rest => readHeader text rest assembly
  | '#' :: _ => (skipLineEnd text).map (assembly, ·)
  | _ =>
    match lineEnd? text with
    | some rest => .ok (assembly, rest)
    | none => readEntry text assembly

/-- All lines. The steps bound their number. -/
def readLines : (steps : Nat) → List Char → Assembly → Except Fault Assembly
  | 0, _, _ => .error .malformed
  | steps + 1, text, assembly =>
    match skipGaps text with
    | [] => .ok assembly
    | text => do
      let (assembly, rest) ← readLine text assembly
      readLines steps rest assembly

/-- The text after a byte order mark, if it begins with one. -/
def skipMark : List Char → List Char
  | '\uFEFF' :: rest => rest
  | text => text

/-- The entries of the document that a text denotes. -/
def parse (text : List Char) : Except Fault Entries := do
  let text := skipMark text
  let assembly ← readLines (text.length + 1) text .empty
  assembly.finish

end LintReport.Toml
