import LintReport.Toml.Numeral
import LintReport.Toml.Table

/-!
# Values of TOML documents

A value is read by looking at its first character. The readers of arrays and of tables between
braces take the reader of what they hold as an argument, so that brackets and braces stand around
each other no deeper than the reader they were begun with allows.
-/

namespace LintReport.Toml

/-- What follows the opening bracket or a comma of an array. Line ends and comments may stand
between the items, and a comma after the last one. -/
def readItems (item : Reader Toml) : (steps : Nat) → (before : List Toml) → List Char →
    Except Fault (List Toml × List Char)
  | 0, _, _ => .error .malformed
  | steps + 1, before, text =>
    match skipNotes text.length text with
    | ']' :: rest => .ok (before.reverse, rest)
    | text => do
      let (value, rest) ← item text
      match skipNotes rest.length rest with
      | ',' :: rest => readItems item steps (value :: before) rest
      | ']' :: rest => return ((value :: before).reverse, rest)
      | _ => .error .malformed

/-- The keys of a line, the equals sign and the value; what follows the value is left. -/
def readPair (item : Reader Toml) (text : List Char) :
    Except Fault ((List Key × Toml) × List Char) := do
  let (keys, rest) ← readKeys text
  let rest ← readMark '=' rest
  let (value, rest) ← item (skipGaps rest)
  return ((keys, value), rest)

/-- Pairs with commas between them. A comma that no pair follows is left, and so is everything
that is no pair where the first might stand. -/
def readPairs (item : Reader Toml) : (steps : Nat) → (before : List (List Key × Toml)) →
    List Char → Except Fault (List (List Key × Toml) × List Char)
  | 0, _, _ => .error .malformed
  | steps + 1, before, text => do
    let (pair, rest) ← readPair item text
    match skipGaps rest with
    | ',' :: rest =>
      if startsPair (skipGaps rest) then
        readPairs item steps (pair :: before) rest
      else return ((pair :: before).reverse, ',' :: rest)
    | rest => return ((pair :: before).reverse, rest)

/-- The entries of a table between braces. -/
def collect (place : Span) (pairs : List (List Key × Toml)) : Except Fault Entries :=
  pairs.foldlM (fun entries pair =>
    match pair.1.getLast? with
    | none => .error .malformed
    | some key => addValue .braced none place pair.1.dropLast key pair.2 .braced entries) []

/-- What follows the opening brace of a table. A key that is given twice is reported right after
the brace, before anything is said about what stands in the place of the closing brace. -/
def readBraced (item : Reader Toml) (text : List Char) : Except Fault (Entries × List Char) := do
  let inside := skipGaps text
  let (pairs, rest) ←
    if startsPair inside then readPairs item (inside.length + 1) [] inside
    else .ok ([], inside)
  let entries ← collect ⟨text.length, text.length - 1⟩ pairs
  match rest with
  | '}' :: rest => return (entries, rest)
  | _ => .error .malformed

/-- A word and the value it stands for. -/
def readWord (word : List Char) (text : List Char) (make : Span → Toml) :
    Except Fault (Toml × List Char) :=
  if text.take word.length = word then
    let rest := text.drop word.length
    .ok (make (.between text rest), rest)
  else .error .malformed

/-- A value with fewer than `depth` brackets and braces around each other. -/
def readValue : (depth : Nat) → Reader Toml
  | _, [] => .error .malformed
  | depth, c :: rest =>
    let text := c :: rest
    if c = '"' ∨ c = apostrophe then do
      let (s, left) ← readText c rest
      return (.string (.between text left) s, left)
    else if c = '[' then
      match depth with
      | 0 => .error .malformed
      | depth + 1 => do
        let (items, left) ← readItems (readValue depth) (rest.length + 1) [] rest
        return (.array (.between text left) items, left)
    else if c = '{' then
      match depth with
      | 0 => .error .malformed
      | depth + 1 => do
        let (entries, left) ← readBraced (readValue depth) rest
        return (.table .braced (some (.between text left)) entries, left)
    else if c = 't' then readWord ['t', 'r', 'u', 'e'] text (.boolean · true)
    else if c = 'f' then readWord ['f', 'a', 'l', 's', 'e'] text (.boolean · false)
    else readNumeral text

end LintReport.Toml
