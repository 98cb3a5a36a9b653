import LintReport.Text.Decimal
import LintReport.Toml.Basic

/-!
# Strings and keys of TOML documents

A basic string stands between quotes and has escapes; a literal string stands between apostrophes
and has none. Tripled delimiters let a string run over lines: a line feed right after the opening
is dropped, line ends become line feeds, and one or two quotes may stand inside. Blanks are space
and tab only; every other control character is an error wherever it stands.
-/

namespace LintReport.Toml

/-- Space and tab. -/
def isGap (c : Char) : Bool := c == ' ' || c == '\t'

/-- The text after leading spaces and tabs. -/
def skipGaps (text : List Char) : List Char := text.dropWhile isGap

/-- Characters that may stand in a comment or a string as they are. -/
def isPlain (c : Char) : Bool := c == '\t' || (0x20 ≤ c.toNat && c.toNat != 0x7f)

/-- The text after a line feed, or a carriage return and a line feed, if it begins so. -/
def lineEnd? : List Char → Option (List Char)
  | '\n' :: rest => some rest
  | '\r' :: '\n' :: rest => some rest
  | _ => none

/-- The text after leading blanks and line ends. -/
def skipLines : List Char → List Char
  | '\r' :: '\n' :: rest => skipLines rest
  | c :: rest => if isGap c || c == '\n' then skipLines rest else c :: rest
  | [] => []

/-- The text after leading blanks, line ends and comments; a comment must be ended by a line end.
The steps bound the number of comments. -/
def skipNotes : (steps : Nat) → List Char → List Char
  | 0, text => skipLines text
  | steps + 1, text =>
    match skipLines text with
    | '#' :: rest =>
      match lineEnd? (rest.dropWhile isPlain) with
      | some left => skipNotes steps left
      | none => '#' :: rest
    | rest => rest

/-- The character that a one-letter escape stands for. -/
def unescape? : Char → Option Char
  | 'b' => some '\x08'
  | 't' => some '\t'
  | 'n' => some '\n'
  | 'f' => some '\x0c'
  | 'r' => some '\r'
  | '"' => some '"'
  | '\\' => some '\\'
  | _ => none

/-- A character given by a number of hexadecimal digits. -/
def readCodePoint (digits : Nat) (text : List Char) : Except Fault (Char × List Char) :=
  match Decimal.hexValue? (text.take digits) with
  | some n =>
    if (text.take digits).length = digits ∧ n.isValidChar then
      .ok (Char.ofNat n, text.drop digits)
    else .error .malformed
  | none => .error .malformed

/-- What follows the backslash of an escape. -/
def readEscape : Reader Char
  | [] => .error .malformed
  | letter :: rest =>
    if letter = 'u' then readCodePoint 4 rest
    else if letter = 'U' then readCodePoint 8 rest
    else
      match unescape? letter with
      | some c => .ok (c, rest)
      | none => .error .malformed

/-- The characters of a basic string up to its closing quote, in front of those read before in
reverse. The steps bound the number of characters looked at. -/
def readBasic : (steps : Nat) → (before : List Char) → List Char →
    Except Fault (List Char × List Char)
  | 0, _, _ => .error .malformed
  | _ + 1, _, [] => .error .malformed
  | steps + 1, before, c :: rest =>
    if c = '"' then .ok (before.reverse, rest)
    else if c = '\\' then do
      let (escaped, rest) ← readEscape rest
      readBasic steps (escaped :: before) rest
    else if isPlain c then readBasic steps (c :: before) rest
    else .error .malformed

/-- The delimiter of literal strings. -/
def apostrophe : Char := '\x27'

/-- Characters that may stand in a literal string. -/
def isLiteral (c : Char) : Bool := isPlain c && c != apostrophe

/-- The characters of a literal string up to its closing apostrophe. -/
def readLiteral (text : List Char) : Except Fault (List Char × List Char) :=
  match text.dropWhile isLiteral with
  | [] => .error .malformed
  | c :: rest => if c = apostrophe then .ok (text.takeWhile isLiteral, rest) else .error .malformed

/-- The characters of a string over lines. Of three or more delimiters in a row the last three
close the string, and at most two before them belong to it. -/
def readLong (delimiter : Char) : (steps : Nat) → (before : List Char) → List Char →
    Except Fault (List Char × List Char)
  | 0, _, _ => .error .malformed
  | _ + 1, _, [] => .error .malformed
  | steps + 1, before, c :: rest =>
    if c = delimiter then
      let run := (rest.takeWhile (· == delimiter)).length + 1
      if run < 3 then
        readLong delimiter steps (List.replicate run delimiter ++ before) ((c :: rest).drop run)
      else
        let kept := min (run - 3) 2
        .ok ((List.replicate kept delimiter ++ before).reverse, (c :: rest).drop (kept + 3))
    else if c = '\\' ∧ delimiter = '"' then
      match lineEnd? (skipGaps rest) with
      | some left => readLong delimiter steps before (skipLines left)
      | none => do
        let (escaped, rest) ← readEscape rest
        readLong delimiter steps (escaped :: before) rest
    else
      match lineEnd? (c :: rest) with
      | some left => readLong delimiter steps ('\n' :: before) left
      | none =>
        if isPlain c then readLong delimiter steps (c :: before) rest else .error .malformed

/-- A string over lines whose opening has been read. -/
def readLongText (delimiter : Char) (text : List Char) : Except Fault (String × List Char) := do
  let text := (lineEnd? text).getD text
  let (chars, rest) ← readLong delimiter (text.length + 1) [] text
  return (String.ofList chars, rest)

/-- A string on one line whose opening delimiter has been read. -/
def readShortText (delimiter : Char) (text : List Char) : Except Fault (String × List Char) := do
  let (chars, rest) ←
    if delimiter = '"' then readBasic (text.length + 1) [] text else readLiteral text
  return (String.ofList chars, rest)

/-- A string whose first delimiter has been read. -/
def readText (delimiter : Char) (text : List Char) : Except Fault (String × List Char) :=
  match text with
  | second :: third :: rest =>
    if second = delimiter ∧ third = delimiter then readLongText delimiter rest
    else readShortText delimiter text
  | _ => readShortText delimiter text

/-- Characters of which a bare key is made. -/
def isBare (c : Char) : Bool := c.isAlphanum || c == '-' || c == '_'

/-- Whether a key can begin with a character. -/
def startsKey (c : Char) : Bool := isBare c || c == '"' || c == apostrophe

/-- One key, without dots. -/
def readKeyPart (text : List Char) : Except Fault (Key × List Char) := do
  let (name, rest) ←
    match text with
    | [] => .error .malformed
    | c :: rest =>
      if c = '"' ∨ c = apostrophe then readShortText c rest
      else if isBare c then
        .ok (String.ofList (text.takeWhile isBare), text.dropWhile isBare)
      else .error .malformed
  return (⟨name, .between text rest⟩, rest)

/-- Keys with dots between them and blanks around them. The steps bound their number. -/
def readPath : (steps : Nat) → List Char → Except Fault (List Key × List Char)
  | 0, _ => .error .malformed
  | steps + 1, text => do
    let (key, rest) ← readKeyPart (skipGaps text)
    match skipGaps rest with
    | '.' :: rest => do
      let (more, rest) ← readPath steps rest
      return (key :: more, rest)
    | rest => return ([key], rest)

/-- All keys that a text begins with, dots between them. -/
def readAllKeys (text : List Char) : Except Fault (List Key × List Char) :=
  readPath (text.length + 1) text

/-- The path that a header or a line begins with: fewer keys than the limit. -/
def readKeys (text : List Char) : Except Fault (List Key × List Char) := do
  let (keys, rest) ← readAllKeys text
  if keys.length < nestingLimit then return (keys, rest) else .error .malformed

/-- Whether a pair of a table between braces may begin here: a key can, and there are not too many
of them with dots between. -/
def startsPair (text : List Char) : Bool :=
  (text.head?.map startsKey).getD false &&
    match readAllKeys text with
    | .ok (keys, _) => keys.length < nestingLimit
    | .error _ => true

end LintReport.Toml
