import LintReport.Text.Decimal
import LintReport.Json.Fault

/-!
# JSON strings

Between quotes a string holds its characters as they are, save for the quote, the backslash and
the control characters, which are written as escapes. An escape of four hexadecimal digits gives
one unit of UTF-16; a unit of the leading half of the surrogates must be followed by an escape
for one of the trailing half, and the two give one character.
-/

namespace LintReport.Json.Text

/-- The character that a one-letter escape stands for. -/
def unescape? : Char → Option Char
  | '"' => some '"'
  | '\\' => some '\\'
  | '/' => some '/'
  | 'b' => some '\x08'
  | 'f' => some '\x0c'
  | 'n' => some '\n'
  | 'r' => some '\r'
  | 't' => some '\t'
  | _ => none

/-- Four hexadecimal digits as one unit. Four bytes are looked at: when the text has fewer left
it ends in the string, and when they are not four digits the escape is invalid. -/
def readUnit (text : List Char) : Except Fault (Nat × List Char) :=
  match Decimal.hexValue? (text.take 4) with
  | some unit =>
    if text.length < 4 then .error (.here .endInText []) else .ok (unit, text.drop 4)
  | none =>
    if utf8Length text < 4 then .error (.here .endInText []) else .error ⟨.invalidEscape, text, 4⟩

/-- Whether a unit is of the leading half of the surrogates. -/
def isLeading (unit : Nat) : Bool := 0xD800 ≤ unit && unit ≤ 0xDBFF

/-- Whether a unit is of the trailing half of the surrogates. -/
def isTrailing (unit : Nat) : Bool := 0xDC00 ≤ unit && unit ≤ 0xDFFF

/-- The character that two surrogates give together. -/
def join (leading trailing : Nat) : Char :=
  Char.ofNat (0x10000 + (leading - 0xD800) * 0x400 + (trailing - 0xDC00))

/-- What follows the letter `u` of an escape: one character. -/
def readUnicode (text : List Char) : Except Fault (Char × List Char) := do
  let (unit, rest) ← readUnit text
  if isTrailing unit then .error (.here .loneSurrogate rest)
  else if isLeading unit then
    match rest with
    | '\\' :: 'u' :: more => do
      let (second, rest) ← readUnit more
      if isTrailing second then return (join unit second, rest)
      else .error (.here .loneSurrogate rest)
    | ['\\'] => .error (.here .endInText [])
    | '\\' :: more => .error (.next .escapeCutShort more)
    | [] => .error (.here .endInText [])
    | _ => .error (.next .escapeCutShort rest)
  else return (Char.ofNat unit, rest)

/-- What follows the backslash of an escape: one character. -/
def readEscape : List Char → Except Fault (Char × List Char)
  | [] => .error (.here .endInText [])
  | letter :: rest =>
    if letter = 'u' then readUnicode rest
    else
      match unescape? letter with
      | some c => .ok (c, rest)
      | none => .error (.next .invalidEscape (letter :: rest))

/-- The characters up to the closing quote, in front of those read before in reverse. The steps
bound the number of characters looked at. -/
def readRest : (steps : Nat) → (before : List Char) → List Char → Except Fault (List Char × List Char)
  | 0, _, _ => .error (.here .endInText [])
  | _ + 1, _, [] => .error (.here .endInText [])
  | steps + 1, before, c :: rest =>
    if c = '"' then .ok (before.reverse, rest)
    else if c = '\\' then do
      let (escaped, rest) ← readEscape rest
      readRest steps (escaped :: before) rest
    else if c.toNat < 0x20 then .error (.next .controlCharacter (c :: rest))
    else readRest steps (c :: before) rest

/-- A string whose opening quote has been read. -/
def read (text : List Char) : Except Fault (String × List Char) := do
  let (chars, rest) ← readRest (text.length + 1) [] text
  return (String.ofList chars, rest)

/-- Passes over what follows the backslash of an escape. Units need not form characters here. -/
def skipEscape : List Char → Except Fault (List Char)
  | [] => .error (.here .endInText [])
  | letter :: rest =>
    if letter = 'u' then do
      let (_, rest) ← readUnit rest
      return rest
    else if (unescape? letter).isSome then .ok rest
    else .error (.next .invalidEscape (letter :: rest))

/-- Passes over a string up to its closing quote, without building it. -/
def skipRest : (steps : Nat) → List Char → Except Fault (List Char)
  | 0, _ => .error (.here .endInText [])
  | _ + 1, [] => .error (.here .endInText [])
  | steps + 1, c :: rest =>
    if c = '"' then .ok rest
    else if c = '\\' then do
      let rest ← skipEscape rest
      skipRest steps rest
    else if c.toNat < 0x20 then .error (.here .controlCharacter (c :: rest))
    else skipRest steps rest

/-- Passes over a string whose opening quote has been read. -/
def skip (text : List Char) : Except Fault (List Char) := skipRest (text.length + 1) text

/-- A character as it stands in a written string. -/
def escape (c : Char) : List Char :=
  if c = '"' then ['\\', '"']
  else if c = '\\' then ['\\', '\\']
  else if c = '\x08' then ['\\', 'b']
  else if c = '\x0c' then ['\\', 'f']
  else if c = '\n' then ['\\', 'n']
  else if c = '\r' then ['\\', 'r']
  else if c = '\t' then ['\\', 't']
  else if c.toNat < 0x20 then
    ['\\', 'u', '0', '0', Nat.digitChar (c.toNat / 16), Nat.digitChar (c.toNat % 16)]
  else [c]

/-- A string between quotes. -/
def write (s : String) : List Char := '"' :: s.toList.flatMap escape ++ ['"']

end LintReport.Json.Text
