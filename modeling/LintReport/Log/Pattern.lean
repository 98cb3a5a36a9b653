import LintReport.Text.Alphanumeric
import LintReport.Text.Blank
import LintReport.Text.Decimal

/-!
# Patterns for the values of fields

A log filter may give a pattern for the value of a field. No event is selected by it, but a filter
with a pattern that is not in order is no filter. A pattern is a regular expression without
references back, without looking around, and without word boundaries, save those of ASCII. It
stands between braces and so holds no closing brace, and no opening one can be closed. Its parts
may be nested in each other, but only to a certain depth.
-/

namespace LintReport.Pattern

/-- How a part of a pattern is read: whether blanks and comments in it mean nothing, and whether
it is about characters rather than bytes. -/
structure Mode where
  verbose : Bool
  unicode : Bool
  deriving DecidableEq, Repr

/-- The mode at the beginning. -/
def Mode.plain : Mode := ⟨false, true⟩

/-- The text after blanks and comments. -/
def skipNotes : (comment : Bool) → List Char → List Char
  | _, [] => []
  | true, c :: rest => skipNotes (c != '\n') rest
  | false, c :: rest =>
    if isBlank c then skipNotes false rest
    else if c = '#' then skipNotes true rest
    else c :: rest

/-- The text after what means nothing in a mode. -/
def Mode.skip (mode : Mode) (text : List Char) : List Char :=
  if mode.verbose then skipNotes false text else text

/-- Parts of a pattern that stand side by side: how many they are, and how many parts are at most
around each other in one of them. -/
structure Run where
  count : Nat
  deepest : Nat
  deriving DecidableEq, Repr

/-- No parts. -/
def Run.empty : Run := ⟨0, 0⟩

/-- The parts and one more. -/
def Run.add (run : Run) (depth : Nat) : Run := ⟨run.count + 1, max run.deepest depth⟩

/-- How deep the parts are when they are taken for one: several parts are a part around them. -/
def Run.depth (run : Run) : Nat := if run.count ≤ 1 then run.deepest else run.deepest + 1

/-- How many parts of a pattern may be around each other. -/
def depthLimit : Nat := 250

/-- What an escape stands for: a character, perhaps given as a byte, a class, which may reach
beyond ASCII, or a place between characters. -/
inductive Escaped where
  | character (c : Char) (asByte : Bool)
  | group (beyond : Bool)
  | place
  deriving DecidableEq, Repr

/-- The value of a number of hexadecimal digits, before each of which may stand what means
nothing. -/
def readHex (mode : Mode) : (count total : Nat) → List Char → Option (Nat × List Char)
  | 0, total, text => some (total, text)
  | count + 1, total, text =>
    match mode.skip text with
    | [] => none
    | c :: rest => do
      let digit ← Decimal.hexDigit? c
      readHex mode count (16 * total + digit) rest

/-- A character given by a number of hexadecimal digits. -/
def readCodePoint (mode : Mode) (count : Nat) (text : List Char) :
    Option (Escaped × List Char) := do
  let (value, rest) ← readHex mode count 0 text
  if value.isValidChar then some (.character (Char.ofNat value) (count = 2), rest) else none

/-- The characters that may stand after a backslash for themselves: those of ASCII save letters,
digits and angle brackets. -/
def isEscapable (c : Char) : Bool :=
  c.toNat < 0x80 && !c.isAlphanum && c != '<' && c != '>'

/-- What follows a backslash. -/
def readEscape (mode : Mode) : List Char → Option (Escaped × List Char)
  | [] => none
  | c :: rest =>
    if c ∈ ['d', 's', 'w'] then some (.group mode.unicode, rest)
    else if c ∈ ['D', 'S', 'W'] then some (.group true, rest)
    else if c ∈ ['a', 'f', 't', 'n', 'r', 'v'] then some (.character c false, rest)
    else if c ∈ ['A', 'z'] then some (.place, rest)
    else if c ∈ ['b', 'B', '<', '>'] then if mode.unicode then none else some (.place, rest)
    else if c = 'x' then readCodePoint mode 2 rest
    else if c = 'u' then readCodePoint mode 4 rest
    else if c = 'U' then readCodePoint mode 8 rest
    else if c = 'p' ∨ c = 'P' then
      match mode.skip rest with
      | name :: rest =>
        if mode.unicode ∧ name.toLower ∈ ['c', 'l', 'm', 'n', 'p', 's', 'z'] then
          some (.group true, rest)
        else none
      | [] => none
    else if isEscapable c then some (.character c false, rest)
    else none

/-- Whether an escape may stand in a mode: a class about bytes must stay within ASCII. -/
def Escaped.fits (mode : Mode) : Escaped → Bool
  | character c asByte => mode.unicode || !asByte || c.toNat < 0x80
  | group beyond => mode.unicode || !beyond
  | place => true

/-- Whether an escape may be a member of a class in a mode: a class about bytes has members of
ASCII only. -/
def Escaped.fitsClass (mode : Mode) : Escaped → Bool
  | character c _ => mode.unicode || c.toNat < 0x80
  | other => other.fits mode

/-- The names of the classes of ASCII. -/
def asciiClasses : List String :=
  ["alnum", "alpha", "ascii", "blank", "cntrl", "digit", "graph", "lower", "print", "punct",
    "space", "upper", "word", "xdigit"]

/-- The text after a class of ASCII by its name, between brackets with colons, and whether the
class is turned around. -/
def readNamedClass? (text : List Char) : Option (Bool × List Char) :=
  match text with
  | '[' :: ':' :: rest =>
    let (turned, rest) :=
      match rest with
      | '^' :: rest => (true, rest)
      | rest => (false, rest)
    let name := rest.takeWhile (· != ':')
    match rest.drop name.length with
    | ':' :: ']' :: left => if String.ofList name ∈ asciiClasses then some (turned, left) else none
    | _ => none
  | _ => none

/-- One member of a class: a character or an escape. -/
def readMember (mode : Mode) : List Char → Option (Escaped × List Char)
  | [] => none
  | '\\' :: rest => do
    let (escaped, rest) ← readEscape mode rest
    if escaped = .place then none else some (escaped, rest)
  | c :: rest => some (.character c true, rest)

/-- The first character that counts after a dash in a class. What comes after a number sign counts
here, too. -/
def peek (mode : Mode) (text : List Char) : Option Char :=
  if mode.verbose then
    match text.dropWhile isBlank with
    | '#' :: rest => (rest.dropWhile isBlank).head?
    | rest => rest.head?
  else text.head?

/-- One member of a class, or two characters in ascending order with a dash between them. -/
def readRange (mode : Mode) (text : List Char) : Option (List Char) := do
  let (first, rest) ← readMember mode text
  if !first.fitsClass mode then none
  else
    match mode.skip rest with
    | '-' :: rest =>
      if peek mode rest ∈ [some ']', some '-'] then some ('-' :: rest)
      else do
        let (last, rest) ← readMember mode (mode.skip rest)
        match first, last with
        | .character low _, .character high _ =>
          if low ≤ high ∧ last.fitsClass mode then some rest else none
        | _, _ => none
    | rest => some rest

/-- What has been read of a class: how deep the operand on the left of the last operator is, and
the members after it. -/
structure Membership where
  left : Option Nat
  members : Run
  deriving DecidableEq, Repr

/-- How deep a class is between its brackets: an operator is a part around its operands. -/
def Membership.depth (membership : Membership) : Nat :=
  match membership.left with
  | none => membership.members.depth
  | some left => max left membership.members.depth + 1

/-- The class with one more member. -/
def Membership.add (membership : Membership) (depth : Nat) : Membership :=
  { membership with members := membership.members.add depth }

/-- The class with an operator after it. -/
def Membership.operator (membership : Membership) : Membership := ⟨some membership.depth, .empty⟩

/-- The dashes that a class may begin with. -/
def readDashes (mode : Mode) : (steps : Nat) → Run → List Char → Run × List Char
  | steps + 1, run, '-' :: rest => readDashes mode steps (run.add 0) (mode.skip rest)
  | _, run, text => (run, text)

/-- What a class begins with after its opening bracket: a sign that turns it around, dashes, and a
closing bracket that stands for itself. -/
def openClass (mode : Mode) (text : List Char) : Option (Membership × List Char) :=
  let text := mode.skip text
  let (turned, text) :=
    match text with
    | '^' :: rest => (true, mode.skip rest)
    | text => (false, text)
  if turned ∧ !mode.unicode then none
  else
    match readDashes mode text.length .empty text with
    | (run, ']' :: rest) =>
      if run.count = 0 then some (⟨none, run.add 0⟩, rest) else some (⟨none, run⟩, ']' :: rest)
    | (run, rest) => some (⟨none, run⟩, rest)

/-- The rest of a class and how deep it is. The steps bound the number of members. -/
def readClass (mode : Mode) : (steps : Nat) → Membership → List Char → Option (Nat × List Char)
  | 0, _, _ => none
  | steps + 1, membership, text =>
    match mode.skip text with
    | [] => none
    | ']' :: rest => some (membership.depth + 1, rest)
    | '&' :: '&' :: rest => readClass mode steps membership.operator rest
    | '-' :: '-' :: rest => readClass mode steps membership.operator rest
    | '~' :: '~' :: rest => readClass mode steps membership.operator rest
    | '[' :: rest =>
      match readNamedClass? ('[' :: rest) with
      | some (turned, left) =>
        if turned ∧ !mode.unicode then none else readClass mode steps (membership.add 0) left
      | none => do
        let (inner, left) ← openClass mode rest
        let (depth, left) ← readClass mode steps inner left
        readClass mode steps (membership.add depth) left
    | text => do
      let left ← readRange mode text
      readClass mode steps (membership.add 0) left

/-- The letters that switch something on or off, up to the colon or bracket after them. -/
def readFlags : (off : Bool) → (seen : List Char) → Mode → List Char →
    Option (List Char × Mode × List Char)
  | _, _, _, [] => none
  | off, seen, mode, c :: rest =>
    if c = ':' ∨ c = ')' then
      if seen.head? = some '-' then none else some (seen, mode, c :: rest)
    else if c ∈ seen then none
    else if c = '-' then readFlags true (c :: seen) mode rest
    else if c = 'x' then readFlags off (c :: seen) { mode with verbose := !off } rest
    else if c = 'u' then readFlags off (c :: seen) { mode with unicode := !off } rest
    else if c ∈ ['i', 'm', 's', 'U', 'R'] then readFlags off (c :: seen) mode rest
    else none

/-- The name of a group up to the bracket that ends it. -/
def readName (text : List Char) : Option (List Char × List Char) :=
  let name := text.takeWhile (· != '>')
  match name, text.drop name.length with
  | first :: more, '>' :: rest =>
    if (first = '_' ∨ isAlphabetic first) ∧
        more.all fun c => c ∈ ['_', '.', '[', ']'] || isAlphanumeric c then
      some (name, rest)
    else none
  | _, _ => none

/-- What an opening bracket opens: a group with a mode of its own and perhaps a name, or nothing
when it only changes the mode of what follows it. -/
inductive Opening where
  | group (mode : Mode) (name : Option (List Char))
  | change (mode : Mode)
  deriving DecidableEq, Repr

/-- What stands right after an opening bracket. -/
def readOpening (mode : Mode) (text : List Char) : Option (Opening × List Char) :=
  match mode.skip text with
  | '?' :: '=' :: _ => none
  | '?' :: '!' :: _ => none
  | '?' :: '<' :: '=' :: _ => none
  | '?' :: '<' :: '!' :: _ => none
  | '?' :: 'P' :: '<' :: rest =>
    (readName rest).map fun read => (.group mode (some read.1), read.2)
  | '?' :: '<' :: rest => (readName rest).map fun read => (.group mode (some read.1), read.2)
  | '?' :: rest => do
    let (seen, inner, rest) ← readFlags false [] mode rest
    match rest with
    | ':' :: rest => some (.group inner none, rest)
    | ')' :: rest => if seen.isEmpty then none else some (.change inner, rest)
    | _ => none
  | rest => some (.group mode none, rest)

/-- What has been read of a group: the names of the groups before, the branches that are complete,
the parts of the one that is being read, and how deep the last part is if a sign of repetition may
stand after it. -/
structure Draft where
  names : List (List Char)
  branches : Run
  parts : Run
  operand : Option Nat
  deriving DecidableEq, Repr

namespace Draft

/-- The beginning of a group. -/
def start (names : List (List Char)) : Draft := ⟨names, .empty, .empty, none⟩

/-- How deep the group is between its brackets. -/
def depth (draft : Draft) : Nat := (draft.branches.add draft.parts.depth).depth

/-- The group with one more part. -/
def add (draft : Draft) (depth : Nat) : Draft :=
  { draft with parts := draft.parts.add depth, operand := some depth }

/-- The group with a change of mode, which cannot be repeated. -/
def addChange (draft : Draft) : Draft := { draft with parts := draft.parts.add 0, operand := none }

/-- The group with a new branch begun. -/
def branch (draft : Draft) : Draft :=
  ⟨draft.names, draft.branches.add draft.parts.depth, .empty, none⟩

/-- The group with its last part repeated. -/
def repeated? (draft : Draft) : Option Draft :=
  draft.operand.map fun depth =>
    { draft with
      parts := ⟨draft.parts.count, max draft.parts.deepest (depth + 1)⟩
      operand := some (depth + 1) }

end Draft

/-- Reads branches up to a closing bracket or the end. -/
def readBranches : (steps : Nat) → Mode → Draft → List Char → Option (Draft × List Char)
  | 0, _, _, _ => none
  | steps + 1, mode, draft, text =>
    match mode.skip text with
    | [] => some (draft, [])
    | ')' :: rest => some (draft, ')' :: rest)
    | '|' :: rest => readBranches steps mode draft.branch rest
    | '(' :: rest => do
      let (opening, rest) ← readOpening mode rest
      match opening with
      | .change mode => readBranches steps mode draft.addChange rest
      | .group inner name =>
        if name.any (· ∈ draft.names) then none
        else do
          let (group, rest) ← readBranches steps inner (.start (name.toList ++ draft.names)) rest
          match rest with
          | ')' :: rest =>
            let draft := { draft with names := group.names }
            readBranches steps mode (draft.add (group.depth + 1)) rest
          | _ => none
    | '[' :: rest => do
      let (membership, rest) ← openClass mode rest
      let (depth, rest) ← readClass mode (rest.length + 1) membership rest
      readBranches steps mode (draft.add depth) rest
    | '\\' :: rest => do
      let (escaped, rest) ← readEscape mode rest
      if escaped.fits mode then readBranches steps mode (draft.add 0) rest else none
    | '{' :: _ => none
    | '.' :: rest => if mode.unicode then readBranches steps mode (draft.add 0) rest else none
    | c :: rest =>
      if c ∈ ['*', '+', '?'] then do
        let draft ← draft.repeated?
        match rest with
        | '?' :: rest => readBranches steps mode draft rest
        | rest => readBranches steps mode draft rest
      else readBranches steps mode (draft.add 0) rest

/-- Whether a text is a regular expression. -/
def isExpression (text : List Char) : Bool :=
  match readBranches (text.length + 1) .plain (.start []) text with
  | some (draft, []) => draft.depth ≤ depthLimit
  | _ => false

/-- The text after digits. -/
def skipDigits (text : List Char) : List Char := text.dropWhile Char.isDigit

/-- Whether a text is a power of ten with its mark, or nothing. -/
def isPower : List Char → Bool
  | [] => true
  | c :: rest =>
    let digits :=
      match rest with
      | '+' :: digits => digits
      | '-' :: digits => digits
      | digits => digits
    (c = 'e' || c = 'E') && !digits.isEmpty && digits.all Char.isDigit

/-- Whether a text is a number without a sign. -/
def isNumber (text : List Char) : Bool :=
  let rest := skipDigits text
  if String.ofList (text.map Char.toLower) ∈ ["inf", "infinity", "nan"] then true
  else
    match rest with
    | '.' :: fraction =>
      let left := skipDigits fraction
      (left.length < fraction.length || rest.length < text.length) && isPower left
    | _ => rest.length < text.length && isPower rest

/-- Whether a text can be given for the value of a field: a number after a plus sign, or a regular
expression; without that sign a number is an expression, too. -/
def isValue (text : List Char) : Bool :=
  match text with
  | '+' :: number => isNumber number
  | text => isExpression text

end LintReport.Pattern
