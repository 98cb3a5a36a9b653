import LintReport.Json.Reader

/-!
# Passing over JSON values

The grammar of values without the values: nothing is built, so neither the nesting nor the size
of a number is bounded, and halves of surrogate pairs may stand alone. A few faults are named
differently than where the value is built: a comma before the end of a list lacks a value, one
before the end of an object lacks a key, and a numeral that the text cuts short is invalid.
-/

namespace LintReport.Json

/-- What may come after an item of a list: the end of the list, or a comma and more. -/
def skipItems (item : List Char → Except Fault (List Char)) :
    (steps : Nat) → List Char → Except Fault (List Char)
  | 0, text => .error (.here .valueExpected text)
  | steps + 1, text =>
    match skipBlanks text with
    | [] => .error (.here .endInList [])
    | ']' :: rest => .ok rest
    | ',' :: rest => do
      let rest ← item rest
      skipItems item steps rest
    | left => .error (.next .listEndExpected left)

/-- A list whose opening bracket has been read. -/
def skipList (item : List Char → Except Fault (List Char)) (text : List Char) :
    Except Fault (List Char) :=
  match skipBlanks text with
  | [] => .error (.here .endInList [])
  | ']' :: rest => .ok rest
  | text => do
    let rest ← item text
    skipItems item (rest.length + 1) rest

/-- A quoted key, the colon, and a value. -/
def skipMember (item : List Char → Except Fault (List Char)) (text : List Char) :
    Except Fault (List Char) :=
  match skipBlanks text with
  | [] => .error (.here .endInObject [])
  | '"' :: rest => do
    let rest ← Text.skip rest
    let rest ← readColon rest
    item rest
  | left => .error (.next .keyNotText left)

/-- What may come after a member of an object: the end of the object, or a comma and more. -/
def skipMembers (item : List Char → Except Fault (List Char)) :
    (steps : Nat) → List Char → Except Fault (List Char)
  | 0, text => .error (.here .valueExpected text)
  | steps + 1, text =>
    match skipBlanks text with
    | [] => .error (.here .endInObject [])
    | '}' :: rest => .ok rest
    | ',' :: rest => do
      let rest ← skipMember item rest
      skipMembers item steps rest
    | left => .error (.next .objectEndExpected left)

/-- An object whose opening brace has been read. -/
def skipObject (item : List Char → Except Fault (List Char)) (text : List Char) :
    Except Fault (List Char) :=
  match skipBlanks text with
  | [] => .error (.here .endInObject [])
  | '}' :: rest => .ok rest
  | text => do
    let rest ← skipMember item text
    skipMembers item (rest.length + 1) rest

/-- Passes over a value with at most `depth` lists and objects around each other. -/
def skipNested : (depth : Nat) → List Char → Except Fault (List Char)
  | depth, text =>
    match skipBlanks text with
    | [] => .error (.here .endInValue [])
    | 'n' :: rest => readWord ['u', 'l', 'l'] rest
    | 't' :: rest => readWord ['r', 'u', 'e'] rest
    | 'f' :: rest => readWord ['a', 'l', 's', 'e'] rest
    | '"' :: rest => Text.skip rest
    | '[' :: rest =>
      match depth with
      | 0 => .error (.next .nestingTooDeep ('[' :: rest))
      | depth + 1 => skipList (skipNested depth) rest
    | '{' :: rest =>
      match depth with
      | 0 => .error (.next .nestingTooDeep ('{' :: rest))
      | depth + 1 => skipObject (skipNested depth) rest
    | c :: rest =>
      if c = '-' ∨ c.isDigit then do
        let (_, rest) ← Numeral.read .invalidNumber (c :: rest)
        return rest
      else .error (.next .valueExpected (c :: rest))

/-- Passes over one value. A text has no more brackets than characters, so the bound on the
nesting is never met. -/
def skipValue (text : List Char) : Except Fault (List Char) := skipNested text.length text

end LintReport.Json
