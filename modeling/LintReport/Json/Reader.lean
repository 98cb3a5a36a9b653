import LintReport.Json.Numeral
import LintReport.Json.Text

/-!
# Reading JSON documents

A value is read by looking at its first character. The readers of lists and objects take the
reader of what they hold as an argument, so that a value may be nested as deeply as the reader it
is read with allows: `readValue depth` allows `depth` brackets around each other. A document
allows 127.

A text may repeat a key of an object. What is read first is the value as it stands in the text,
repetitions and all; the value that the text denotes has every key once (`settle`).

Values that nobody asks for are passed over: their grammar is the same, but they may be nested to
any depth, their numbers may be of any size, and some faults in them are named differently.
-/

namespace LintReport.Json

/-- The rest of a word of which the first letter has been read. -/
def readWord : (word : List Char) → List Char → Except Fault (List Char)
  | [], text => .ok text
  | _ :: _, [] => .error (.here .endInValue [])
  | letter :: word, c :: rest =>
    if c = letter then readWord word rest else .error (.next .wordExpected (c :: rest))

/-- What may come after an item of a list: the end of the list, or a comma and more. -/
def readItems {α : Type} (item : Reader α) :
    (steps : Nat) → (before : List α) → List Char → Except Fault (List α × List Char)
  | 0, _, text => .error (.here .valueExpected text)
  | steps + 1, before, text =>
    match skipBlanks text with
    | [] => .error (.here .endInList [])
    | ']' :: rest => .ok (before.reverse, rest)
    | ',' :: rest =>
      match skipBlanks rest with
      | [] => .error (.here .endInValue [])
      | ']' :: left => .error (.next .trailingComma (']' :: left))
      | text => do
        let (value, rest) ← item text
        readItems item steps (value :: before) rest
    | left => .error (.next .listEndExpected left)

/-- A list whose opening bracket has been read. -/
def readList {α : Type} (item : Reader α) (text : List Char) :
    Except Fault (List α × List Char) :=
  match skipBlanks text with
  | [] => .error (.here .endInList [])
  | ']' :: rest => .ok ([], rest)
  | text => do
    let (value, rest) ← item text
    readItems item (rest.length + 1) [value] rest

/-- The colon between a key and its value. -/
def readColon (text : List Char) : Except Fault (List Char) :=
  match skipBlanks text with
  | [] => .error (.here .endInObject [])
  | ':' :: rest => .ok rest
  | left => .error (.next .colonExpected left)

/-- A key whose opening quote has been read, the colon, and a value. -/
def readMember {α : Type} (item : Reader α) (text : List Char) :
    Except Fault ((String × α) × List Char) := do
  let (key, rest) ← Text.read text
  let rest ← readColon rest
  let (value, rest) ← item rest
  return ((key, value), rest)

/-- What may come after a member of an object: the end of the object, or a comma and more. -/
def readMembers {α : Type} (item : Reader α) :
    (steps : Nat) → (before : List (String × α)) → List Char →
      Except Fault (List (String × α) × List Char)
  | 0, _, text => .error (.here .valueExpected text)
  | steps + 1, before, text =>
    match skipBlanks text with
    | [] => .error (.here .endInObject [])
    | '}' :: rest => .ok (before.reverse, rest)
    | ',' :: rest =>
      match skipBlanks rest with
      | [] => .error (.here .endInValue [])
      | '"' :: rest => do
        let (member, rest) ← readMember item rest
        readMembers item steps (member :: before) rest
      | '}' :: left => .error (.next .trailingComma ('}' :: left))
      | left => .error (.next .keyNotText left)
    | left => .error (.next .objectEndExpected left)

/-- The members of an object whose opening brace has been read, as they stand in the text. -/
def readObject {α : Type} (item : Reader α) (text : List Char) :
    Except Fault (List (String × α) × List Char) :=
  match skipBlanks text with
  | [] => .error (.here .endInObject [])
  | '}' :: rest => .ok ([], rest)
  | '"' :: rest => do
    let (member, rest) ← readMember item rest
    readMembers item (rest.length + 1) [member] rest
  | left => .error (.next .keyNotText left)

/-- The members that a run of keys and values gives: a key keeps its first place and takes its
last value. -/
def collect (written : List (String × Json)) : Members :=
  written.foldl (fun members member => members.put member.1 member.2) []

mutual

/-- The value in which every key of an object stands once. -/
def settle : Json → Json
  | .null => .null
  | .boolean b => .boolean b
  | .number n => .number n
  | .string s => .string s
  | .list items => .list (settleItems items)
  | .object written => .object (collect (settleMembers written))

/-- Each of the values settled. -/
def settleItems : List Json → List Json
  | [] => []
  | item :: rest => settle item :: settleItems rest

/-- The members with their values settled. -/
def settleMembers : List (String × Json) → List (String × Json)
  | [] => []
  | (key, value) :: rest => (key, settle value) :: settleMembers rest

end

/-- A value with at most `depth` lists and objects around each other, as it stands in the text. -/
def readValue : (depth : Nat) → Reader Json
  | depth, text =>
    match skipBlanks text with
    | [] => .error (.here .endInValue [])
    | 'n' :: rest => do
      let rest ← readWord ['u', 'l', 'l'] rest
      return (.null, rest)
    | 't' :: rest => do
      let rest ← readWord ['r', 'u', 'e'] rest
      return (.boolean true, rest)
    | 'f' :: rest => do
      let rest ← readWord ['a', 'l', 's', 'e'] rest
      return (.boolean false, rest)
    | '"' :: rest => do
      let (s, rest) ← Text.read rest
      return (.string s, rest)
    | '[' :: rest =>
      match depth with
      | 0 => .error (.next .nestingTooDeep ('[' :: rest))
      | depth + 1 => do
        let (items, rest) ← readList (readValue depth) rest
        return (.list items, rest)
    | '{' :: rest =>
      match depth with
      | 0 => .error (.next .nestingTooDeep ('{' :: rest))
      | depth + 1 => do
        let (written, rest) ← readObject (readValue depth) rest
        return (.object written, rest)
    | c :: rest =>
      if c = '-' ∨ c.isDigit then do
        let (n, rest) ← readNumber (c :: rest)
        return (.number n, rest)
      else .error (.next .valueExpected (c :: rest))

/-- How many lists and objects may stand around each other in a document. -/
def nestingLimit : Nat := 127

/-- The value that stands in a text, with repeated keys as often as they are written. -/
def parseWritten (text : String) : Except Error Json := readAll (readValue nestingLimit) text

/-- The value that a text denotes. -/
def parse (text : String) : Except Error Json := (parseWritten text).map settle

end LintReport.Json
