import LintReport.Text.Blank
import LintReport.Text.Utf8
import LintReport.Log.Event
import LintReport.Log.Pattern

/-!
# Log filters

A filter says which events are shown. It is a list of directives with commas between them: a level
for everything, or a target and perhaps a level for the parts of the program whose names begin
with the target. A directive may also ask for a span of time, a field, or a value of a field, in
brackets after the target; spans and values are not known of an event, so such a directive fits
none. For each event the narrowest directive that fits decides.
-/

namespace LintReport

/-- What a rule says of a field: its name, and whether it asks for a value. -/
structure FieldTest where
  name : List UInt8
  hasValue : Bool
  deriving DecidableEq, Repr

/-- One rule of a filter: of which parts of the program, in a span or not, with which field, and up
to which rank events are shown; rank zero shows none. -/
structure Directive where
  target : Option (List UInt8)
  inSpan : Bool
  field : Option FieldTest
  rank : Nat
  deriving DecidableEq, Repr

/-- The rule for all events up to a rank. -/
def Directive.general (rank : Nat) : Directive := ⟨none, false, none, rank⟩

/-- A list of rules. -/
abbrev Filter := List Directive

namespace Filter

/-- Whether a text is a word in letters of any case. -/
def isWord (word : String) (text : List Char) : Bool := text.map Char.toLower == word.toList

/-- The rank that a number stands for: digits, perhaps after a plus sign. -/
def rankOfNumber? (text : List Char) : Option Nat :=
  let digits :=
    match text with
    | '+' :: rest => rest
    | rest => rest
  let rank := Nat.ofDigitChars 10 digits 0
  if !digits.isEmpty && digits.all Char.isDigit && rank ≤ 5 then some rank else none

/-- The rank that a word or a number stands for. -/
def rankOf? (text : List Char) : Option Nat :=
  (rankOfNumber? text).or <|
    if isWord "off" text then some 0
    else if isWord "error" text then some 1
    else if isWord "warn" text then some 2
    else if isWord "info" text then some 3
    else if isWord "debug" text then some 4
    else if isWord "trace" text then some 5
    else none

/-- The rank after an equals sign; nothing at all stands for the greatest. -/
def rankAfterSign? (text : List Char) : Option Nat :=
  if text.isEmpty then some 5 else rankOf? text

/-- Bytes as characters, each for itself. Words and numbers are of ASCII, so nothing is lost. -/
def bytesAsText (bytes : List UInt8) : List Char := bytes.map fun byte => Char.ofNat byte.toNat

/-- Whether a directive may begin with a character other than a bracket. -/
def startsDirective (c : Char) : Bool :=
  c == '-' || c == ':' || c == '_' || isAlphanumeric c

/-- Where in a directive the reading is, with the place at which the part that is being read
began. -/
inductive Stage where
  | target
  | span (start : Nat)
  | field (start : Nat)
  | afterField
  | afterSpan
  | rank (start : Nat)
  deriving DecidableEq, Repr

/-- A directive as far as it has been read. -/
structure Draft where
  stage : Stage
  directive : Directive
  deriving DecidableEq, Repr

/-- The bytes between two places. -/
def cut (bytes : List UInt8) (start stop : Nat) : List UInt8 := (bytes.drop start).take (stop - start)

/-- What a text between braces says of a field: its name, and after an equals sign the pattern of
its value. -/
def fieldTest? (bytes : List UInt8) : Option FieldTest :=
  let isSign (byte : UInt8) : Bool := byte == 0x3D
  let name := bytes.takeWhile (!isSign ·)
  match bytes, bytes.drop name.length with
  | [], _ => none
  | _, [] => some ⟨name, false⟩
  | _, _ :: rest => do
    let pattern ← ofUtf8Bytes? (rest.takeWhile (!isSign ·))
    if Pattern.isValue pattern.toList then some ⟨name, true⟩ else none

/-- The draft before the first character, which it is given. -/
def Draft.first? (c : Char) : Option Draft :=
  if c = '[' then some ⟨.span 1, .general 5⟩
  else if startsDirective c then some ⟨.target, .general 5⟩
  else none

/-- The draft after one more character at a place. -/
def Draft.step? (bytes : List UInt8) (draft : Draft) (place : Nat) (c : Char) : Option Draft :=
  let directive := draft.directive
  match draft.stage with
  | .target =>
    let named := { directive with target := some (cut bytes 0 place) }
    if c = '=' then some ⟨.rank (place + 1), named⟩
    else if c = '[' then some ⟨.span (place + 1), named⟩
    else some draft
  | .span start =>
    if c = ']' then some ⟨.afterSpan, { directive with inSpan := true }⟩
    else if c = '{' then
      some ⟨.field (place + 1), { directive with inSpan := !(cut bytes start place).isEmpty }⟩
    else some draft
  | .field start =>
    if c = '}' then
      (fieldTest? (cut bytes start place)).map fun test =>
        ⟨.afterField, { directive with field := some test }⟩
    else some draft
  | .afterField => if c = ']' then some ⟨.afterSpan, directive⟩ else none
  | .afterSpan => if c = '=' then some ⟨.rank (place + 1), directive⟩ else none
  | .rank _ => some draft

/-- The draft after all characters from a place on. -/
def Draft.read? (bytes : List UInt8) (draft : Draft) : (place : Nat) → List Char → Option Draft
  | _, [] => some draft
  | place, c :: rest => do
    let draft ← draft.step? bytes place c
    draft.read? bytes (place + c.utf8Size) rest

/-- The directive that a draft is when nothing follows. -/
def Draft.finish? (bytes : List UInt8) (draft : Draft) : Option Directive :=
  match draft.stage with
  | .target =>
    match rankOf? (bytesAsText bytes) with
    | some rank => some (.general rank)
    | none => some { Directive.general 5 with target := some bytes }
  | .rank start =>
    (rankAfterSign? (bytesAsText (bytes.drop start))).map fun rank => { draft.directive with rank }
  | .afterSpan => some draft.directive
  | _ => none

/-- A text without white space at its ends. -/
def trim (text : List Char) : List Char :=
  ((text.dropWhile isBlank).reverse.dropWhile isBlank).reverse

/-- The rule that a text without commas stands for. White space at its ends is passed over when the
signs in it are looked for, but their places are then counted from the first character, white or
not: after white space in front the parts are cut that much too early. -/
def directive? (text : List Char) : Option Directive := do
  let bytes := utf8Bytes (String.ofList text)
  match trim text with
  | [] => none
  | c :: rest => do
    let draft ← Draft.first? c
    let draft ← draft.read? bytes c.utf8Size rest
    draft.finish? bytes

/-- The filter that a text stands for. Between commas may be nothing; a text with nothing but
commas shows errors only. -/
def parse? (text : List Char) : Option Filter := do
  let directives ← ((text.splitOn ',').filter (!·.isEmpty)).mapM directive?
  return if directives.isEmpty then [.general 1] else directives

/-- The filter when none is given: verbose runs show all but the least important events, quiet
runs errors, and all others warnings. -/
def byDefault (verbose quiet : Bool) : Filter :=
  [.general (if verbose then 4 else if quiet then 1 else 2)]

/-- Whether a rule asks for nothing that is not known of an event. -/
def isDecidable (directive : Directive) : Bool :=
  !directive.inSpan && !directive.field.any FieldTest.hasValue

/-- The names of the fields of an event, its message among them. -/
def fieldNames (event : Event) : List String := "message" :: event.fields.map Prod.fst

/-- Whether a rule is about an event. -/
def fits (event : Event) (directive : Directive) : Bool :=
  isDecidable directive &&
    (directive.target.getD []).isPrefixOf (utf8Bytes event.area.target) &&
    directive.field.all fun test => (fieldNames event).any fun name => utf8Bytes name == test.name

/-- How narrow the target of a rule is. -/
def narrowness (directive : Directive) : Nat :=
  match directive.target with
  | some target => target.length + 1
  | none => 0

/-- Whether one rule is narrower than another: by its target, then by asking for a field, and last
by the name of the field. -/
def isNarrower (first second : Directive) : Bool :=
  narrowness second < narrowness first ||
    narrowness first == narrowness second &&
      match first.field, second.field with
      | some first, some second => second.name < first.name
      | some _, none => true
      | none, _ => false

/-- The narrower of two rules, the later one if neither is. -/
def narrower (found : Option Directive) (directive : Directive) : Option Directive :=
  match found with
  | none => some directive
  | some other => if isNarrower other directive then some other else some directive

/-- Whether an event is shown. -/
def shows (filter : Filter) (event : Event) : Bool :=
  match (filter.filter (fits event)).foldl narrower none with
  | some directive => event.level.rank ≤ directive.rank
  | none => false

/-- The filter for a run: the one that is given if it can be read, else the default. -/
def ofSetting (setting : Option String) (verbose quiet : Bool) : Filter :=
  (setting.bind fun text => parse? text.toList).getD (byDefault verbose quiet)

end Filter

end LintReport
