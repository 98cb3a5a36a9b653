import LintReport.Text.Utf8

/-!
# Texts without control sequences

Control characters can move the cursor of a terminal, colour what follows, or rename the window.
What a user has typed is shown without them: every control character save white space is left
out, and so is every control sequence, which an escape character begins. The sequences are those of
the ANSI terminals. They are recognized byte by byte, as a terminal would.
-/

namespace LintReport.Terminal

/-- Where in a control sequence a byte stands: outside of any, after an escape character, after
signs that follow it, in a sequence with parameters, in the head of a device string, in the body of
one or of another string, or in a title. -/
inductive Place where
  | text
  | escape
  | escapeSigns
  | parameters
  | deviceStart
  | deviceParameters
  | deviceSigns
  | body
  | title
  deriving DecidableEq, Repr

/-- The control bytes that a sequence may have in it. -/
def isControl (byte : UInt8) : Bool := byte < 0x20 && byte != 0x18 && byte != 0x1A && byte != 0x1B

/-- White space of ASCII without the vertical tab. -/
def isSpace (byte : UInt8) : Bool :=
  byte == 0x20 || byte == 0x09 || byte == 0x0A || byte == 0x0C || byte == 0x0D

/-- How many bytes follow the first byte of a character beyond ASCII. -/
def following (byte : UInt8) : Nat :=
  if byte < 0xC2 then 0
  else if byte < 0xE0 then 1
  else if byte < 0xF0 then 2
  else if byte < 0xF5 then 3
  else 0

/-- The place after a byte. Cancelling bytes end, and escape characters begin, a sequence wherever
they stand. -/
def Place.next (place : Place) (byte : UInt8) : Place :=
  if byte = 0x18 ∨ byte = 0x1A then text
  else if byte = 0x1B then escape
  else
    match place with
    | text => text
    | escape =>
      if byte < 0x20 then escape
      else if byte < 0x30 then escapeSigns
      else if byte = 0x50 then deviceStart
      else if byte = 0x58 ∨ byte = 0x5E ∨ byte = 0x5F then body
      else if byte = 0x5B then parameters
      else if byte = 0x5D then title
      else if byte < 0x7F then text
      else escape
    | escapeSigns => if 0x30 ≤ byte ∧ byte < 0x7F then text else escapeSigns
    | parameters => if 0x40 ≤ byte ∧ byte < 0x7F then text else parameters
    | deviceStart =>
      if byte < 0x20 ∨ 0x7F ≤ byte then deviceStart
      else if byte < 0x30 then deviceSigns
      else if byte < 0x40 then deviceParameters
      else body
    | deviceParameters =>
      if byte < 0x20 ∨ 0x7F ≤ byte then deviceParameters
      else if byte < 0x30 then deviceSigns
      else if byte < 0x3C then deviceParameters
      else body
    | deviceSigns => if 0x30 ≤ byte ∧ byte < 0x7F then body else deviceSigns
    | body => if byte = 0x9C then text else body
    | title => if byte = 0x07 then text else title

/-- Whether a byte is shown at a place. White space shows within a sequence, too, unless it is one
that holds a string. -/
def Place.shows (place : Place) (byte : UInt8) : Bool :=
  match place with
  | text => isSpace byte || (0x20 ≤ byte && byte < 0x7F) || 0 < following byte
  | escape => isControl byte && isSpace byte
  | escapeSigns => isControl byte && isSpace byte
  | parameters => isControl byte && isSpace byte
  | _ => false

/-- A text that is being read: whether the last byte was shown, the place after it, and how many
bytes of a character are still to come. White space within a sequence interrupts it: what follows
is shown until the next byte that is not, and only then the sequence goes on. -/
structure Reading where
  showing : Bool
  place : Place
  remaining : Nat
  deriving DecidableEq, Repr

namespace Reading

/-- Nothing has been read. -/
def start : Reading := ⟨false, .text, 0⟩

/-- Takes in a byte that is shown. -/
def shown (place : Place) (byte : UInt8) : Reading :=
  let remaining := following byte
  ⟨true, if 0 < remaining then .text else place, remaining⟩

/-- The reading after a byte, and whether the byte is shown. -/
def step (reading : Reading) (byte : UInt8) : Bool × Reading :=
  match reading.remaining with
  | remaining + 1 => (true, { reading with remaining })
  | 0 =>
    if reading.showing then
      if Place.text.shows byte then (true, shown reading.place byte)
      else
        let place := if byte = 0x18 ∨ byte = 0x1A ∨ byte = 0x1B then Place.text.next byte
          else reading.place
        (false, ⟨false, place.next byte, 0⟩)
    else if reading.place.shows byte then (true, shown reading.place byte)
    else (false, ⟨false, reading.place.next byte, 0⟩)

/-- The bytes that are shown. -/
def visible (reading : Reading) : List UInt8 → List UInt8
  | [] => []
  | byte :: rest =>
    let (isShown, next) := reading.step byte
    if isShown then byte :: next.visible rest else next.visible rest

end Reading

/-- A text as it is shown. -/
def visible (text : String) : String :=
  (ofUtf8Bytes? (Reading.start.visible (utf8Bytes text))).getD ""

end LintReport.Terminal
