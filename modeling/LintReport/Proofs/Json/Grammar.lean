import LintReport.Json.Numeral

/-!
# The grammar of JSON texts

What a JSON text is, said without a reader. Each relation takes a text, what stands at its beginning,
and the rest that is left. Values are kept as they are written (`Json.Written`), so that numerals
may be of any size, values nested to any depth, and keys repeated. Strings are sequences of
characters: an escape for half of a character is part of no string. A text is a document when it is a
value with blanks around it (`Json.Document`).
-/

namespace LintReport.Json

/-- A value as it is written. Numerals stand for themselves, and an object has a member as often as
it is written. -/
inductive Written where
  | null
  | boolean (b : Bool)
  | number (numeral : Numeral)
  | string (s : String)
  | list (items : List Written)
  | object (members : List (String × Written))

/-- The string that a value is, if it is one. -/
def Written.text? : Written → Option String
  | .string s => some s
  | _ => none

theorem Written.text?_eq_some {v : Written} {s : String} : v.text? = some s ↔ v = .string s := by
  cases v <;> simp only [text?, Option.some.injEq, reduceCtorEq, Written.string.injEq]

/-- Spaces, tabs and line ends, or nothing. -/
inductive Blanks : List Char → List Char → Prop
  | none {rest : List Char} : Blanks rest rest
  | more {c : Char} {text rest : List Char} (blank : c ∈ [' ', '\t', '\n', '\r'])
      (others : Blanks text rest) : Blanks (c :: text) rest

/-- Blanks are the same whatever follows the rest of the text. -/
theorem Blanks.append {text rest : List Char} (blanks : Blanks text rest) (more : List Char) :
    Blanks (text ++ more) (rest ++ more) := by
  induction blanks with
  | none => exact .none
  | more blank _ ih => exact .more blank ih

namespace Text

/-- A hexadecimal digit in either case, and its value. -/
inductive HexDigit : Char → Nat → Prop
  | lower {digit : Nat} (small : digit < 16) : HexDigit (Nat.digitChar digit) digit
  | upper {digit : Nat} (small : digit < 16) : HexDigit (Nat.digitChar digit).toUpper digit

/-- Four hexadecimal digits, and their value. -/
inductive Quad : List Char → Nat → List Char → Prop
  | digits {a b c d : Char} {i j k l : Nat} {rest : List Char} (first : HexDigit a i)
      (second : HexDigit b j) (third : HexDigit c k) (fourth : HexDigit d l) :
      Quad (a :: b :: c :: d :: rest) (((i * 16 + j) * 16 + k) * 16 + l) rest

/-- The letters that stand for a character when a backslash is in front of them. -/
def shortEscapes : List (Char × Char) :=
  [('"', '"'), ('\\', '\\'), ('/', '/'), ('b', '\x08'), ('f', '\x0c'), ('n', '\n'), ('r', '\r'),
    ('t', '\t')]

/-- The characters of a string up to its closing quote. A character stands for itself or is written
as an escape: as a letter, by its number, or, if that has more than sixteen bits, by a pair of
surrogates. -/
inductive Letters : List Char → List Char → List Char → Prop
  | close {rest : List Char} : Letters ('"' :: rest) [] rest
  | plain {c : Char} {text chars rest : List Char} (quote : c ≠ '"') (backslash : c ≠ '\\')
      (visible : 0x20 ≤ c.toNat) (others : Letters text chars rest) :
      Letters (c :: text) (c :: chars) rest
  | short {letter c : Char} {text chars rest : List Char} (stands : (letter, c) ∈ shortEscapes)
      (others : Letters text chars rest) : Letters ('\\' :: letter :: text) (c :: chars) rest
  | unit {unit : Nat} {text behind chars rest : List Char} (quad : Quad text unit behind)
      (scalar : unit < 0xD800 ∨ 0xDFFF < unit) (others : Letters behind chars rest) :
      Letters ('\\' :: 'u' :: text) (Char.ofNat unit :: chars) rest
  | pair {leading trailing : Nat} {text between behind chars rest : List Char}
      (first : Quad text leading ('\\' :: 'u' :: between)) (second : Quad between trailing behind)
      (leads : 0xD800 ≤ leading ∧ leading ≤ 0xDBFF)
      (trails : 0xDC00 ≤ trailing ∧ trailing ≤ 0xDFFF) (others : Letters behind chars rest) :
      Letters ('\\' :: 'u' :: text)
        (Char.ofNat (0x10000 + (leading - 0xD800) * 0x400 + (trailing - 0xDC00)) :: chars) rest

theorem Quad.append {text rest : List Char} {unit : Nat} (quad : Quad text unit rest)
    (more : List Char) : Quad (text ++ more) unit (rest ++ more) := by
  cases quad with
  | digits first second third fourth => exact .digits first second third fourth

/-- A string is the same string with more behind it. -/
theorem Letters.append {text chars rest : List Char} (letters : Letters text chars rest)
    (more : List Char) : Letters (text ++ more) chars (rest ++ more) := by
  induction letters with
  | close => exact .close
  | plain quote backslash visible _ ih => exact .plain quote backslash visible ih
  | short stands _ ih => exact .short stands ih
  | unit quad scalar _ ih => exact .unit (quad.append more) scalar ih
  | pair first second leads trails _ ih =>
      exact .pair (first.append more) (second.append more) leads trails ih

/-- Characters that need no escape stand for themselves. -/
theorem Letters.of_plain (chars rest : List Char)
    (plain : ∀ c ∈ chars, c ≠ '"' ∧ c ≠ '\\' ∧ 0x20 ≤ c.toNat) :
    Letters (chars ++ '"' :: rest) chars rest := by
  induction chars with
  | nil => exact .close
  | cons c chars ih =>
      obtain ⟨⟨quote, backslash, visible⟩, others⟩ := List.forall_mem_cons.mp plain
      exact .plain quote backslash visible (ih others)

end Text

namespace Numeral

/-- One or more decimal digits. -/
structure Digits (text run rest : List Char) : Prop where
  nonempty : run ≠ []
  only : ∀ c ∈ run, c.isDigit = true
  split : text = run ++ rest

/-- The digits before the point: a zero stands in front of no other digit. -/
structure WholePart (text run rest : List Char) : Prop extends Digits text run rest where
  leading : run.head? = some '0' → run = ['0']

/-- A point and digits, or nothing. -/
inductive Fraction : List Char → Option (List Char) → List Char → Prop
  | absent {rest : List Char} : Fraction rest none rest
  | digits {text run rest : List Char} (digits : Digits text run rest) :
      Fraction ('.' :: text) (some run) rest

/-- A mark, perhaps a sign, and digits, or nothing; true stands for a minus sign. -/
inductive Exponent : List Char → Option (Bool × List Char) → List Char → Prop
  | absent {rest : List Char} : Exponent rest none rest
  | plain {mark : Char} {text run rest : List Char} (isMark : mark = 'e' ∨ mark = 'E')
      (digits : Digits text run rest) : Exponent (mark :: text) (some (false, run)) rest
  | plus {mark : Char} {text run rest : List Char} (isMark : mark = 'e' ∨ mark = 'E')
      (digits : Digits text run rest) : Exponent (mark :: '+' :: text) (some (false, run)) rest
  | minus {mark : Char} {text run rest : List Char} (isMark : mark = 'e' ∨ mark = 'E')
      (digits : Digits text run rest) : Exponent (mark :: '-' :: text) (some (true, run)) rest

/-- A numeral with its parts. -/
inductive Stands : List Char → Numeral → List Char → Prop
  | plain {text point mark rest whole : List Char} {fraction : Option (List Char)}
      {exponent : Option (Bool × List Char)} (front : WholePart text whole point)
      (middle : Fraction point fraction mark) (back : Exponent mark exponent rest) :
      Stands text ⟨false, whole, fraction, exponent⟩ rest
  | minus {text point mark rest whole : List Char} {fraction : Option (List Char)}
      {exponent : Option (Bool × List Char)} (front : WholePart text whole point)
      (middle : Fraction point fraction mark) (back : Exponent mark exponent rest) :
      Stands ('-' :: text) ⟨true, whole, fraction, exponent⟩ rest

section Append

variable {text rest : List Char}

theorem Digits.append {run : List Char} (digits : Digits text run rest) (more : List Char) :
    Digits (text ++ more) run (rest ++ more) where
  nonempty := digits.nonempty
  only := digits.only
  split := by rw [digits.split, List.append_assoc]

theorem Fraction.append {fraction : Option (List Char)} (point : Fraction text fraction rest)
    (more : List Char) : Fraction (text ++ more) fraction (rest ++ more) := by
  cases point with
  | absent => exact .absent
  | digits digits => exact .digits (digits.append more)

theorem Exponent.append {exponent : Option (Bool × List Char)} (mark : Exponent text exponent rest)
    (more : List Char) : Exponent (text ++ more) exponent (rest ++ more) := by
  cases mark with
  | absent => exact .absent
  | plain isMark digits => exact .plain isMark (digits.append more)
  | plus isMark digits => exact .plus isMark (digits.append more)
  | minus isMark digits => exact .minus isMark (digits.append more)

/-- A numeral is the same numeral with more behind it. -/
theorem Stands.append {numeral : Numeral} (stands : Stands text numeral rest)
    (more : List Char) : Stands (text ++ more) numeral (rest ++ more) := by
  cases stands with
  | plain front middle back =>
      exact .plain ⟨front.toDigits.append more, front.leading⟩ (middle.append more)
        (back.append more)
  | minus front middle back =>
      exact .minus ⟨front.toDigits.append more, front.leading⟩ (middle.append more)
        (back.append more)

end Append

end Numeral

/-- What the rules of the grammar speak about: a value, a value with blanks around it, what stands
between the brackets of a list that is not empty, a member, and what stands between the braces of
an object that is not empty. -/
inductive Part where
  | value (v : Written)
  | element (v : Written)
  | items (vs : List Written)
  | member (m : String × Written)
  | members (ms : List (String × Written))

/-- **The grammar.** -/
inductive Spells : Part → List Char → List Char → Prop
  | null {rest : List Char} : Spells (.value .null) ('n' :: 'u' :: 'l' :: 'l' :: rest) rest
  | yes {rest : List Char} :
      Spells (.value (.boolean true)) ('t' :: 'r' :: 'u' :: 'e' :: rest) rest
  | no {rest : List Char} :
      Spells (.value (.boolean false)) ('f' :: 'a' :: 'l' :: 's' :: 'e' :: rest) rest
  | number {text rest : List Char} {numeral : Numeral}
      (stands : Numeral.Stands text numeral rest) : Spells (.value (.number numeral)) text rest
  | string {text chars rest : List Char} (letters : Text.Letters text chars rest) :
      Spells (.value (.string (String.ofList chars))) ('"' :: text) rest
  | emptyList {text rest : List Char} (blanks : Blanks text (']' :: rest)) :
      Spells (.value (.list [])) ('[' :: text) rest
  | list {text rest : List Char} {vs : List Written}
      (items : Spells (.items vs) text (']' :: rest)) :
      Spells (.value (.list vs)) ('[' :: text) rest
  | emptyObject {text rest : List Char} (blanks : Blanks text ('}' :: rest)) :
      Spells (.value (.object [])) ('{' :: text) rest
  | object {text rest : List Char} {ms : List (String × Written)}
      (members : Spells (.members ms) text ('}' :: rest)) :
      Spells (.value (.object ms)) ('{' :: text) rest
  | element {text start stop rest : List Char} {v : Written} (before : Blanks text start)
      (value : Spells (.value v) start stop) (after : Blanks stop rest) :
      Spells (.element v) text rest
  | lastItem {text rest : List Char} {v : Written} (item : Spells (.element v) text rest) :
      Spells (.items [v]) text rest
  | item {text more rest : List Char} {v : Written} {vs : List Written}
      (item : Spells (.element v) text (',' :: more)) (others : Spells (.items vs) more rest) :
      Spells (.items (v :: vs)) text rest
  | member {text start chars stop behind rest : List Char} {v : Written}
      (before : Blanks text ('"' :: start)) (key : Text.Letters start chars stop)
      (colon : Blanks stop (':' :: behind)) (value : Spells (.element v) behind rest) :
      Spells (.member (String.ofList chars, v)) text rest
  | lastMember {text rest : List Char} {m : String × Written}
      (member : Spells (.member m) text rest) : Spells (.members [m]) text rest
  | nextMember {text more rest : List Char} {m : String × Written} {ms : List (String × Written)}
      (member : Spells (.member m) text (',' :: more)) (others : Spells (.members ms) more rest) :
      Spells (.members (m :: ms)) text rest

/-- A text that is one value with blanks around it. -/
def Document (text : String) (value : Written) : Prop := Spells (.element value) text.toList []

end LintReport.Json
