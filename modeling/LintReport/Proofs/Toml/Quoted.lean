import Mathlib.Algebra.Group.Nat.Defs
import LintReport.Toml.Document
import LintReport.Proofs.Json.Spelled

/-!
# Basic strings

What may stand between the quotes of a basic string, said without a reader: a character stands for
itself or is written as an escape, by a letter or by its number in four or eight hexadecimal digits
(`Toml.Spelling`). Every string can be spelled (`Toml.exists_spelling`), and whatever is spelled is
read, up to the closing quote (`Toml.Spelling.readValue`). So a document of a header and a line with
such a string is the table of that string (`Toml.parse_section`).
-/

namespace LintReport.Toml

open Json.Text (HexDigit)

/-- Hexadecimal digits and their number. -/
inductive Hexadecimal : List Char → Nat → Prop
  | none : Hexadecimal [] 0
  | more {digits : List Char} {n digit : Nat} {c : Char} (before : Hexadecimal digits n)
      (last : HexDigit c digit) : Hexadecimal (digits ++ [c]) (16 * n + digit)

/-- The letters that stand for a character when a backslash is in front of them. -/
def shortEscapes : List (Char × Char) :=
  [('b', '\x08'), ('t', '\t'), ('n', '\n'), ('f', '\x0c'), ('r', '\r'), ('"', '"'), ('\\', '\\')]

/-- What may follow a backslash, and the character that it stands for. -/
inductive Escape : List Char → Char → Prop
  | short {letter c : Char} (stands : (letter, c) ∈ shortEscapes) : Escape [letter] c
  | four {digits : List Char} {c : Char} (hex : Hexadecimal digits c.toNat)
      (four : digits.length = 4) : Escape ('u' :: digits) c
  | eight {digits : List Char} {c : Char} (hex : Hexadecimal digits c.toNat)
      (eight : digits.length = 8) : Escape ('U' :: digits) c

/-- What may stand between the quotes of a basic string, and the characters that it spells. Tabs,
but no other control characters, stand for themselves. -/
inductive Spelling : List Char → List Char → Prop
  | none : Spelling [] []
  | plain {c : Char} {letters chars : List Char} (quote : c ≠ '"') (backslash : c ≠ '\\')
      (visible : c = '\t' ∨ 0x20 ≤ c.toNat ∧ c.toNat ≠ 0x7f) (others : Spelling letters chars) :
      Spelling (c :: letters) (c :: chars)
  | escaped {escape : List Char} {c : Char} {letters chars : List Char} (stands : Escape escape c)
      (others : Spelling letters chars) : Spelling ('\\' :: (escape ++ letters)) (c :: chars)

/-! ## Every string can be spelled -/

/-- Every number that fits is written with so many hexadecimal digits. -/
theorem exists_hexadecimal (count : Nat) : ∀ n < 16 ^ count,
    ∃ digits : List Char, Hexadecimal digits n ∧ digits.length = count := by
  induction count with
  | zero =>
      intro n small
      obtain rfl : n = 0 := Nat.lt_one_iff.mp small
      exact ⟨[], .none, rfl⟩
  | succ count ih =>
      intro n small
      obtain ⟨digits, hex, length⟩ := ih (n / 16) (by omega)
      have last : HexDigit (Nat.digitChar (n % 16)) (n % 16) := .lower (Nat.mod_lt n (by decide))
      refine ⟨digits ++ [Nat.digitChar (n % 16)], ?_, ?_⟩
      · have whole := Hexadecimal.more hex last
        rwa [Nat.div_add_mod] at whole
      · rw [List.length_append, length, List.length_singleton]

/-- **Every string can be spelled.** Eight digits do for any character. -/
theorem exists_spelling (chars : List Char) : ∃ letters, Spelling letters chars := by
  induction chars with
  | nil => exact ⟨[], .none⟩
  | cons c chars ih =>
      obtain ⟨letters, others⟩ := ih
      have small : c.toNat < 16 ^ 8 := by
        have scalar : c.toNat < 0xd800 ∨ 0xdfff < c.toNat ∧ c.toNat < 0x110000 := c.valid
        omega
      obtain ⟨digits, hex, eight⟩ := exists_hexadecimal 8 c.toNat small
      exact ⟨_, .escaped (.eight hex eight) others⟩

/-! ## What is spelled is read -/

/-- Hexadecimal digits are read as the number that they stand for. -/
theorem Hexadecimal.value {digits : List Char} {n : Nat} (hex : Hexadecimal digits n) :
    Decimal.hexValue? digits = some n := by
  induction hex with
  | none => rfl
  | @more digits n digit c _ last ih =>
      unfold Decimal.hexValue? at ih ⊢
      simp only [List.foldlM_append, ih, List.foldlM_cons, List.foldlM_nil, last.value,
        Option.map_some, Option.bind_eq_bind, Option.bind_some, Option.pure_def]

/-- The hexadecimal digits of a character are read as the character. -/
theorem Hexadecimal.readCodePoint {digits : List Char} {c : Char}
    (hex : Hexadecimal digits c.toNat) (rest : List Char) :
    readCodePoint digits.length (digits ++ rest) = .ok (c, rest) := by
  have scalar : c.toNat.isValidChar := c.valid
  simp only [Toml.readCodePoint, List.take_left, List.drop_left, hex.value, scalar, and_self,
    ↓reduceIte, Char.ofNat_toNat]

/-- An escape is read as the character that it stands for. -/
theorem Escape.readEscape {escape : List Char} {c : Char} (stands : Escape escape c)
    (rest : List Char) : readEscape (escape ++ rest) = .ok (c, rest) := by
  cases stands with
  | short stands =>
      simp only [shortEscapes, List.mem_cons, Prod.mk.injEq, List.not_mem_nil, or_false] at stands
      rcases stands with ⟨rfl, rfl⟩ | ⟨rfl, rfl⟩ | ⟨rfl, rfl⟩ | ⟨rfl, rfl⟩ | ⟨rfl, rfl⟩ |
        ⟨rfl, rfl⟩ | ⟨rfl, rfl⟩ <;> rfl
  | four hex four =>
      have reads := hex.readCodePoint rest
      rw [four] at reads
      simpa only [List.cons_append, Toml.readEscape, ↓reduceIte] using reads
  | eight hex eight =>
      have reads := hex.readCodePoint rest
      have marked : ('U' : Char) ≠ 'u' := by decide
      rw [eight] at reads
      simpa only [List.cons_append, Toml.readEscape, marked, ↓reduceIte] using reads

variable {letters chars : List Char}

/-- A quote stands nowhere in what is spelled but in an escape. -/
theorem Spelling.head?_ne (spelling : Spelling letters chars) : letters.head? ≠ some '"' := by
  cases spelling with
  | none => exact (Option.some_ne_none _).symm
  | plain quote _ _ _ => exact fun same => quote (Option.some.inj same)
  | escaped _ _ => exact fun same => absurd (Option.some.inj same) (by decide)

/-- A spelling between quotes is read as the characters that it spells. -/
theorem Spelling.readBasic (spelling : Spelling letters chars) (rest : List Char) :
    ∀ (steps : Nat) (before : List Char), letters.length < steps →
      readBasic steps before (letters ++ '"' :: rest) = .ok (before.reverse ++ chars, rest) := by
  induction spelling with
  | none =>
      intro steps before enough
      obtain ⟨fewer, rfl⟩ := Nat.exists_eq_add_one_of_ne_zero (Nat.ne_zero_of_lt enough)
      rw [List.append_nil]
      rfl
  | @plain c letters chars quote backslash visible _ ih =>
      intro steps before enough
      obtain ⟨fewer, rfl⟩ := Nat.exists_eq_add_one_of_ne_zero (Nat.ne_zero_of_lt enough)
      have isPlain : isPlain c = true := by
        simpa only [Toml.isPlain, Bool.or_eq_true, Bool.and_eq_true, beq_iff_eq, bne_iff_ne,
          decide_eq_true_eq] using visible
      simp only [List.cons_append, Toml.readBasic, quote, backslash, isPlain, ↓reduceIte]
      rw [ih fewer (c :: before) (Nat.lt_of_succ_lt_succ enough), List.reverse_cons,
        List.append_assoc, List.singleton_append]
  | @escaped escape c letters chars stands _ ih =>
      intro steps before enough
      obtain ⟨fewer, rfl⟩ := Nat.exists_eq_add_one_of_ne_zero (Nat.ne_zero_of_lt enough)
      have noQuote : ('\\' : Char) ≠ '"' := by decide
      simp only [List.length_cons, List.length_append] at enough
      simp only [List.cons_append, List.append_assoc, Toml.readBasic, noQuote, ↓reduceIte,
        stands.readEscape, Steps.ok_bind]
      rw [ih fewer (c :: before) (by omega), List.reverse_cons, List.append_assoc,
        List.singleton_append]

/-- Quotes that are not the first of three open a string on one line. -/
theorem Spelling.readText (spelling : Spelling letters chars) {rest : List Char}
    (ends : rest.head? ≠ some '"') :
    readText '"' (letters ++ '"' :: rest) = .ok (String.ofList chars, rest) := by
  have short : readShortText '"' (letters ++ '"' :: rest) = .ok (String.ofList chars, rest) := by
    have enough : letters.length < (letters ++ '"' :: rest).length + 1 := by
      rw [List.length_append]
      omega
    simp only [readShortText, ↓reduceIte, spelling.readBasic rest _ [] enough, Steps.ok_bind,
      List.reverse_nil, List.nil_append, Steps.pure_eq_ok]
  rw [← short]
  unfold Toml.readText
  split
  · next second third left split =>
      rw [if_neg]
      rintro ⟨rfl, rfl⟩
      cases letters with
      | nil =>
          cases split
          exact ends rfl
      | cons first letters =>
          obtain ⟨rfl, _⟩ := List.cons.inj split
          exact spelling.head?_ne rfl
  · rfl

/-- **A spelled string between quotes is read as a value.** -/
theorem Spelling.readValue (spelling : Spelling letters chars) {rest : List Char}
    (ends : rest.head? ≠ some '"') (depth : Nat) :
    readValue depth ('"' :: (letters ++ '"' :: rest)) =
      .ok (.string (.between ('"' :: (letters ++ '"' :: rest)) rest) (String.ofList chars), rest) := by
  unfold Toml.readValue
  simp only [true_or, ↓reduceIte, spelling.readText ends, Steps.ok_bind, Steps.pure_eq_ok]

/-! ## A table with one string -/

/-- A key that needs no quotes. -/
structure Bare (name : List Char) : Prop where
  nonempty : name ≠ []
  only : ∀ c ∈ name, isBare c = true

/-- No character of a bare key is a gap. -/
theorem isGap_eq_false_of_isBare {c : Char} (bare : isBare c = true) : isGap c = false := by
  unfold isGap
  rw [Bool.or_eq_false_iff, beq_eq_false_iff_ne, beq_eq_false_iff_ne]
  constructor
  · rintro rfl
    exact absurd bare (by decide)
  · rintro rfl
    exact absurd bare (by decide)

/-- What a bare key begins with is no mark. -/
theorem ne_of_isBare {c mark : Char} (bare : isBare c = true) (other : isBare mark = false) :
    c ≠ mark := by
  rintro rfl
  exact Bool.false_ne_true (other.symm.trans bare)

variable {name : List Char} {stop : Char}

/-- In front of a bare key there is no gap to skip. -/
theorem Bare.skipGaps (bare : Bare name) (rest : List Char) :
    skipGaps (name ++ rest) = name ++ rest := by
  obtain ⟨c, more, rfl⟩ := List.exists_cons_of_ne_nil bare.nonempty
  have first := isGap_eq_false_of_isBare (bare.only c List.mem_cons_self)
  exact List.dropWhile_cons_of_neg (Bool.eq_false_iff.mp first)

/-- A bare key is read up to the first character that it cannot hold. -/
theorem Bare.readKeyPart (bare : Bare name) (ends : isBare stop = false) (behind : List Char) :
    readKeyPart (name ++ stop :: behind) =
      .ok (⟨String.ofList name, .between (name ++ stop :: behind) (stop :: behind)⟩,
        stop :: behind) := by
  have taken : (name ++ stop :: behind).takeWhile isBare = name := by
    rw [List.takeWhile_append_of_pos bare.only,
      List.takeWhile_cons_of_neg (Bool.eq_false_iff.mp ends), List.append_nil]
  have dropped : (name ++ stop :: behind).dropWhile isBare = stop :: behind := by
    rw [List.dropWhile_append_of_pos bare.only,
      List.dropWhile_cons_of_neg (Bool.eq_false_iff.mp ends)]
  obtain ⟨c, more, rfl⟩ := List.exists_cons_of_ne_nil bare.nonempty
  have first := bare.only c List.mem_cons_self
  have quote : c ≠ '"' := ne_of_isBare first (by decide)
  have literal : c ≠ apostrophe := ne_of_isBare first (by decide)
  rw [List.cons_append] at taken dropped ⊢
  simp only [Toml.readKeyPart, quote, literal, or_self, ↓reduceIte, first, taken, dropped,
    Steps.ok_bind, Steps.pure_eq_ok]

/-- A bare key is all of a path if no dot follows. -/
theorem Bare.readKeys (bare : Bare name) (ends : isBare stop = false) {mark : Char}
    {behind left : List Char} (gaps : Toml.skipGaps (stop :: behind) = mark :: left)
    (last : mark ≠ '.') :
    readKeys (name ++ stop :: behind) =
      .ok ([⟨String.ofList name, .between (name ++ stop :: behind) (stop :: behind)⟩],
        mark :: left) := by
  have path : readAllKeys (name ++ stop :: behind) =
      .ok ([⟨String.ofList name, .between (name ++ stop :: behind) (stop :: behind)⟩],
        mark :: left) := by
    unfold readAllKeys readPath
    simp only [bare.skipGaps, bare.readKeyPart ends, Steps.ok_bind, gaps]
    split
    · next dotted =>
        cases dotted
        exact absurd rfl last
    · rfl
  rw [Toml.readKeys, path]
  rfl

/-- The header of a table begins it. -/
theorem Bare.readLine_header (bare : Bare name) (left : List Char) :
    ∃ first second, readLine ('[' :: (name ++ ']' :: '\n' :: left)) .empty =
      .ok (⟨[], [⟨String.ofList name, first⟩], false, some second, []⟩, left) := by
  have header (text : List Char) : readHeader text (name ++ ']' :: '\n' :: left) .empty =
      .ok (⟨[], [⟨String.ofList name, .between (name ++ ']' :: '\n' :: left) (']' :: '\n' :: left)⟩],
        false, some (.between text ('\n' :: left)), []⟩, left) := by
    unfold readHeader
    rw [bare.readKeys (by decide) rfl (by decide)]
    rfl
  obtain ⟨c, more, rfl⟩ := List.exists_cons_of_ne_nil bare.nonempty
  have first : c ≠ '[' := ne_of_isBare (bare.only c List.mem_cons_self) (by decide)
  unfold readLine
  split
  · next doubled =>
      cases doubled
      exact absurd rfl first
  · next again =>
      cases again
      exact ⟨_, _, header _⟩
  · next comment => cases comment
  · next single _ => exact absurd rfl (single _)

/-- A line that begins with a bare key is an entry. -/
theorem Bare.readLine_entry (bare : Bare name) (rest : List Char) (assembly : Assembly) :
    readLine (name ++ rest) assembly = readEntry (name ++ rest) assembly := by
  obtain ⟨c, more, rfl⟩ := List.exists_cons_of_ne_nil bare.nonempty
  have only := bare.only c List.mem_cons_self
  unfold readLine
  split
  · next doubled =>
      obtain ⟨rfl, _⟩ := List.cons.inj doubled
      exact absurd only (by decide)
  · next header =>
      obtain ⟨rfl, _⟩ := List.cons.inj header
      exact absurd only (by decide)
  · next comment =>
      obtain ⟨rfl, _⟩ := List.cons.inj comment
      exact absurd only (by decide)
  · have noEnd : lineEnd? (c :: more ++ rest) = none := by
      unfold lineEnd?
      split
      · next feed =>
          obtain ⟨rfl, _⟩ := List.cons.inj feed
          exact absurd only (by decide)
      · next carriage =>
          obtain ⟨rfl, _⟩ := List.cons.inj carriage
          exact absurd only (by decide)
      · rfl
    rw [noEnd]

/-- A bare key and a string are an entry of the table under a header. -/
theorem Spelling.readLine (spelling : Spelling letters chars) (bare : Bare name)
    {ending : List Char} (ends : ending = [] ∨ ending = ['\n']) (path : List Key) (span : Span) :
    ∃ first second third,
      readLine (name ++ ' ' :: '=' :: ' ' :: '"' :: (letters ++ '"' :: ending))
          ⟨[], path, false, some span, []⟩ =
        .ok (⟨[], path, false, third,
          [(⟨String.ofList name, first⟩, .string second (String.ofList chars))]⟩, []) := by
  have apart : ending.head? ≠ some '"' := by
    rcases ends with rfl | rfl <;> decide
  have closed : skipLineEnd ending = .ok [] := by
    rcases ends with rfl | rfl <;> rfl
  rw [bare.readLine_entry]
  unfold readEntry readPair
  rw [bare.readKeys (by decide) rfl (by decide)]
  simp only [Steps.ok_bind, readMark, ↓reduceIte]
  have value : skipGaps (' ' :: '"' :: (letters ++ '"' :: ending)) =
    '"' :: (letters ++ '"' :: ending) := rfl
  rw [value, spelling.readValue apart]
  simp only [Steps.ok_bind, Steps.pure_eq_ok, closed]
  exact ⟨_, _, _, rfl⟩

/-- A line that is read leaves the others to be read. -/
theorem readLines_of_readLine {text left : List Char} {assembly further : Assembly}
    (some : text ≠ []) (begins : skipGaps text = text)
    (reads : readLine text assembly = .ok (further, left)) (steps : Nat) :
    readLines (steps + 1) text assembly = readLines steps left further := by
  obtain ⟨c, rest, rfl⟩ := List.exists_cons_of_ne_nil some
  rw [readLines, begins]
  simp only [reads, Steps.ok_bind]

/-- **A document of a header and a line with a string is the table of that string.** -/
theorem parse_section (spelling : Spelling letters chars) {table key : List Char}
    (header : Bare table) (bare : Bare key) {ending : List Char}
    (ends : ending = [] ∨ ending = ['\n']) :
    ∃ first second third fourth,
      parse ('[' :: (table ++ ']' :: '\n' ::
          (key ++ ' ' :: '=' :: ' ' :: '"' :: (letters ++ '"' :: ending)))) =
        .ok [(⟨String.ofList table, first⟩, .table .headed second
          [(⟨String.ofList key, third⟩, .string fourth (String.ofList chars))])] := by
  let line := key ++ ' ' :: '=' :: ' ' :: '"' :: (letters ++ '"' :: ending)
  obtain ⟨first, headed, begins⟩ := header.readLine_header line
  obtain ⟨third, fourth, second, enters⟩ :=
    spelling.readLine bare ends [⟨String.ofList table, first⟩] headed
  refine ⟨first, second, third, fourth, ?_⟩
  let text := '[' :: (table ++ ']' :: '\n' :: line)
  have lines (steps : Nat) : readLines (steps + 3) text .empty =
      .ok ⟨[], [⟨String.ofList table, first⟩], false, second,
        [(⟨String.ofList key, third⟩, .string fourth (String.ofList chars))]⟩ := by
    rw [readLines_of_readLine (List.cons_ne_nil _ _) rfl begins,
      readLines_of_readLine (List.append_ne_nil_of_left_ne_nil bare.nonempty _)
        (bare.skipGaps _) enters]
    rfl
  obtain ⟨steps, enough⟩ : ∃ steps, text.length + 1 = steps + 3 := by
    simp only [text, List.length_cons, List.length_append]
    exact ⟨_, rfl⟩
  calc parse text
    _ = (do
        let assembly ← readLines (text.length + 1) text .empty
        assembly.finish) := rfl
    _ = _ := by
        rw [enough, lines]
        rfl

end LintReport.Toml
