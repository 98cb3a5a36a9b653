import LintReport.Json.Text
import LintReport.Proofs.Steps

/-!
# Reading written strings

A written string is read back as the same string, and what follows its closing quote is left
alone (`Text.read_write`). The reader takes one character at a time, so the argument is about one:
whatever stands for a character in a written string, plain, as a short escape or as four
hexadecimal digits, is read as that character (`Text.readRest_escape`).
-/

namespace LintReport

/-- The character of a digit below sixteen is read as that digit. -/
theorem Decimal.hexDigit?_digitChar {digit : Nat} (small : digit < 16) :
    hexDigit? (Nat.digitChar digit) = some digit := by
  have all : ∀ digit < 16, hexDigit? (Nat.digitChar digit) = some digit := by decide
  exact all digit small

namespace Json.Text

/-- The four digits of a number below `2^8`, two of them zero, are one unit. -/
theorem readUnit_low {unit : Nat} (low : unit < 0x100) (rest : List Char) :
    readUnit ('0' :: '0' :: Nat.digitChar (unit / 16) :: Nat.digitChar (unit % 16) :: rest) =
      .ok (unit, rest) := by
  have value : Decimal.hexValue?
      ['0', '0', Nat.digitChar (unit / 16), Nat.digitChar (unit % 16)] = some unit := by
    have zero : Decimal.hexDigit? '0' = some 0 := by decide
    simp only [Decimal.hexValue?, List.foldlM_cons, List.foldlM_nil, zero,
      Decimal.hexDigit?_digitChar (show unit / 16 < 16 by omega),
      Decimal.hexDigit?_digitChar (show unit % 16 < 16 by omega), Option.map_some,
      Option.bind_eq_bind, Option.bind_some, Option.pure_def, Option.some.injEq]
    omega
  have four : ¬ (rest.length + 1 + 1 + 1 + 1 < 4) := by omega
  simp only [readUnit, List.take_succ_cons, List.take_zero, value, List.length_cons, four,
    ↓reduceIte, List.drop_succ_cons, List.drop_zero]

/-- The four hexadecimal digits that are written for a control character stand for it. -/
theorem readEscape_control {c : Char} (control : c.toNat < 0x20) (rest : List Char) :
    readEscape ('u' :: '0' :: '0' :: Nat.digitChar (c.toNat / 16) ::
      Nat.digitChar (c.toNat % 16) :: rest) = .ok (c, rest) := by
  have trailing : isTrailing c.toNat = false := by
    simp only [isTrailing, Bool.and_eq_false_iff, decide_eq_false_iff_not]
    omega
  have leading : isLeading c.toNat = false := by
    simp only [isLeading, Bool.and_eq_false_iff, decide_eq_false_iff_not]
    omega
  simp only [readEscape, ↓reduceIte, readUnicode, readUnit_low (show c.toNat < 0x100 by omega),
    Steps.ok_bind, trailing, leading, Bool.false_eq_true, Char.ofNat_toNat, Steps.pure_eq_ok]

/-- A character is written as a backslash and a letter, by the digits of its number when it is
another control character, or as it is. -/
theorem escape_cases (c : Char) :
    (∃ letter, escape c = ['\\', letter] ∧ letter ≠ 'u' ∧ unescape? letter = some c) ∨
    (c.toNat < 0x20 ∧ escape c =
      ['\\', 'u', '0', '0', Nat.digitChar (c.toNat / 16), Nat.digitChar (c.toNat % 16)]) ∨
    (escape c = [c] ∧ c ≠ '"' ∧ c ≠ '\\' ∧ 0x20 ≤ c.toNat) := by
  by_cases short : c ∈ ['"', '\\', '\x08', '\x0c', '\n', '\r', '\t']
  · left
    simp only [List.mem_cons, List.not_mem_nil, or_false] at short
    rcases short with rfl | rfl | rfl | rfl | rfl | rfl | rfl <;>
      exact ⟨_, rfl, by decide, by decide⟩
  · right
    simp only [List.mem_cons, List.not_mem_nil, or_false, not_or] at short
    obtain ⟨quote, backslash, backspace, feed, line, carriage, tab⟩ := short
    by_cases control : c.toNat < 0x20
    · left
      simp only [escape, quote, backslash, backspace, feed, line, carriage, tab, control,
        ↓reduceIte, and_self]
    · right
      simp only [escape, quote, backslash, backspace, feed, line, carriage, tab, control,
        ↓reduceIte, ne_eq, not_false_eq_true, true_and]
      omega

/-- **What stands for a character in a written string is read as that character.** -/
theorem readRest_escape (c : Char) (steps : Nat) (before rest : List Char) :
    readRest (steps + 1) before (escape c ++ rest) = readRest steps (c :: before) rest := by
  have backslashIsNoQuote : ('\\' : Char) ≠ '"' := by decide
  rcases escape_cases c with ⟨letter, written, short, stands⟩ | ⟨control, written⟩ |
    ⟨written, quote, backslash, visible⟩
  · simp only [written, List.cons_append, List.nil_append, readRest, backslashIsNoQuote,
      ↓reduceIte, readEscape, short, stands, Steps.ok_bind]
  · simp only [written, List.cons_append, List.nil_append, readRest, backslashIsNoQuote,
      ↓reduceIte, readEscape_control control, Steps.ok_bind]
  · simp only [written, List.singleton_append, readRest, quote, backslash,
      Nat.not_lt.mpr visible, ↓reduceIte]

/-- Escaped characters are read back behind those read before, up to the closing quote. -/
theorem readRest_flatMap_escape (chars : List Char) :
    ∀ (steps : Nat) (before rest : List Char), chars.length < steps →
      readRest steps before (chars.flatMap escape ++ '"' :: rest) =
        .ok (before.reverse ++ chars, rest) := by
  induction chars with
  | nil =>
      intro steps before rest enough
      obtain ⟨more, rfl⟩ := Nat.exists_eq_add_one_of_ne_zero (Nat.ne_zero_of_lt enough)
      rw [List.append_nil]
      rfl
  | cons c chars ih =>
      intro steps before rest enough
      obtain ⟨more, rfl⟩ := Nat.exists_eq_add_one_of_ne_zero (Nat.ne_zero_of_lt enough)
      rw [List.flatMap_cons, List.append_assoc, readRest_escape,
        ih more (c :: before) rest (Nat.lt_of_succ_lt_succ enough), List.reverse_cons,
        List.append_assoc, List.singleton_append]

/-- Escaping a text does not make it shorter, so its length bounds the steps that reading it
takes. -/
private theorem length_le_flatMap_escape (chars : List Char) :
    chars.length ≤ (chars.flatMap escape).length := by
  induction chars with
  | nil => exact Nat.le_refl 0
  | cons c chars ih =>
      have some : 1 ≤ (escape c).length := by
        rcases escape_cases c with ⟨_, written, _⟩ | ⟨_, written⟩ | ⟨written, _⟩ <;>
          simp only [written, List.length_cons] <;> omega
      rw [List.flatMap_cons, List.length_append, List.length_cons]
      omega

/-- **Strings are read as they were written.** -/
theorem read_write (s : String) (rest : List Char) :
    read (s.toList.flatMap escape ++ '"' :: rest) = .ok (s, rest) := by
  have enough : s.toList.length < (s.toList.flatMap escape ++ '"' :: rest).length + 1 := by
    have := length_le_flatMap_escape s.toList
    rw [List.length_append]
    omega
  simp only [read, readRest_flatMap_escape s.toList _ [] rest enough, Steps.ok_bind,
    List.reverse_nil, List.nil_append, String.ofList_toList, Steps.pure_eq_ok]

end Json.Text

end LintReport
