/-!
# Decimal numerals

Writing a natural number in decimal and reading a run of digits back, over lists of characters.
Reading a written numeral gives the number again, and a written numeral holds digits only.
-/

namespace LintReport.Decimal

/-- The decimal digits of a number, most significant first; zero is the one digit `0`. -/
def digits (number : Nat) : List Char := Nat.toDigits 10 number

/-- The number that a run of digits denotes; the empty run denotes zero. -/
def value (run : List Char) : Nat := Nat.ofDigitChars 10 run 0

/-- An integer: its digits, after a minus sign when it is negative. -/
def integer (number : Int) : List Char :=
  if number < 0 then '-' :: digits number.natAbs else digits number.natAbs

/-- The digit that a character stands for. -/
def digit (c : Char) : Nat := c.toNat - '0'.toNat

/-- The value of one lower- or upper-case hexadecimal digit. -/
def hexDigit? (c : Char) : Option Nat :=
  if c.isDigit then some (digit c)
  else if 'a' ≤ c ∧ c ≤ 'f' then some (c.toNat - 'a'.toNat + 10)
  else if 'A' ≤ c ∧ c ≤ 'F' then some (c.toNat - 'A'.toNat + 10)
  else none

/-- The value of a run of hexadecimal digits, or none when a character is no such digit. -/
def hexValue? (run : List Char) : Option Nat :=
  run.foldlM (fun total c => (hexDigit? c).map (16 * total + ·)) 0

/-- Reading the digits of a number gives the number. -/
@[simp] theorem value_digits (number : Nat) : value (digits number) = number :=
  Nat.ofDigitChars_ten_toDigits

/-- A numeral has at least one digit. -/
theorem digits_ne_nil (number : Nat) : digits number ≠ [] := Nat.toDigits_ne_nil

/-- Every character of a numeral is a decimal digit. -/
theorem isDigit_of_mem_digits {number : Nat} {c : Char} (member : c ∈ digits number) :
    c.isDigit := Nat.isDigit_of_mem_toDigits (by decide) (by decide) member

/-- Only digits are written for a number. -/
theorem not_mem_digits {c : Char} (other : c.isDigit = false) (number : Nat) :
    c ∉ digits number := by
  intro member
  rw [isDigit_of_mem_digits member] at other
  cases other

/-- A numeral ends where something else than a digit comes. -/
theorem digits_append_inj {c : Char} (other : c.isDigit = false) {first second : Nat}
    {more rest : List Char} (same : digits first ++ c :: more = digits second ++ c :: rest) :
    first = second ∧ more = rest := by
  have numeral (number : Nat) (behind : List Char) :
      (digits number ++ c :: behind).takeWhile Char.isDigit = digits number := by
    rw [List.takeWhile_append_of_pos fun _ member => isDigit_of_mem_digits member,
      List.takeWhile_cons_of_neg (Bool.eq_false_iff.mp other), List.append_nil]
  have heads : digits first = digits second := by
    rw [← numeral first more, same, numeral]
  constructor
  · rw [← value_digits first, heads, value_digits]
  · rw [heads] at same
    exact (List.cons.inj (List.append_cancel_left same)).2

end LintReport.Decimal
