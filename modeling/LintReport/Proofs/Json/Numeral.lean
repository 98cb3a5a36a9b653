import LintReport.Json.Writer
import LintReport.Json.Reader
import LintReport.Proofs.Steps

/-!
# Reading written whole numbers

A whole number is written as its digits, after a minus sign when it is negative. What is written
is read back as the same number, and nothing after it is touched, as long as what follows cannot
go on with the numeral (`readNumber_writeNumber`). The reader refuses digits after a leading zero,
so the argument needs that no number but zero is written with one (`Decimal.head?_digits_ne_zero`).
-/

namespace LintReport

/-- No number but zero begins with the digit zero. -/
theorem Decimal.head?_digits_ne_zero {number : Nat} (positive : 0 < number) :
    (digits number).head? ≠ some '0' := by
  induction number using Nat.strongRecOn with
  | ind number ih =>
      unfold digits
      by_cases single : number < 10
      · rw [Nat.toDigits_of_lt_base single, List.head?_cons, ne_eq, Option.some.injEq,
          Nat.digitChar_eq_zero]
        omega
      · have leading := ih (number / 10) (by omega) (by omega)
        rw [Nat.toDigits_of_base_le (by omega) (by omega), List.head?_append]
        cases first : (digits (number / 10)).head? with
        | none => exact absurd (List.head?_eq_none_iff.mp first) (digits_ne_nil _)
        | some digit =>
            rw [first] at leading
            unfold digits at first
            rw [first, Option.some_or]
            exact leading

/-- The digits of a positive number begin with one that is not zero. -/
theorem Decimal.digits_eq_cons {number : Nat} (positive : 0 < number) :
    ∃ first more, digits number = first :: more ∧ first ≠ '0' := by
  cases split : digits number with
  | nil => exact absurd split (digits_ne_nil number)
  | cons first more =>
      have leading := head?_digits_ne_zero positive
      rw [split, List.head?_cons, ne_eq, Option.some.injEq] at leading
      exact ⟨first, more, rfl, leading⟩

namespace Json

/-- A text that does not go on with a numeral: it begins with no digit, no point and no mark of a
power of ten. -/
def Numeral.Ends (rest : List Char) : Prop :=
  ∀ c, rest.head? = some c → c.isDigit = false ∧ c ≠ '.' ∧ c ≠ 'e' ∧ c ≠ 'E'

namespace Numeral

theorem ends_nil : Ends [] := by
  intro c first
  cases first

theorem ends_cons {c : Char} (rest : List Char)
    (other : c.isDigit = false ∧ c ≠ '.' ∧ c ≠ 'e' ∧ c ≠ 'E') : Ends (c :: rest) := by
  intro first same
  rw [List.head?_cons, Option.some.injEq] at same
  subst same
  exact other

/-- A text that does not go on with digits. -/
def Stops (rest : List Char) : Prop := ∀ c, rest.head? = some c → c.isDigit = false

/-- What ends a numeral also ends a run of digits. -/
theorem Ends.stops {rest : List Char} (ends : Ends rest) : Stops rest :=
  fun c first => (ends c first).1

/-- A run of digits is taken whole, and no more than the run. -/
theorem takeWhile_digits {run rest : List Char} (only : ∀ c ∈ run, c.isDigit)
    (stops : Stops rest) :
    (run ++ rest).takeWhile Char.isDigit = run ∧ (run ++ rest).dropWhile Char.isDigit = rest := by
  have ended : rest.takeWhile Char.isDigit = [] ∧ rest.dropWhile Char.isDigit = rest := by
    cases rest with
    | nil => exact ⟨rfl, rfl⟩
    | cons c rest =>
        have other := stops c rfl
        simp only [List.takeWhile_cons, List.dropWhile_cons, other, Bool.false_eq_true, ↓reduceIte,
          and_self]
  rw [List.takeWhile_append_of_pos only, List.dropWhile_append_of_pos only, ended.1, ended.2]
  exact ⟨List.append_nil run, rfl⟩

/-- The digits of a number are read as the whole part of a numeral. -/
theorem readWhole_digits (atEnd : Cause) (number : Nat) {rest : List Char} (ends : Ends rest) :
    readWhole atEnd (Decimal.digits number ++ rest) = .ok (Decimal.digits number, rest) := by
  rcases Nat.eq_zero_or_pos number with rfl | positive
  · have zero : Decimal.digits 0 = ['0'] := Nat.toDigits_zero 10
    rw [zero, List.singleton_append]
    cases rest with
    | nil => rfl
    | cons c rest => simp only [readWhole, ↓reduceIte, (ends c rfl).1, Bool.false_eq_true]
  · obtain ⟨first, more, split, leading⟩ := Decimal.digits_eq_cons positive
    have only : ∀ c ∈ first :: more, c.isDigit := fun c member =>
      Decimal.isDigit_of_mem_digits (split ▸ member)
    obtain ⟨taken, left⟩ :=
      takeWhile_digits (fun c member => only c (List.mem_cons_of_mem first member)) ends.stops
    rw [split, List.cons_append]
    simp only [readWhole, leading, ↓reduceIte, only first List.mem_cons_self, taken, left]

/-- A text that does not go on with a numeral has no fraction and no power of ten. -/
theorem readFraction_of_ends (atEnd : Cause) {rest : List Char} (ends : Ends rest) :
    readFraction atEnd rest = .ok (none, rest) := by
  unfold readFraction
  split
  · next more => exact absurd rfl (ends '.' rfl).2.1
  · rfl

theorem readExponent_of_ends (atEnd : Cause) {rest : List Char} (ends : Ends rest) :
    readExponent atEnd rest = .ok (none, rest) := by
  cases rest with
  | nil => rfl
  | cons c rest =>
      obtain ⟨_, _, lower, upper⟩ := ends c rfl
      simp only [readExponent, lower, upper, or_self, ↓reduceIte]

/-- The parts of a written integer are its sign and its digits. -/
theorem read_integer (atEnd : Cause) (number : Int) {rest : List Char} (ends : Ends rest) :
    read atEnd (Decimal.integer number ++ rest) =
      .ok (⟨decide (number < 0), Decimal.digits number.natAbs, none, none⟩, rest) := by
  unfold Decimal.integer
  by_cases negative : number < 0
  · simp only [negative, ↓reduceIte, decide_true, List.cons_append, read,
      readWhole_digits atEnd _ ends, readFraction_of_ends atEnd ends,
      readExponent_of_ends atEnd ends, Steps.ok_bind, Steps.pure_eq_ok]
  · -- The reader looks for a sign first, and no digit is one.
    have noSign : ∀ more, Decimal.digits number.natAbs ++ rest ≠ '-' :: more := by
      intro more same
      cases split : Decimal.digits number.natAbs with
      | nil => exact Decimal.digits_ne_nil _ split
      | cons first digits =>
          have digit : first.isDigit :=
            Decimal.isDigit_of_mem_digits (split ▸ List.mem_cons_self)
          rw [split, List.cons_append, List.cons.injEq] at same
          rw [same.1] at digit
          exact absurd digit (by decide)
    simp only [negative, ↓reduceIte, decide_false, read, readWhole_digits atEnd _ ends,
      readFraction_of_ends atEnd ends, readExponent_of_ends atEnd ends, Steps.ok_bind,
      Steps.pure_eq_ok]

/-- The parts of a written integer denote it, if it is in range. -/
theorem toWhole?_parts (number : Int) :
    toWhole? ⟨decide (number < 0), Decimal.digits number.natAbs, none, none⟩ =
      Whole.ofInt? number := by
  simp only [toWhole?, Decimal.value_digits, decide_eq_true_eq]
  by_cases negative : number < 0
  · have nonzero : number.natAbs ≠ 0 := by omega
    have signed : -(number.natAbs : Int) = number := by omega
    simp only [negative, ↓reduceIte, nonzero, signed]
  · have unsigned : (number.natAbs : Int) = number := by omega
    simp only [negative, ↓reduceIte, unsigned]

/-- The sign and the digits of a whole number within 64 bits stand for that number. -/
theorem toWhole?_integer (n : Whole) :
    toWhole? ⟨decide (n.val < 0), Decimal.digits n.val.natAbs, none, none⟩ = some n := by
  rw [toWhole?_parts]
  simp only [Whole.ofInt?, n.lower, n.upper, and_self, ↓reduceDIte]

end Numeral

/-- **Whole numbers are read as they were written.** -/
theorem readNumber_writeNumber (n : Whole) {rest : List Char} (ends : Numeral.Ends rest) :
    readNumber (writeNumber (.whole n) ++ rest) = .ok (.whole n, rest) := by
  unfold readNumber writeNumber
  simp only [Numeral.read_integer .endInValue n.val ends, Steps.ok_bind,
    Numeral.toWhole?_integer n, Steps.pure_eq_ok]

end Json

end LintReport
