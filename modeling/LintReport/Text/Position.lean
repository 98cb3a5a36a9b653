/-!
# Places in a text

A place is counted in lines, from one, and in bytes of the UTF-8 form since the last line feed.
-/

namespace LintReport

/-- The number of bytes that a run of characters takes in UTF-8. -/
def utf8Length : List Char → Nat
  | [] => 0
  | c :: rest => c.utf8Size + utf8Length rest

/-- A line, counted from one, and the number of bytes read of it. -/
structure Position where
  line : Nat
  column : Nat
  deriving DecidableEq, Repr

namespace Position

/-- The place before the first character. -/
def start : Position := ⟨1, 0⟩

/-- The place reached by reading a number of bytes: a line feed starts a new line, and a place
inside a character counts the bytes of it that were read. -/
def advance (place : Position) : (bytes : Nat) → List Char → Position
  | _, [] => place
  | bytes, c :: rest =>
    if bytes = 0 then place
    else if c = '\n' then advance ⟨place.line + 1, 0⟩ (bytes - 1) rest
    else if bytes ≤ c.utf8Size then ⟨place.line, place.column + bytes⟩
    else advance ⟨place.line, place.column + c.utf8Size⟩ (bytes - c.utf8Size) rest

end Position

@[simp] theorem utf8Length_nil : utf8Length [] = 0 := rfl

@[simp] theorem utf8Length_cons (c : Char) (rest : List Char) :
    utf8Length (c :: rest) = c.utf8Size + utf8Length rest := rfl

@[simp] theorem utf8Length_append (first second : List Char) :
    utf8Length (first ++ second) = utf8Length first + utf8Length second := by
  induction first with
  | nil => simp
  | cons c rest ih => simp [ih, Nat.add_assoc]

/-- Fewer characters take no more bytes. -/
theorem utf8Length_le_of_sublist {fewer all : List Char} (sublist : fewer.Sublist all) :
    utf8Length fewer ≤ utf8Length all := by
  induction sublist with
  | slnil => exact Nat.le_refl 0
  | cons c _ ih => exact Nat.le_trans ih (Nat.le_add_left _ _)
  | cons_cons c _ ih => exact Nat.add_le_add_left ih _

end LintReport
