import Mathlib.Data.List.Basic

/-!
# Texts in pieces

Paths have names between slashes, versions numbers between dots, and reports lines. Splitting gives
one piece more than there are separators (`Text.length_splitOn`), and lines that each end in a
separator are found again by splitting (`Text.splitOn_flatMap`).
-/

namespace LintReport.Text

/-- There is one piece more than there are separators. -/
theorem length_splitOn (separator : Char) (chars : List Char) :
    (chars.splitOn separator).length = chars.count separator + 1 := by
  induction chars with
  | nil => rfl
  | cons c rest ih =>
      rw [List.splitOn_cons_eq_if_modifyHead, List.count_cons]
      by_cases same : c = separator
      · simp only [same, beq_self_eq_true, ↓reduceIte, List.length_cons, ih]
      · simp only [beq_eq_false_iff_ne.mpr same, Bool.false_eq_true, ↓reduceIte,
          List.length_modifyHead, ih, Nat.add_zero]

/-- Lines that end in a separator are the pieces, and what follows the last of them is one more. -/
theorem splitOn_flatMap {α : Type} [BEq α] [LawfulBEq α] {separator : α} {lines : List (List α)}
    {rest : List α} (each : ∀ line ∈ lines, separator ∉ line) (last : separator ∉ rest) :
    (lines.flatMap (· ++ [separator]) ++ rest).splitOn separator = lines ++ [rest] := by
  induction lines with
  | nil => exact List.splitOn_eq_singleton last
  | cons line lines ih =>
      obtain ⟨here, later⟩ := List.forall_mem_cons.mp each
      rw [List.flatMap_cons, List.append_assoc, List.append_assoc, List.singleton_append,
        List.splitOn_append_cons_self_of_not_mem here, ih later, List.cons_append]

end LintReport.Text
