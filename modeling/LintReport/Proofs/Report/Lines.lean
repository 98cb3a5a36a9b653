import Mathlib
import LintReport.Proofs.Report.Table
import LintReport.Proofs.Report.Tally

/-!
# The lines of a table

Messages and codes go into the rows of a table as the analyzer wrote them. Each line break in them
makes one line more than there are findings (`Renderer.count_write`), so a table has a line for each
finding just when nothing that the findings say breaks a line (`Renderer.lines_of_table`). A message
that does may look like findings that nobody reported (`Renderer.lines_of_table_forged`).
-/

namespace LintReport

/-- A text that consists of lines, each of which a line feed ends. -/
structure Text.OfLines (text : List Char) (lines : List (List Char)) : Prop where
  whole : text = lines.flatMap (· ++ ['\n'])
  unbroken : ∀ line ∈ lines, '\n' ∉ line

/-- A text of lines has as many line feeds as lines. -/
theorem Text.OfLines.count {text : List Char} {lines : List (List Char)}
    (consists : OfLines text lines) : text.count '\n' = lines.length := by
  obtain ⟨rfl, unbroken⟩ := consists
  induction lines with
  | nil => rfl
  | cons line lines ih =>
      obtain ⟨here, later⟩ := List.forall_mem_cons.mp unbroken
      rw [List.flatMap_cons, List.count_append, List.count_append, List.count_eq_zero.mpr here,
        ih later, List.count_singleton_self, List.length_cons]
      omega

/-- Lines in a row end with a line feed. -/
theorem Text.getLast?_flatMap_lines {lines : List (List Char)} (filled : lines ≠ []) :
    (lines.flatMap (· ++ ['\n'])).getLast? = some '\n' := by
  rw [← List.dropLast_concat_getLast filled, List.flatMap_append, List.flatMap_singleton,
    ← List.append_assoc, List.getLast?_concat]

namespace Renderer

/-- What a finding says in its row: its message and its code. -/
def spoken (finding : Finding) : List Char := reasonText finding ++ codeText finding

/-- The line breaks in what findings say. -/
def breaks (findings : List Finding) : Nat := (findings.flatMap spoken).count '\n'

/-- A finding stands on one line when what it says has no line feed. -/
theorem not_mem_spoken_iff {finding : Finding} : '\n' ∉ spoken finding ↔ OnOneLine finding := by
  rw [spoken, List.mem_append, not_or, onOneLine_iff]

/-- No line is broken exactly when every finding stands on one. -/
theorem breaks_eq_zero_iff {findings : List Finding} :
    breaks findings = 0 ↔ ∀ finding ∈ findings, OnOneLine finding := by
  rw [breaks, List.count_eq_zero, List.mem_flatMap, not_exists]
  simp only [not_and, not_mem_spoken_iff]

/-- A row has one line feed more than what the finding says. -/
theorem count_row (width : Nat) (finding : Finding) :
    (row width finding).count '\n' = (spoken finding).count '\n' + 1 := by
  rw [row_eq, rowText_eq, List.count_append, List.count_append,
    List.count_eq_zero.mpr (not_mem_rowFront width finding), Nat.zero_add, spoken,
    List.count_singleton_self]

/-- Rows have a line break each, and those that the findings bring along. -/
theorem count_rows (width : Nat) (findings : List Finding) :
    (findings.flatMap (row width)).count '\n' = findings.length + breaks findings := by
  induction findings with
  | nil => rfl
  | cons finding findings ih =>
      rw [List.flatMap_cons, List.count_append, count_row, ih, List.length_cons, breaks, breaks,
        List.flatMap_cons, List.count_append]
      omega

/-- What stands below the rows: an empty line if there are rows, and the line that sums up. -/
def linesBelow (findings : List Finding) : List (List Char) :=
  (if findings.isEmpty then [] else [[]]) ++ [(Tally.ofFindings findings).text]

/-- The footer consists of the lines below the table. -/
theorem footerLines_eq_flatMap (findings : List Finding) :
    footerLines findings = (linesBelow findings).flatMap (· ++ ['\n']) := by
  unfold footerLines linesBelow
  cases findings with
  | nil => simp
  | cons finding findings => simp

/-- No line below the table is broken. -/
theorem not_mem_linesBelow (findings : List Finding) :
    ∀ line ∈ linesBelow findings, '\n' ∉ line := by
  unfold linesBelow
  rw [List.forall_mem_append, List.forall_mem_singleton]
  refine ⟨?_, Tally.newline_not_mem_text _⟩
  split
  · exact List.forall_mem_nil _
  · exact List.forall_mem_singleton.mpr List.not_mem_nil

/-- A table is written line by line, if nothing that the findings say breaks a line. -/
theorem write_eq_flatMap (footer : Bool) (findings : List Finding) :
    (terminal footer).write findings = (findings.map (rowText (positionWidth findings)) ++
      if footer then linesBelow findings else []).flatMap (· ++ ['\n']) := by
  rw [write, table_eq_flatMap, List.flatMap_append]
  cases footer with
  | true => rw [if_pos rfl, if_pos rfl, footerLines_eq_flatMap]
  | false => rfl

/-- **How many line feeds a table has.** -/
theorem count_write (footer : Bool) (findings : List Finding) :
    ((terminal footer).write findings).count '\n' =
      findings.length + breaks findings + if footer then (linesBelow findings).length else 0 := by
  have below : (footerLines findings).count '\n' = (linesBelow findings).length :=
    Text.OfLines.count ⟨footerLines_eq_flatMap findings, not_mem_linesBelow findings⟩
  rw [write, List.count_append, table, count_rows]
  cases footer with
  | true => rw [if_pos rfl, if_pos rfl, below]
  | false => rfl

/-- The table of findings ends with a line feed. -/
theorem getLast?_write (footer : Bool) {findings : List Finding} (filled : findings ≠ []) :
    ((terminal footer).write findings).getLast? = some '\n' := by
  rw [write_eq_flatMap]
  apply Text.getLast?_flatMap_lines
  exact List.append_ne_nil_of_left_ne_nil (List.map_eq_nil_iff.not.mpr filled) _

/-- A table that can be read line by line: it has a line for each finding, and below them what
belongs there when it has a footer. -/
def LineEach (footer : Bool) (findings : List Finding) : Prop :=
  ∃ rows, rows.length = findings.length ∧
    Text.OfLines ((terminal footer).render findings).toList
      (rows ++ if footer then linesBelow findings else [])

/-- Findings without line feeds take one line each. -/
theorem lineEach_of_onOneLine (footer : Bool) {findings : List Finding}
    (one : ∀ finding ∈ findings, OnOneLine finding) : LineEach footer findings := by
  refine ⟨findings.map (rowText (positionWidth findings)), List.length_map _, ?_, ?_⟩
  · rw [render, String.toList_ofList, write_eq_flatMap]
  · rw [List.forall_mem_append, List.forall_mem_map]
    refine ⟨fun finding member => not_mem_rowText _ (one finding member), ?_⟩
    cases footer with
    | true => exact not_mem_linesBelow findings
    | false => exact List.forall_mem_nil _

/-- Findings that take one line each have no line feeds. -/
theorem onOneLine_of_lineEach {footer : Bool} {findings : List Finding}
    (each : LineEach footer findings) : ∀ finding ∈ findings, OnOneLine finding := by
  obtain ⟨rows, length, consists⟩ := each
  have counted := consists.count
  rw [render, String.toList_ofList, count_write, List.length_append, length] at counted
  -- The lines below the rows are counted on both sides, so nothing is left for other breaks.
  have none : breaks findings = 0 := by
    cases footer with
    | true =>
        rw [if_pos rfl, if_pos rfl] at counted
        omega
    | false => exact Nat.add_eq_left.mp counted
  exact breaks_eq_zero_iff.mp none

/-- **When a table has a line for each finding.** Every line break in a message or a code makes one
more line feed than there are findings and lines below them; the last character is a line feed all
the same. So the findings have a line each, with the empty line and the sum below them when there is
a footer, just when nothing that they say breaks a line. -/
theorem lines_of_table (footer : Bool) (findings : List Finding) :
    let text := ((terminal footer).render findings).toList
    text.count '\n' = findings.length + breaks findings +
      (if footer then (linesBelow findings).length else 0) ∧
    (findings ≠ [] → text.getLast? = some '\n') ∧
    (LineEach footer findings ↔ ∀ finding ∈ findings, OnOneLine finding) := by
  intro text
  have written : text = (terminal footer).write findings := String.toList_ofList
  rw [written]
  exact ⟨count_write footer findings, getLast?_write footer, onOneLine_of_lineEach,
    lineEach_of_onOneLine footer⟩

/-- A message that breaks its line and goes on like the row of another finding: the table of this
one finding is the table of two. -/
theorem lines_of_table_forged :
    let forged : List Finding :=
      [(Finding.atPosition 1 0).attach "reason" (.string "a\n  2:0  -        b")]
    let honest : List Finding := [(Finding.atPosition 1 0).attach "reason" (.string "a"),
      (Finding.atPosition 2 0).attach "reason" (.string "b")]
    readBatch ("[\x7b\"error\":\x7b\"line\":1,\"character\":0," ++
      "\"reason\":\"a\\n  2:0  -        b\"\x7d\x7d]") = .ok (forged.map Record.ofFinding) ∧
    (terminal false).render forged = "  1:0  -        a\n  2:0  -        b\n" ∧
    (∀ footer, (terminal footer).render forged = (terminal footer).render honest) ∧
    ∀ footer, ¬ LineEach footer forged := by
  intro forged honest
  refine ⟨by cbv, by decide +kernel, by decide +kernel, fun footer each => ?_⟩
  have one := onOneLine_of_lineEach each _ List.mem_cons_self
  exact one.1 _ rfl (by decide)

end Renderer

end LintReport
