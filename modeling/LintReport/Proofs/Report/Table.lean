import Mathlib.Data.List.Forall2
import LintReport.Report.Renderer
import LintReport.Proofs.Finding.Severity
import LintReport.Proofs.Json.Numeral
import LintReport.Proofs.Text.Pieces

/-!
# Tables

The rows of a table are aligned: the positions stand in a column as wide as the widest of them, and
behind it the severities and the messages begin at the same place of every row
(`Renderer.Aligned`). A row can be read without knowing that width (`Renderer.Entry.ofLine`), so the
lines of a table say what position and severity each finding has, as long as no message and no code
breaks a line (`Renderer.terminal_rows`).
-/

namespace LintReport.Renderer

/-! ## Columns -/

section Width

variable {findings : List Finding}

/-- A running maximum of lengths is bounded when it begins so and each length is. -/
private theorem foldl_width_le_iff (findings : List Finding) {bound : Nat} : ∀ start : Nat,
    findings.foldl (fun width finding => max width (position finding).length) start ≤ bound ↔
      start ≤ bound ∧ ∀ finding ∈ findings, (position finding).length ≤ bound := by
  induction findings with
  | nil =>
      intro start
      simp only [List.foldl_nil, List.not_mem_nil, false_imp_iff, implies_true, and_true]
  | cons finding findings ih =>
      intro start
      rw [List.foldl_cons, ih, Nat.max_le, List.forall_mem_cons, and_assoc]

/-- The width of a column is the least in which every position of it fits. -/
theorem positionWidth_le_iff {bound : Nat} : positionWidth findings ≤ bound ↔
    ∀ finding ∈ findings, (position finding).length ≤ bound := by
  unfold positionWidth
  rw [foldl_width_le_iff]
  exact and_iff_right (Nat.zero_le bound)

/-- The column of positions is wide enough for each of them. -/
theorem length_position_le {finding : Finding} (member : finding ∈ findings) :
    (position finding).length ≤ positionWidth findings :=
  positionWidth_le_iff.mp (Nat.le_refl _) finding member

/-- Some position is as wide as its column. -/
theorem exists_length_position_eq (nonempty : findings ≠ []) :
    ∃ finding ∈ findings, (position finding).length = positionWidth findings := by
  obtain ⟨first, member⟩ := List.exists_mem_of_ne_nil findings nonempty
  by_contra narrower
  rw [not_exists] at narrower
  have below : ∀ finding ∈ findings, (position finding).length < positionWidth findings :=
    fun finding member =>
      Nat.lt_of_le_of_ne (length_position_le member) fun same => narrower finding ⟨member, same⟩
  have less : positionWidth findings ≤ positionWidth findings - 1 :=
    positionWidth_le_iff.mpr fun finding member => Nat.le_sub_one_of_lt (below finding member)
  have positive := below first member
  omega

end Width

theorem length_padded {width : Nat} {text : List Char} (fits : text.length ≤ width) :
    (padded width text).length = width := by
  rw [padded, List.length_append, List.length_replicate]
  omega

/-- A row without the line feed at its end. -/
def rowText (width : Nat) (finding : Finding) : List Char :=
  [' ', ' '] ++ (padded width (position finding) ++ ([' ', ' '] ++
    (padded 7 (severityWord finding) ++ ([' ', ' '] ++ (reasonText finding ++ codeText finding)))))

/-- A row is its text and a line feed. -/
theorem row_eq (width : Nat) (finding : Finding) :
    row width finding = rowText width finding ++ ['\n'] := by
  simp only [row, rowText, List.append_assoc]

/-- Where the parts of a line stand: two blanks, the position in its column, two blanks, the
severity in a column of seven characters, two blanks, the message and the code. -/
structure Aligned (width : Nat) (finding : Finding) (line : List Char) : Prop where
  fits : (position finding).length ≤ width
  margin : line.take 2 = [' ', ' ']
  position : (line.drop 2).take width = padded width (position finding)
  gap : (line.drop (width + 2)).take 2 = [' ', ' ']
  severity : (line.drop (width + 4)).take 7 = padded 7 (severityWord finding)
  blanks : (line.drop (width + 11)).take 2 = [' ', ' ']
  message : line.drop (width + 13) = reasonText finding ++ codeText finding

/-- No word for a severity is longer than its column. -/
theorem length_severityWord_le (finding : Finding) : (severityWord finding).length ≤ 7 := by
  unfold severityWord
  split
  · next severity _ => cases severity <;> decide
  · decide

/-- The text of a row keeps to the columns when its position fits. -/
theorem aligned_rowText {width : Nat} {finding : Finding}
    (fits : (position finding).length ≤ width) : Aligned width finding (rowText width finding) := by
  have first := length_padded fits
  have second := length_padded (length_severityWord_le finding)
  have column : (rowText width finding).drop (width + 2) =
      [' ', ' '] ++ (padded 7 (severityWord finding) ++ ([' ', ' '] ++
        (reasonText finding ++ codeText finding))) := by
    rw [Nat.add_comm, ← List.drop_drop]
    exact List.drop_left' first
  have severity : (rowText width finding).drop (width + 4) =
      padded 7 (severityWord finding) ++ ([' ', ' '] ++
        (reasonText finding ++ codeText finding)) := by
    rw [← List.drop_drop (i := 2), column]
    rfl
  have behind : (rowText width finding).drop (width + 11) =
      [' ', ' '] ++ (reasonText finding ++ codeText finding) := by
    rw [← List.drop_drop (i := 7), severity]
    exact List.drop_left' second
  refine ⟨fits, rfl, List.take_left' first, ?_, ?_, ?_, ?_⟩
  · rw [column]
    rfl
  · rw [severity]
    exact List.take_left' second
  · rw [behind]
    rfl
  · rw [← List.drop_drop (i := 2), behind]
    rfl

/-! ## Reading a line -/

/-- What a line says of a finding: where it is, and how severe. -/
structure Entry where
  line : UInt64
  character : UInt64
  severity? : Option Severity
  deriving DecidableEq

namespace Entry

def ofFinding (finding : Finding) : Entry :=
  ⟨finding.line, finding.character, finding.severity?⟩

/-- Reads a line: digits up to the colon and digits behind it, with blanks around them, and then the
word up to the next blank. -/
def ofLine (line : List Char) : Entry :=
  let text := line.dropWhile (· == ' ')
  let behind := (text.dropWhile Char.isDigit).drop 1
  let left := (behind.dropWhile Char.isDigit).dropWhile (· == ' ')
  ⟨.ofNat (Decimal.value (text.takeWhile Char.isDigit)),
    .ofNat (Decimal.value (behind.takeWhile Char.isDigit)),
    Severity.ofMarker? (String.ofList (left.takeWhile (· != ' ')))⟩

/-- Blanks are passed over up to what is none. -/
theorem dropWhile_blanks (count : Nat) {text : List Char} (visible : text.head? ≠ some ' ') :
    (List.replicate count ' ' ++ text).dropWhile (· == ' ') = text := by
  have passed : ∀ c ∈ List.replicate count ' ', (c == ' ') = true := by
    intro c member
    rw [(List.mem_replicate.mp member).2]
    rfl
  rw [List.dropWhile_append_of_pos passed]
  cases text with
  | nil => rfl
  | cons c text =>
      rw [List.head?_cons, ne_eq, Option.some.injEq] at visible
      exact List.dropWhile_cons_of_neg (by simpa only [beq_iff_eq] using visible)

/-- Digits do not begin with a blank. -/
theorem head?_digits_ne_blank (number : Nat) (rest : List Char) :
    (Decimal.digits number ++ rest).head? ≠ some ' ' := by
  obtain ⟨first, more, split⟩ := List.exists_cons_of_ne_nil (Decimal.digits_ne_nil number)
  have isDigit : first.isDigit := Decimal.isDigit_of_mem_digits (split ▸ List.mem_cons_self)
  rw [split, List.cons_append, List.head?_cons, ne_eq, Option.some.injEq]
  rintro rfl
  cases isDigit

/-- The digits of a number are read up to what is no digit. -/
theorem takeWhile_number (n : UInt64) {c : Char} (other : c.isDigit = false) (rest : List Char) :
    let text := Decimal.digits n.toNat ++ c :: rest
    UInt64.ofNat (Decimal.value (text.takeWhile Char.isDigit)) = n ∧
      text.dropWhile Char.isDigit = c :: rest := by
  have stops : Json.Numeral.Stops (c :: rest) := by
    intro first same
    cases same
    exact other
  obtain ⟨taken, left⟩ := Json.Numeral.takeWhile_digits
    (fun c member => @Decimal.isDigit_of_mem_digits n.toNat c member) stops
  refine ⟨?_, left⟩
  rw [taken, Decimal.value_digits, UInt64.ofNat_toNat]

/-- The word for a severity ends where a blank follows, and says what the severity is. -/
theorem severityWord_reads (finding : Finding) (rest : List Char) :
    let text := severityWord finding ++ ' ' :: rest
    text.head? ≠ some ' ' ∧
      Severity.ofMarker? (String.ofList (text.takeWhile (· != ' '))) = finding.severity? := by
  have word : (severityWord finding ++ ' ' :: rest).head? ≠ some ' ' ∧
      (severityWord finding ++ ' ' :: rest).takeWhile (· != ' ') = severityWord finding := by
    unfold severityWord
    split
    · next severity _ =>
        cases severity <;> exact ⟨fun same => absurd (Option.some.inj same) (by decide), rfl⟩
    · exact ⟨fun same => absurd (Option.some.inj same) (by decide), rfl⟩
  refine ⟨word.1, ?_⟩
  rw [word.2]
  unfold severityWord
  cases finding.severity? with
  | none => decide
  | some severity => rw [String.ofList_toList, Severity.ofMarker?_word]

/-- One of the two blanks behind others may as well stand in front. -/
theorem replicate_append_blanks (count : Nat) (rest : List Char) :
    List.replicate count ' ' ++ ' ' :: ' ' :: rest =
      ' ' :: (List.replicate (count + 1) ' ' ++ rest) := by
  induction count with
  | zero => rfl
  | succ count ih =>
      rw [List.replicate_succ, List.cons_append, ih]
      rfl

/-- The parts of a line that are read, with blanks between them. -/
theorem rowText_split (width : Nat) (finding : Finding) : ∃ blanks more,
    rowText width finding = List.replicate 2 ' ' ++ (Decimal.digits finding.line.toNat ++ ':' ::
      (Decimal.digits finding.character.toNat ++ ' ' :: (List.replicate blanks ' ' ++
        (severityWord finding ++ ' ' :: more)))) := by
  refine ⟨width - (position finding).length + 1,
    List.replicate (7 - (severityWord finding).length + 1) ' ' ++
      (reasonText finding ++ codeText finding), ?_⟩
  have column : padded width (position finding) = Decimal.digits finding.line.toNat ++ ':' ::
      (Decimal.digits finding.character.toNat ++
        List.replicate (width - (position finding).length) ' ') := by
    simp only [padded, position, List.append_assoc, List.cons_append]
  rw [rowText, column, padded]
  simp only [List.append_assoc, List.cons_append, List.nil_append, replicate_append_blanks]
  rfl

/-- **A line is read as the finding that it shows**, however wide its column is. -/
theorem ofLine_rowText (width : Nat) (finding : Finding) :
    ofLine (rowText width finding) = ofFinding finding := by
  obtain ⟨blanks, more, split⟩ := rowText_split width finding
  obtain ⟨visible, severity⟩ := severityWord_reads finding more
  have character := takeWhile_number finding.character (c := ' ') rfl
    (List.replicate blanks ' ' ++ (severityWord finding ++ ' ' :: more))
  have line := takeWhile_number finding.line (c := ':') rfl
    (Decimal.digits finding.character.toNat ++ ' ' :: (List.replicate blanks ' ' ++
      (severityWord finding ++ ' ' :: more)))
  have word : (' ' :: (List.replicate blanks ' ' ++
      (severityWord finding ++ ' ' :: more))).dropWhile (· == ' ') =
      severityWord finding ++ ' ' :: more := dropWhile_blanks (blanks + 1) visible
  dsimp only at line character
  rw [split, ofLine, dropWhile_blanks 2 (head?_digits_ne_blank _ _)]
  simp only [line, character, List.drop_one, List.tail_cons, word, severity, ofFinding]

end Entry

/-! ## Lines -/

/-- Nothing that a finding says breaks a line. -/
def OnOneLine (finding : Finding) : Prop :=
  (∀ reason, finding.reason? = some reason → '\n' ∉ reason.toList) ∧
    ∀ code, finding.code? = some code → '\n' ∉ code.toList

/-- Padding adds no line feed. -/
theorem not_mem_padded (width : Nat) {text : List Char} (within : '\n' ∉ text) :
    '\n' ∉ padded width text := by
  unfold padded
  rw [List.mem_append, not_or]
  refine ⟨within, fun member => ?_⟩
  cases (List.mem_replicate.mp member).2

/-- A finding stands on one line when neither its reason nor its code has a line feed. -/
theorem onOneLine_iff {finding : Finding} :
    OnOneLine finding ↔ '\n' ∉ reasonText finding ∧ '\n' ∉ codeText finding := by
  have message : (∀ reason, finding.reason? = some reason → '\n' ∉ reason.toList) ↔
      '\n' ∉ reasonText finding := by
    unfold reasonText
    cases finding.reason? with
    | none => exact iff_of_true nofun (by decide)
    | some text => simp only [Option.some.injEq, forall_eq', Option.getD_some]
  have code : (∀ code, finding.code? = some code → '\n' ∉ code.toList) ↔
      '\n' ∉ codeText finding := by
    unfold codeText
    cases finding.code? with
    | none => exact iff_of_true nofun List.not_mem_nil
    | some text => simp
  exact and_congr message code

/-- What stands in a row before the message. -/
def rowFront (width : Nat) (finding : Finding) : List Char :=
  [' ', ' '] ++ (padded width (position finding) ++ ([' ', ' '] ++
    (padded 7 (severityWord finding) ++ [' ', ' '])))

/-- The text of a row is its front, then the reason and the code. -/
theorem rowText_eq (width : Nat) (finding : Finding) :
    rowText width finding = rowFront width finding ++ (reasonText finding ++ codeText finding) := by
  simp only [rowText, rowFront, List.append_assoc]

theorem not_mem_rowFront (width : Nat) (finding : Finding) : '\n' ∉ rowFront width finding := by
  have place : '\n' ∉ position finding := by
    rw [position, List.mem_append, List.mem_cons, not_or, not_or]
    exact ⟨Decimal.not_mem_digits rfl _, by decide, Decimal.not_mem_digits rfl _⟩
  have word : '\n' ∉ severityWord finding := by
    unfold severityWord
    split
    · next severity _ => cases severity <;> decide
    · decide
  have blank : '\n' ∉ [' ', ' '] := by decide
  simp only [rowFront, List.mem_append, not_or]
  exact ⟨blank, not_mem_padded width place, blank, not_mem_padded 7 word, blank⟩

/-- The row of a finding that stands on one line has no other line feed. -/
theorem not_mem_rowText (width : Nat) {finding : Finding} (one : OnOneLine finding) :
    '\n' ∉ rowText width finding := by
  rw [rowText_eq, List.mem_append, List.mem_append, not_or, not_or]
  exact ⟨not_mem_rowFront width finding, onOneLine_iff.mp one⟩

/-- The table is the rows, each with a line feed. -/
theorem table_eq_flatMap (findings : List Finding) : table findings =
    (findings.map (rowText (positionWidth findings))).flatMap (· ++ ['\n']) := by
  rw [List.flatMap_map]
  exact congrArg (findings.flatMap ·) (funext (row_eq _))

/-- **The rows of a table are aligned, and say what they show.** Without a tally below it a table is
one line for each finding, in order. The column of the positions is as wide as the widest of them,
and every part of a line has its place, counted from that column. From each line its finding's
position and severity are read back; so they are from the lines of the table when no message and no
code breaks a line. -/
theorem terminal_rows (findings : List Finding) :
    let width := positionWidth findings
    let text := ((terminal false).render findings).toList
    (findings ≠ [] → ∃ finding ∈ findings, (position finding).length = width) ∧
    ∃ lines : List (List Char), text = lines.flatMap (· ++ ['\n']) ∧
      List.Forall₂ (Aligned width) findings lines ∧
      lines.map Entry.ofLine = findings.map Entry.ofFinding ∧
      ((∀ finding ∈ findings, OnOneLine finding) →
        text.splitOn '\n' = lines ++ [[]] ∧
        (text.splitOn '\n').dropLast.map Entry.ofLine = findings.map Entry.ofFinding) := by
  intro width text
  have rows : text = (findings.map (rowText width)).flatMap (· ++ ['\n']) := by
    have whole : text = table findings ++ [] := String.toList_ofList
    rw [whole, List.append_nil, table_eq_flatMap]
  have entries : (findings.map (rowText width)).map Entry.ofLine =
      findings.map Entry.ofFinding := by
    rw [List.map_map]
    exact List.map_congr_left fun finding _ => Entry.ofLine_rowText width finding
  refine ⟨exists_length_position_eq, findings.map (rowText width), rows, ?_, entries, ?_⟩
  · rw [List.forall₂_map_right_iff, List.forall₂_same]
    exact fun finding member => aligned_rowText (length_position_le member)
  · intro one
    have split : text.splitOn '\n' = findings.map (rowText width) ++ [[]] := by
      rw [rows, ← List.append_nil (List.flatMap _ _)]
      refine Text.splitOn_flatMap ?_ List.not_mem_nil
      exact List.forall_mem_map.mpr fun finding member => not_mem_rowText width (one finding member)
    refine ⟨split, ?_⟩
    rw [split, List.dropLast_concat, entries]

/-- Two rows whose positions have different widths; the second finding says nothing. -/
theorem terminal_rows_two :
    let findings : List Finding := [((Finding.atPosition 2 0).attach "code"
      (.string "W033")).attach "reason" (.string "Missing semicolon."), .atPosition 15 12]
    let text := (terminal false).render findings
    text = "  2:0    warning  Missing semicolon. (W033)\n  15:12  -        (no message)\n" ∧
    (∀ finding ∈ findings, OnOneLine finding) ∧
    (∃ finding ∈ findings, (position finding).length = 5) ∧
    (text.toList.splitOn '\n').dropLast.map Entry.ofLine =
      [⟨2, 0, some .warning⟩, ⟨15, 12, none⟩] := by
  intro findings text
  have one : ∀ finding ∈ findings, OnOneLine finding := by
    refine List.forall_mem_cons.mpr ⟨⟨?_, ?_⟩, List.forall_mem_singleton.mpr ⟨nofun, nofun⟩⟩
    · rintro reason ⟨⟩
      decide
    · rintro code ⟨⟩
      decide
  obtain ⟨widest, _, _, _, _, lines⟩ := terminal_rows findings
  refine ⟨?_, one, widest (List.cons_ne_nil _ _), (lines one).2⟩
  decide +kernel

end LintReport.Renderer
