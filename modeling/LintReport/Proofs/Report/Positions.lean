import LintReport.Proofs.Json.Valued
import LintReport.Proofs.Release.Padding
import LintReport.Proofs.Report.Acceptance
import LintReport.Report.Delivery

/-!
# Positions

The numbers of a position are natural numbers of 64 bits, and no others are taken for them. A
numeral is one when it has no sign, no point and no power of ten, and its value is in range
(`Json.Numeral.Natural`); it is then the one way in which the number is written. So a batch of one
finding is read exactly when its line and its character are such numerals, and both are written
again as they were (`readBatch_position`).
-/

namespace LintReport

/-- An integer within 64 bits keeps its value. -/
theorem Whole.val_of_ofInt? {n : Int} {w : Whole} (inRange : ofInt? n = some w) : w.val = n := by
  unfold ofInt? at inRange
  split at inRange
  · cases inRange
    rfl
  · cases inRange

namespace Json

namespace Numeral

/-- A numeral without sign, point and power of ten, and the 64-bit natural number that its digits
denote. -/
structure Natural (numeral : Numeral) (n : UInt64) : Prop where
  unsigned : numeral.negative = false
  noFraction : numeral.fraction = none
  noExponent : numeral.exponent = none
  denotes : Decimal.Numeral numeral.whole n.toNat

/-- The whole part of a numeral consists of digits and has at least one. -/
theorem Stands.digits {text rest : List Char} {numeral : Numeral}
    (stands : Stands text numeral rest) :
    numeral.whole ≠ [] ∧ ∀ c ∈ numeral.whole, c.isDigit = true := by
  cases stands with
  | plain front _ _ | minus front _ _ => exact ⟨front.nonempty, front.only⟩

/-- A natural number is written in one way only. -/
theorem Natural.eq_digits {text : List Char} {numeral : Numeral} {n : UInt64}
    (natural : numeral.Natural n) (stands : Stands text numeral []) :
    text = Decimal.digits n.toNat := by
  obtain ⟨unsigned, noFraction, noExponent, denotes⟩ := natural
  cases stands with
  | minus _ _ _ => cases unsigned
  | @plain _ _ _ _ whole _ _ front middle back =>
      cases noFraction
      cases noExponent
      cases middle
      cases back
      have plain : ¬ Decimal.Padded whole := by
        rintro ⟨c, rest, rfl⟩
        cases front.leading rfl
      rw [Decimal.digits_of_numeral denotes plain, front.split, List.append_nil]

/-- A plain numeral is read as its number. -/
theorem Natural.toWhole? {numeral : Numeral} {n : UInt64} (natural : numeral.Natural n) :
    numeral.toWhole? = some (Whole.ofUInt64 n) := by
  obtain ⟨unsigned, noFraction, noExponent, denotes⟩ := natural
  obtain ⟨_, _, value⟩ := Decimal.numeral_iff.mp denotes
  have below := n.toNat_lt
  have inRange : -9223372036854775808 ≤ (n.toNat : Int) ∧
      (n.toNat : Int) < 18446744073709551616 := by omega
  simp only [Numeral.toWhole?, noFraction, noExponent, unsigned, Bool.false_eq_true, ↓reduceIte,
    value, Whole.ofInt?, inRange, and_self, ↓reduceDIte, Whole.ofUInt64]

/-- Only a plain numeral is read as a 64-bit natural number. -/
theorem natural_of_toWhole? {numeral : Numeral} {n : UInt64} (nonempty : numeral.whole ≠ [])
    (only : ∀ c ∈ numeral.whole, c.isDigit = true)
    (reads : numeral.toWhole? = some (Whole.ofUInt64 n)) : numeral.Natural n := by
  have digits : numeral.whole.all Char.isDigit = true := List.all_eq_true.mpr only
  unfold Numeral.toWhole? at reads
  dsimp only at reads
  split at reads
  · next noFraction noExponent =>
      split at reads
      · -- A number after a minus sign is negative, since the negative zero is not whole.
        split at reads
        · cases reads
        · have value := Whole.val_of_ofInt? reads
          simp only [Whole.ofUInt64] at value
          omega
      · next positive =>
          have value := Whole.val_of_ofInt? reads
          refine ⟨Bool.eq_false_iff.mpr positive, noFraction, noExponent, ?_⟩
          exact Decimal.numeral_iff.mpr ⟨nonempty, digits, (Int.ofNat_inj.mp value).symm⟩
  · cases reads

/-- A numeral is natural when it stands for a natural number. -/
theorem natural_iff {text rest : List Char} {numeral : Numeral} {n : UInt64}
    (stands : Stands text numeral rest) :
    numeral.Natural n ↔ numeral.number?.map Json.number = some (.ofUInt64 n) := by
  obtain ⟨nonempty, only⟩ := stands.digits
  unfold number?
  constructor
  · intro natural
    rw [natural.toWhole?]
    rfl
  · intro natural
    apply natural_of_toWhole? nonempty only
    cases whole : numeral.toWhole? with
    | some w =>
        rw [whole] at natural
        cases natural
        rfl
    | none =>
        rw [whole] at natural
        cases double : numeral.toDouble.toOption with
        | some x =>
            rw [double] at natural
            cases natural
        | none =>
            rw [double] at natural
            cases natural

end Numeral

/-- The text of a numeral denotes what the numeral stands for. -/
theorem toOption_parse_numeral {text : String} {numeral : Numeral}
    (stands : Numeral.Stands text.toList numeral []) :
    (parse text).toOption = numeral.number?.map Json.number := by
  have document : Document text (.number numeral) := .element .none (.number stands) .none
  rw [toOption_parse document, Written.value?]
  cases numeral.number? <;> rfl

end Json

/-- The text of a batch of one finding of which only the position is given. -/
def positionBatch (line character : String) : String :=
  "[\x7b\"error\":\x7b\"line\":" ++ line ++ ",\"character\":" ++ character ++ "\x7d\x7d]"

/-- The characters of a batch of one finding at a position. -/
theorem toList_positionBatch (line character : String) :
    (positionBatch line character).toList = '[' :: '{' :: ("\"error\":".toList ++ '{' ::
      ("\"line\":".toList ++ (line.toList ++ ',' :: ("\"character\":".toList ++
        (character.toList ++ ['}', '}', ']']))))) := by
  have opening : "[\x7b\"error\":\x7b\"line\":".toList =
    '[' :: '{' :: ("\"error\":".toList ++ '{' :: "\"line\":".toList) := by decide
  have between : ",\"character\":".toList = ',' :: "\"character\":".toList := by decide
  have closing : "\x7d\x7d]".toList = ['}', '}', ']'] := by decide
  unfold positionBatch
  simp only [String.toList_append, opening, between, closing, List.append_assoc, List.cons_append]

/-- The text of the batch is a document with that position. -/
theorem document_positionBatch {p q : String} {line character : Json.Numeral}
    (first : Json.Numeral.Stands p.toList line [])
    (second : Json.Numeral.Stands q.toList character []) :
    Json.Document (positionBatch p q)
      (.list [.object [("error",
        .object [("line", .number line), ("character", .number character)])]]) := by
  have last : Json.Spells (.member ("character", .number character))
      ("\"character\":".toList ++ (q.toList ++ ['}', '}', ']'])) ['}', '}', ']'] := by
    apply Json.Spells.member .none (.of_plain "character".toList _ (by simp)) .none
    exact .element .none (.number (second.append _)) .none
  have both : Json.Spells (.members [("line", .number line), ("character", .number character)])
      ("\"line\":".toList ++ (p.toList ++ ',' :: ("\"character\":".toList ++
        (q.toList ++ ['}', '}', ']'])))) ['}', '}', ']'] := by
    refine .nextMember (.member .none (.of_plain "line".toList _ (by simp)) .none ?_)
      (.lastMember last)
    exact .element .none (.number (first.append _)) .none
  unfold Json.Document
  rw [toList_positionBatch]
  refine .element .none (.list (.lastItem (.element .none (.object (.lastMember ?_)) .none))) .none
  apply Json.Spells.member .none (.of_plain "error".toList _ (by simp)) .none
  exact .element .none (.object both) .none

/-- A batch of one finding denotes a list of one record, if its two numerals denote numbers. -/
theorem toOption_parse_positionBatch {p q : String} {line character : Json.Numeral}
    (first : Json.Numeral.Stands p.toList line [])
    (second : Json.Numeral.Stands q.toList character []) :
    (Json.parse (positionBatch p q)).toOption = (Json.parse p).toOption.bind fun line =>
      (Json.parse q).toOption.map fun character =>
        .list [Record.wrap (.object [("line", line), ("character", character)])] := by
  rw [Json.toOption_parse (document_positionBatch first second),
    Json.toOption_parse_numeral first, Json.toOption_parse_numeral second]
  have limit : Json.nestingLimit = 124 + 1 + 1 + 1 := rfl
  rw [limit]
  simp only [Json.Written.value?, Json.itemValues?, Json.memberValues?]
  cases line.number? with
  | none => rfl
  | some m =>
      cases character.number? with
      | none => rfl
      | some n =>
          apply congrArg some
          apply Json.Distinct.settle_eq
          have alone : ["error"].Nodup := by decide
          have apart : ["line", "character"].Nodup := by decide
          refine .list (List.forall_mem_singleton.mpr (.object alone ?_))
          refine List.forall_mem_singleton.mpr (.object apart ?_)
          exact List.forall_mem_cons.mpr
            ⟨.number m, List.forall_mem_singleton.mpr (.number n)⟩

/-- A natural number is written without a sign. -/
theorem Decimal.integer_ofUInt64 (n : UInt64) :
    integer (Whole.ofUInt64 n).val = digits n.toNat := by
  have positive : ¬ (Whole.ofUInt64 n).val < 0 := by
    simp only [Whole.ofUInt64]
    omega
  rw [integer, if_neg positive]
  rfl

namespace Renderer

/-- How one finding is written. -/
theorem write_json_singleton (finding : Finding) :
    json.write [finding] = "[\x7b\"line\":".toList ++ (Decimal.digits finding.line.toNat ++
      (",\"character\":".toList ++ (Decimal.digits finding.character.toNat ++
        (Json.writeMembers false finding.payload.members ++ "\x7d]\n".toList)))) := by
  have lineKey : Json.Text.write "line" = "\"line\"".toList := by decide
  have characterKey : Json.Text.write "character" = "\"character\"".toList := by decide
  have opening : "[\x7b\"line\":".toList = '[' :: '{' :: ("\"line\"".toList ++ [':']) := by decide
  have between : ",\"character\":".toList = ',' :: ("\"character\"".toList ++ [':']) := by decide
  have closing : "\x7d]\n".toList = ['}', ']', '\n'] := by decide
  simp only [write, List.map_cons, List.map_nil, Finding.toJson, Json.write, Json.writeItems,
    Json.writeMembers, Json.ofUInt64, Json.writeNumber, lineKey, characterKey,
    Decimal.integer_ofUInt64, opening, between, closing, ↓reduceIte, Bool.false_eq_true,
    List.append_assoc, List.cons_append, List.nil_append, List.append_nil]

variable (line character : UInt64)

/-- How one finding is written of which only the position is known. -/
theorem write_json_atPosition :
    json.write [.atPosition line character] =
      "[\x7b\"line\":".toList ++ (Decimal.digits line.toNat ++ (",\"character\":".toList ++
        (Decimal.digits character.toNat ++ "\x7d]\n".toList))) := write_json_singleton _

/-- The row of a finding that has only a position. -/
theorem row_atPosition :
    row (positionWidth [.atPosition line character]) (.atPosition line character) =
      "  ".toList ++ (Decimal.digits line.toNat ++ (":".toList ++
        (Decimal.digits character.toNat ++ "  -        (no message)\n".toList))) := by
  have shown : padded (positionWidth [.atPosition line character])
      (position (.atPosition line character)) =
      Decimal.digits line.toNat ++ (":".toList ++ Decimal.digits character.toNat) := by
    simp only [padded, positionWidth, List.foldl_cons, List.foldl_nil, Nat.zero_max, Nat.sub_self,
      List.replicate_zero, List.append_nil]
    rfl
  have behind : [' ', ' '] ++ (padded 7 (severityWord (.atPosition line character)) ++
      ([' ', ' '] ++ (reasonText (.atPosition line character) ++
        (codeText (.atPosition line character) ++ ['\n'])))) =
      "  -        (no message)\n".toList := by
    have severity : Finding.severity? (.atPosition line character) = none := rfl
    have reason : Finding.reason? (.atPosition line character) = none := rfl
    have code : Finding.code? (.atPosition line character) = none := rfl
    simp only [severityWord, reasonText, codeText, severity, reason, code]
    decide
  have margin : [' ', ' '] = "  ".toList := by decide
  simp only [row, List.append_assoc, shown, behind]
  rw [margin]

/-- How one finding is shown of which only the position is known. -/
theorem write_terminal_atPosition (footer : Bool) :
    (terminal footer).write [.atPosition line character] =
      "  ".toList ++ (Decimal.digits line.toNat ++ (":".toList ++
        (Decimal.digits character.toNat ++ ("  -        (no message)\n".toList ++
          if footer then "\n0 error(s), 0 warning(s)\n".toList else [])))) := by
  have summary : footerLines [.atPosition line character] =
      "\n0 error(s), 0 warning(s)\n".toList := by
    have none : Tally.ofFindings [.atPosition line character] = ⟨0, 0, 0, 1⟩ := rfl
    have rows : [Finding.atPosition line character].isEmpty = false := rfl
    simp only [footerLines, none, rows]
    decide
  simp only [write, table, List.flatMap_cons, List.flatMap_nil, row_atPosition, summary,
    List.append_assoc, List.append_nil]

end Renderer

/-- A finding alone is collected alone. -/
theorem Reporter.collect_singleton (reporter : Reporter) (finding : Finding) :
    reporter.collect [.ofFinding finding] = [finding] := by
  unfold collect
  split
  · exact List.mergeSort_singleton finding
  · rfl

section Batch

variable {p q : String} {P Q : Json.Numeral} {line character : Json}

/-- A numeral is plain exactly when it is read as a 64-bit natural number. -/
theorem Json.parse_numeral_eq_ofUInt64_iff {n : UInt64} (stands : Numeral.Stands p.toList P []) :
    P.Natural n ↔ parse p = .ok (.ofUInt64 n) := by
  rw [Numeral.natural_iff stands, ← toOption_parse_numeral stands, Steps.toOption_eq_some]

theorem Json.exists_number_of_parse_numeral (stands : Numeral.Stands p.toList P [])
    (reads : parse p = .ok line) : ∃ n, line = .number n := by
  have found := Steps.toOption_eq_some.mpr reads
  rw [toOption_parse_numeral stands] at found
  obtain ⟨n, _, same⟩ := Option.map_eq_some_iff.mp found
  exact ⟨n, same.symm⟩

/-- The text of the batch is read as one wrapped finding at the values of the two numerals. -/
theorem parse_positionBatch (first : Json.Numeral.Stands p.toList P [])
    (second : Json.Numeral.Stands q.toList Q []) (reads : Json.parse p = .ok line)
    (readsToo : Json.parse q = .ok character) :
    Json.parse (positionBatch p q) =
      .ok (.list [Record.wrap (.object [("line", line), ("character", character)])]) := by
  apply Steps.toOption_eq_some.mp
  rw [toOption_parse_positionBatch first second, reads, readsToo]
  rfl

/-- A batch of one record is refused for the defect of its finding. -/
theorem readBatch_wrapped_eq_error {text : String} {members : Members} {defect : Defect}
    (parses : Json.parse text = .ok (.list [Record.wrap (.object members)]))
    (wrong : Finding.HasDefect (.object members) defect) :
    readBatch text = .error (.record 0 defect) := by
  refine readBatch_eq_record.mpr ⟨_, parses, Record.ofJsonList_eq_error.mpr ?_⟩
  refine ⟨[], _, [], rfl, List.forall_mem_nil _, Record.ofJson_eq_error.mpr ?_, rfl⟩
  exact .finding (.absent (.inl rfl)) rfl (by rintro ⟨⟩) wrong

section Read

variable (first : Json.Numeral.Stands p.toList P []) (second : Json.Numeral.Stands q.toList Q [])

include first second

/-- Plain numerals give a batch with that position. -/
theorem readBatch_of_natural {line character : UInt64} (natural : P.Natural line)
    (naturalToo : Q.Natural character) :
    readBatch (positionBatch p q) = .ok [.ofFinding (.atPosition line character)] := by
  have reads := (Json.parse_numeral_eq_ofUInt64_iff first).mp natural
  have readsToo := (Json.parse_numeral_eq_ofUInt64_iff second).mp naturalToo
  refine readBatch_eq_ok.mpr ⟨_, parse_positionBatch first second reads readsToo, ?_⟩
  exact Record.ofJsonList_wrapped 0 [.atPosition line character]

/-- Any other numeral for the line is refused, and the line is named. -/
theorem readBatch_of_odd_line (reads : Json.parse p = .ok line)
    (readsToo : Json.parse q = .ok character) (odd : ∀ n, ¬ P.Natural n) :
    readBatch (positionBatch p q) = .error (.record 0 (.notNatural "line" line)) := by
  apply readBatch_wrapped_eq_error (parse_positionBatch first second reads readsToo)
  refine .line (.notNatural rfl ?_ ?_)
  · obtain ⟨n, rfl⟩ := Json.exists_number_of_parse_numeral first reads
    rintro ⟨⟩
  · rintro n rfl
    exact odd n ((Json.parse_numeral_eq_ofUInt64_iff first).mpr reads)

/-- Any other numeral for the character is refused when the line is in order. -/
theorem readBatch_of_odd_character {n : UInt64} (natural : P.Natural n)
    (readsToo : Json.parse q = .ok character) (odd : ∀ n, ¬ Q.Natural n) :
    readBatch (positionBatch p q) = .error (.record 0 (.notNatural "character" character)) := by
  have reads := (Json.parse_numeral_eq_ofUInt64_iff first).mp natural
  apply readBatch_wrapped_eq_error (parse_positionBatch first second reads readsToo)
  refine .character rfl (.notNatural rfl ?_ ?_)
  · obtain ⟨n, rfl⟩ := Json.exists_number_of_parse_numeral second readsToo
    rintro ⟨⟩
  · rintro n rfl
    exact odd n ((Json.parse_numeral_eq_ofUInt64_iff second).mpr readsToo)

/-- A numeral that denotes no number makes the whole batch unreadable. -/
theorem readBatch_of_unreadable
    (fails : (∃ error, Json.parse p = .error error) ∨ ∃ error, Json.parse q = .error error) :
    ∃ error, readBatch (positionBatch p q) = .error (.unreadable error) := by
  have nothing : (Json.parse (positionBatch p q)).toOption = none := by
    rw [toOption_parse_positionBatch first second]
    rcases fails with ⟨error, fails⟩ | ⟨error, fails⟩
    · rw [fails]
      rfl
    · rw [fails]
      exact Option.bind_fun_none _
  obtain ⟨error, unreadable⟩ := Steps.toOption_eq_none.mp nothing
  refine ⟨error, ?_⟩
  unfold readBatch
  rw [unreadable]

/-- A batch that is read has plain numerals only. -/
theorem natural_of_readBatch {records : List Record}
    (reads : readBatch (positionBatch p q) = .ok records) :
    (∃ n, P.Natural n) ∧ ∃ n, Q.Natural n := by
  cases numeral : Json.parse p with
  | error error =>
      obtain ⟨_, fails⟩ := readBatch_of_unreadable first second (.inl ⟨error, numeral⟩)
      cases reads.symm.trans fails
  | ok line =>
      cases other : Json.parse q with
      | error error =>
          obtain ⟨_, fails⟩ := readBatch_of_unreadable first second (.inr ⟨error, other⟩)
          cases reads.symm.trans fails
      | ok character =>
          by_cases natural : ∃ n, P.Natural n
          · refine ⟨natural, Classical.byContradiction fun odd => ?_⟩
            obtain ⟨n, natural⟩ := natural
            have fails := readBatch_of_odd_character first second natural other
              (not_exists.mp odd)
            cases reads.symm.trans fails
          · have fails := readBatch_of_odd_line first second numeral other (not_exists.mp natural)
            cases reads.symm.trans fails

/-- Numbers are shown as the numerals that they were read from. -/
theorem Reporter.render_of_natural {line character : UInt64} (natural : P.Natural line)
    (naturalToo : Q.Natural character) (options : Options) :
    let records : List Record := [.ofFinding (.atPosition line character)]
    Reporter.render ⟨options, .json⟩ records =
      "[\x7b\"line\":" ++ p ++ ",\"character\":" ++ q ++ "\x7d]\n" ∧
    ∀ footer, Reporter.render ⟨options, .terminal footer⟩ records =
      "  " ++ p ++ ":" ++ q ++ "  -        (no message)\n" ++
        if footer then "\n0 error(s), 0 warning(s)\n" else "" := by
  have digits := natural.eq_digits first
  have digitsToo := naturalToo.eq_digits second
  refine ⟨?_, fun footer => ?_⟩
  · apply String.toList_inj.mp
    rw [render, Renderer.render, collect_singleton, Renderer.write_json_atPosition]
    simp only [String.toList_ofList, String.toList_append, digits, digitsToo, List.append_assoc]
  · apply String.toList_inj.mp
    rw [render, Renderer.render, collect_singleton, Renderer.write_terminal_atPosition]
    simp only [String.toList_ofList, String.toList_append, digits, digitsToo, List.append_assoc]
    cases footer <;> rfl

end Read

/-- **Positions are read and written exactly.** A batch of one finding at a position that is
written with two numerals is read when both are natural numbers of 64 bits. What is read has these
two numbers, and JSON and tables show them as they were written. When both numerals denote numbers
at all, the line is named if it is not such a number, and else the character. -/
theorem readBatch_position (first : Json.Numeral.Stands p.toList P [])
    (second : Json.Numeral.Stands q.toList Q []) :
    ((∃ records, readBatch (positionBatch p q) = .ok records) ↔
      (∃ n, P.Natural n) ∧ ∃ n, Q.Natural n) ∧
    (∀ line character, P.Natural line → Q.Natural character →
      let records : List Record := [.ofFinding (.atPosition line character)]
      readBatch (positionBatch p q) = .ok records ∧ ∀ options : Options,
        Reporter.render ⟨options, .json⟩ records =
          "[\x7b\"line\":" ++ p ++ ",\"character\":" ++ q ++ "\x7d]\n" ∧
        ∀ footer, Reporter.render ⟨options, .terminal footer⟩ records =
          "  " ++ p ++ ":" ++ q ++ "  -        (no message)\n" ++
            if footer then "\n0 error(s), 0 warning(s)\n" else "") ∧
    (∀ line character, Json.parse p = .ok line → Json.parse q = .ok character →
      ((∀ n, ¬ P.Natural n) →
        readBatch (positionBatch p q) = .error (.record 0 (.notNatural "line" line))) ∧
      ((∃ n, P.Natural n) → (∀ n, ¬ Q.Natural n) →
        readBatch (positionBatch p q) = .error (.record 0 (.notNatural "character" character)))) ∧
    ((∃ error, Json.parse p = .error error) ∨ (∃ error, Json.parse q = .error error) →
      ∃ error, readBatch (positionBatch p q) = .error (.unreadable error)) := by
  refine ⟨⟨fun ⟨_, reads⟩ => natural_of_readBatch first second reads, ?_⟩, ?_, ?_,
    readBatch_of_unreadable first second⟩
  · rintro ⟨⟨_, natural⟩, _, naturalToo⟩
    exact ⟨_, readBatch_of_natural first second natural naturalToo⟩
  · exact fun _ _ natural naturalToo => ⟨readBatch_of_natural first second natural naturalToo,
      Reporter.render_of_natural first second natural naturalToo⟩
  · exact fun _ _ reads readsToo => ⟨readBatch_of_odd_line first second reads readsToo,
      fun ⟨_, natural⟩ => readBatch_of_odd_character first second natural readsToo⟩

/-- The largest number of 64 bits is read and shown; a negative number is refused by name; the
number after the largest, and one with a point, are not read either. -/
theorem readBatch_position_largest :
    let records : List Record := [.ofFinding (.atPosition 18446744073709551615 0)]
    readBatch (positionBatch "18446744073709551615" "0") = .ok records ∧
    Reporter.render ⟨.default, .json⟩ records =
      "[\x7b\"line\":18446744073709551615,\"character\":0\x7d]\n" ∧
    readBatch (positionBatch "0" "-1") = .error (.record 0
      (.notNatural "character" (.number (.whole ⟨-1, by decide, by decide⟩)))) ∧
    (¬ ∃ records, readBatch (positionBatch "18446744073709551616" "0") = .ok records) ∧
    ¬ ∃ records, readBatch (positionBatch "0" "1.0") = .ok records := by
  intro records
  have digits (run : List Char) (nonempty : run ≠ []) (only : run.all Char.isDigit = true) :
      Json.Numeral.Digits run run [] :=
    ⟨nonempty, List.all_eq_true.mp only, (List.append_nil run).symm⟩
  have plain (run : List Char) (nonempty : run ≠ []) (only : run.all Char.isDigit = true)
      (leading : run.head? = some '0' → run = ['0']) :
      Json.Numeral.Stands run ⟨false, run, none, none⟩ [] :=
    .plain ⟨digits run nonempty only, leading⟩ .absent .absent
  have zero : Json.Numeral.Stands "0".toList ⟨false, ['0'], none, none⟩ [] :=
    plain ['0'] (by decide) (by decide) (by decide)
  have largest := plain "18446744073709551615".toList (by decide) (by decide) (by decide)
  have tooLarge := plain "18446744073709551616".toList (by decide) (by decide) (by decide)
  have one (rest : List Char) : Json.Numeral.WholePart ('1' :: rest) ['1'] rest :=
    ⟨(digits ['1'] (by decide) (by decide)).append rest, by decide⟩
  have negative : Json.Numeral.Stands "-1".toList ⟨true, ['1'], none, none⟩ [] :=
    .minus (one []) .absent .absent
  have fractional : Json.Numeral.Stands "1.0".toList ⟨false, ['1'], some ['0'], none⟩ [] :=
    .plain (one ['.', '0']) (.digits (digits ['0'] (by decide) (by decide))) .absent
  have naturalZero : Json.Numeral.Natural ⟨false, ['0'], none, none⟩ 0 :=
    ⟨rfl, rfl, rfl, Decimal.numeral_iff.mpr (by decide)⟩
  have naturalLargest : Json.Numeral.Natural ⟨false, "18446744073709551615".toList, none, none⟩
      18446744073709551615 := ⟨rfl, rfl, rfl, Decimal.numeral_iff.mpr (by decide)⟩
  obtain ⟨_, accepted, _, _⟩ := readBatch_position largest zero
  obtain ⟨reads, shows⟩ := accepted _ _ naturalLargest naturalZero
  obtain ⟨_, _, refused, _⟩ := readBatch_position zero negative
  have readsZero := (Json.parse_numeral_eq_ofUInt64_iff zero).mp naturalZero
  have readsNegative : Json.parse "-1" = .ok (.number (.whole ⟨-1, by decide, by decide⟩)) := by
    apply Steps.toOption_eq_some.mp
    rw [Json.toOption_parse_numeral negative]
    rfl
  obtain ⟨_, names⟩ := refused _ _ readsZero readsNegative
  refine ⟨reads, (shows .default).1, names ⟨0, naturalZero⟩ ?_, ?_, ?_⟩
  · rintro n ⟨impossible, _⟩
    cases impossible
  · rw [(readBatch_position tooLarge zero).1]
    rintro ⟨⟨n, natural⟩, _⟩
    have value : Decimal.value "18446744073709551616".toList = 18446744073709551616 := by decide
    have below := n.toNat_lt
    have denotes := (Decimal.numeral_iff.mp natural.denotes).2.2
    dsimp only at denotes
    omega
  · rw [(readBatch_position zero fractional).1]
    rintro ⟨_, n, _, noFraction, _⟩
    cases noFraction

end Batch

end LintReport
