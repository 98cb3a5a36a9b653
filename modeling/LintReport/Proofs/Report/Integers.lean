import LintReport.Proofs.Json.Numeral
import LintReport.Proofs.Report.Positions

/-!
# Integers in payloads

A payload keeps whole numbers of 64 bits, with or without sign, as they are. Every other integer is
kept as a floating-point number, which is written with a point or a power of ten. So a report shows
an integer as it was written just when it is in range (`readBatch_integer`); another one comes out
in a notation of its own, and rounded (`readBatch_integer_rounded`).
-/

namespace LintReport

namespace Binary64

/-- A decimal in full has a point. -/
theorem Decimal.point_mem_inFull (d : Decimal) : '.' ∈ d.inFull := by
  unfold inFull
  split
  · exact List.mem_append_left _ (List.mem_cons_of_mem _ List.mem_cons_self)
  · exact List.mem_append_right _ List.mem_cons_self

/-- A decimal with a power of ten has the mark of the power. -/
theorem Decimal.mark_mem_scientific (d : Decimal) : 'e' ∈ d.scientific := by
  unfold scientific
  dsimp only
  split
  · exact List.mem_cons_self
  · exact List.mem_cons_of_mem _ List.mem_cons_self
  · exact List.mem_append_right _ List.mem_cons_self

/-- A floating-point number never looks like an integer. -/
theorem mark_mem_write (layout : Layout) (x : Binary64) :
    '.' ∈ write layout x ∨ 'e' ∈ write layout x := by
  have body : ∀ text : List Char, text ⊆ if x.negative then '-' :: text else text := by
    intro text
    split
    · exact List.subset_cons_self _ _
    · exact List.Subset.refl _
  unfold write
  dsimp only
  apply Or.imp (@body _ _) (@body _ _)
  split
  · exact .inl (Decimal.point_mem_inFull _)
  · exact .inr (Decimal.mark_mem_scientific _)

end Binary64

/-- A whole number is written with digits and a sign only. -/
theorem Decimal.not_mem_integer {c : Char} (other : c.isDigit = false) (noSign : c ≠ '-')
    (number : Int) : c ∉ integer number := by
  unfold integer
  split
  · rw [List.mem_cons, not_or]
    exact ⟨noSign, not_mem_digits other _⟩
  · exact not_mem_digits other _

/-- An integer is a whole number within 64 bits when it has that value. -/
theorem Whole.ofInt?_eq_some {n : Int} {w : Whole} : ofInt? n = some w ↔ w.val = n := by
  constructor
  · exact val_of_ofInt?
  · rintro rfl
    simp only [ofInt?, w.lower, w.upper, and_self, ↓reduceDIte]

/-- The integers that are whole numbers of 64 bits. -/
theorem Whole.exists_val_eq_iff {n : Int} :
    (∃ w : Whole, w.val = n) ↔ -9223372036854775808 ≤ n ∧ n < 18446744073709551616 := by
  constructor
  · rintro ⟨w, rfl⟩
    exact ⟨w.lower, w.upper⟩
  · rintro ⟨lower, upper⟩
    exact ⟨⟨n, lower, upper⟩, rfl⟩

namespace Json

namespace Numeral

/-- The parts of an integer as it is written. -/
def ofInt (number : Int) : Numeral :=
  ⟨decide (number < 0), Decimal.digits number.natAbs, none, none⟩

/-- A written integer is its own numeral. -/
theorem stands_integer (number : Int) : Stands (Decimal.integer number) (ofInt number) [] := by
  have whole (n : Nat) : WholePart (Decimal.digits n) (Decimal.digits n) [] := by
    refine ⟨⟨Decimal.digits_ne_nil n, fun c => Decimal.isDigit_of_mem_digits,
      (List.append_nil _).symm⟩, fun leading => ?_⟩
    rcases Nat.eq_zero_or_pos n with rfl | positive
    · exact Nat.toDigits_zero 10
    · exact absurd leading (Decimal.head?_digits_ne_zero positive)
  unfold Decimal.integer ofInt
  by_cases negative : number < 0
  · rw [if_pos negative, decide_eq_true negative]
    exact .minus (whole _) .absent .absent
  · rw [if_neg negative, decide_eq_false negative]
    exact .plain (whole _) .absent .absent

/-- An integer in range is read as itself. -/
theorem number?_ofInt_whole (w : Whole) : (ofInt w.val).number? = some (.whole w) := by
  rw [number?, ofInt, toWhole?_integer]

/-- An integer that is not in range is read as a floating-point number, if at all. -/
theorem number?_ofInt_eq_some {number : Int} {n : JsonNumber}
    (reads : (ofInt number).number? = some n) :
    (∃ w : Whole, w.val = number ∧ n = .whole w) ∨
      (∀ w : Whole, w.val ≠ number) ∧ ∃ x, n = .double x := by
  rw [number?, ofInt, toWhole?_parts] at reads
  cases whole : Whole.ofInt? number with
  | some w =>
      rw [whole] at reads
      exact .inl ⟨w, Whole.ofInt?_eq_some.mp whole, (Option.some.inj reads).symm⟩
  | none =>
      rw [whole] at reads
      obtain ⟨x, _, double⟩ := Option.map_eq_some_iff.mp reads
      refine .inr ⟨fun w same => ?_, x, double.symm⟩
      cases whole.symm.trans (Whole.ofInt?_eq_some.mpr same)

end Numeral

/-- **What is written for an integer that was read** is that integer just when it is in range. -/
theorem writeNumber_of_integer {number : Int} {n : JsonNumber}
    (reads : (Numeral.ofInt number).number? = some n) :
    (writeNumber n = Decimal.integer number ↔ ∃ w : Whole, w.val = number) ∧
      ((∀ w : Whole, w.val ≠ number) → '.' ∈ writeNumber n ∨ 'e' ∈ writeNumber n) := by
  rcases Numeral.number?_ofInt_eq_some reads with ⟨w, rfl, rfl⟩ | ⟨outside, x, rfl⟩
  · exact ⟨iff_of_true rfl ⟨w, rfl⟩, fun outside => absurd rfl (outside w)⟩
  · have mark := Binary64.mark_mem_write .compact x
    refine ⟨iff_of_false (fun same => ?_) fun ⟨w, inside⟩ => outside w inside, fun _ => mark⟩
    rw [← writeNumber, same] at mark
    rcases mark with point | power
    · exact Decimal.not_mem_integer rfl (by decide) number point
    · exact Decimal.not_mem_integer rfl (by decide) number power

end Json

/-- The text of a batch of one finding with one member beside its position. -/
def memberBatch (name value : String) : String :=
  "[\x7b\"error\":\x7b\"line\":1,\"character\":0," ++ name ++ ":" ++ value ++ "\x7d\x7d]"

section Member

variable {name key value : String} {numeral : Json.Numeral}

/-- The characters of a batch of one finding with one more member. -/
theorem toList_memberBatch (name value : String) :
    (memberBatch name value).toList = '[' :: '{' :: ("\"error\":".toList ++ '{' ::
      ("\"line\":".toList ++ '1' :: ',' :: ("\"character\":".toList ++ '0' :: ',' ::
        (name.toList ++ ':' :: (value.toList ++ ['}', '}', ']']))))) := by
  have opening : "[\x7b\"error\":\x7b\"line\":1,\"character\":0,".toList =
    '[' :: '{' :: ("\"error\":".toList ++ '{' :: ("\"line\":".toList ++
      '1' :: ',' :: ("\"character\":".toList ++ ['0', ',']))) := by decide
  have between : ":".toList = [':'] := by decide
  have closing : "\x7d\x7d]".toList = ['}', '}', ']'] := by decide
  unfold memberBatch
  simp only [String.toList_append, opening, between, closing, List.append_assoc, List.cons_append,
    List.nil_append]

/-- The text of the batch is a document with that finding. -/
theorem document_memberBatch (named : Json.Document name (.string key))
    (stands : Json.Numeral.Stands value.toList numeral []) :
    Json.Document (memberBatch name value) (.list [.object [("error", .object
      [("line", .number (.ofInt 1)), ("character", .number (.ofInt 0)),
        (key, .number numeral)])]]) := by
  have last : Json.Spells (.member (key, .number numeral))
      (name.toList ++ ':' :: (value.toList ++ ['}', '}', ']'])) ['}', '}', ']'] := by
    cases named with
    | element before spelled after =>
        cases spelled with
        | string letters =>
            refine .member (before.append _) (letters.append _) (after.append _) ?_
            exact .element .none (.number (stands.append _)) .none
  have integer (number : Int) (more : List Char) :
      Json.Spells (.element (.number (.ofInt number))) (Decimal.integer number ++ more) more :=
    .element .none (.number ((Json.Numeral.stands_integer number).append more)) .none
  have both : Json.Spells (.members [("character", .number (.ofInt 0)), (key, .number numeral)])
      ("\"character\":".toList ++ '0' :: ',' ::
        (name.toList ++ ':' :: (value.toList ++ ['}', '}', ']']))) ['}', '}', ']'] := by
    refine .nextMember (.member .none (.of_plain "character".toList _ (by simp)) .none ?_)
      (.lastMember last)
    exact integer 0 _
  have members : Json.Spells (.members [("line", .number (.ofInt 1)),
      ("character", .number (.ofInt 0)), (key, .number numeral)])
      ("\"line\":".toList ++ '1' :: ',' :: ("\"character\":".toList ++ '0' :: ',' ::
        (name.toList ++ ':' :: (value.toList ++ ['}', '}', ']'])))) ['}', '}', ']'] := by
    refine .nextMember (.member .none (.of_plain "line".toList _ (by simp)) .none ?_) both
    exact integer 1 _
  unfold Json.Document
  rw [toList_memberBatch]
  refine .element .none (.list (.lastItem (.element .none (.object (.lastMember ?_)) .none))) .none
  apply Json.Spells.member .none (.of_plain "error".toList _ (by simp)) .none
  exact .element .none (.object members) .none

/-- The finding of such a batch, with the number in its payload. -/
def memberFinding (key : String) (n : JsonNumber) : Finding :=
  (Finding.atPosition 1 0).attach key (.number n)

/-- The member is all that the payload holds. -/
theorem members_memberFinding (free : key ∉ positionKeys) (n : JsonNumber) :
    (memberFinding key n).payload.members = [(key, .number n)] := by
  rw [memberFinding, Finding.attach, Payload.members_put, if_neg free]
  rfl

/-- The finding is written with its position and then the member. -/
theorem toJson_memberFinding (free : key ∉ positionKeys) (n : JsonNumber) :
    (memberFinding key n).toJson =
      .object [("line", .ofUInt64 1), ("character", .ofUInt64 0), (key, .number n)] := by
  rw [Finding.toJson, members_memberFinding free]
  rfl

/-- Such a batch is read when its numeral denotes a number. -/
theorem toOption_parse_memberBatch (named : Json.Document name (.string key))
    (free : key ∉ positionKeys) (stands : Json.Numeral.Stands value.toList numeral []) :
    (Json.parse (memberBatch name value)).toOption =
      numeral.number?.map fun n => .list [Record.wrap (memberFinding key n).toJson] := by
  rw [Json.toOption_parse (document_memberBatch named stands)]
  have one : (Json.Numeral.ofInt 1).number? = some (.whole (Whole.ofUInt64 1)) := rfl
  have zero : (Json.Numeral.ofInt 0).number? = some (.whole (Whole.ofUInt64 0)) := rfl
  have limit : Json.nestingLimit = 124 + 1 + 1 + 1 := rfl
  rw [limit]
  simp only [Json.Written.value?, Json.itemValues?, Json.memberValues?, one, zero,
    toJson_memberFinding free]
  cases numeral.number? with
  | none => rfl
  | some n =>
      have alone : ["error"].Nodup := by decide
      have apart := (memberFinding key n).nodup_keys_toJson
      rw [members_memberFinding free] at apart
      apply congrArg some
      apply Json.Distinct.settle_eq
      refine .list (List.forall_mem_singleton.mpr (.object alone ?_))
      refine List.forall_mem_singleton.mpr (.object apart ?_)
      exact List.forall_mem_cons.mpr ⟨.number _, List.forall_mem_cons.mpr
        ⟨.number _, List.forall_mem_singleton.mpr (.number n)⟩⟩

/-- A batch that is read has a number in its payload, and the report shows it. -/
theorem readBatch_memberBatch (named : Json.Document name (.string key))
    (free : key ∉ positionKeys) (stands : Json.Numeral.Stands value.toList numeral [])
    {records : List Record} :
    readBatch (memberBatch name value) = .ok records ↔
      ∃ n, numeral.number? = some n ∧ records = [.ofFinding (memberFinding key n)] := by
  have parses (items : List Json) : Json.parse (memberBatch name value) = .ok (.list items) ↔
      ∃ n, numeral.number? = some n ∧ items = [Record.wrap (memberFinding key n).toJson] := by
    rw [← Steps.toOption_eq_some, toOption_parse_memberBatch named free stands,
      Option.map_eq_some_iff]
    simp only [Json.list.injEq, eq_comm]
  have wrapped (n : JsonNumber) (others : List Record) :
      Record.ofJsonList 0 [Record.wrap (memberFinding key n).toJson] = .ok others ↔
        others = [.ofFinding (memberFinding key n)] := by
    have reads := Record.ofJsonList_wrapped 0 [memberFinding key n]
    simp only [List.map_cons, List.map_nil] at reads
    rw [reads, Except.ok.injEq, eq_comm]
  rw [readBatch_eq_ok]
  constructor
  · rintro ⟨items, list, reads⟩
    obtain ⟨n, number, rfl⟩ := (parses items).mp list
    exact ⟨n, number, (wrapped n records).mp reads⟩
  · rintro ⟨n, number, shown⟩
    exact ⟨_, (parses _).mpr ⟨n, number, rfl⟩, (wrapped n records).mpr shown⟩

/-- How the one finding of such a batch is reported. -/
theorem render_memberFinding (free : key ∉ positionKeys) (n : JsonNumber) (options : Options) :
    (Reporter.render ⟨options, .json⟩ [.ofFinding (memberFinding key n)]).toList =
      "[\x7b\"line\":1,\"character\":0,".toList ++ (Json.Text.write key ++ ':' ::
        (Json.writeNumber n ++ "\x7d]\n".toList)) := by
  rw [Reporter.render, Renderer.render, String.toList_ofList, Reporter.collect_singleton,
    Renderer.write_json_singleton, members_memberFinding free]
  have opening : "[\x7b\"line\":1,\"character\":0,".toList = "[\x7b\"line\":".toList ++
    (['1'] ++ (",\"character\":".toList ++ (['0'] ++ [',']))) := by decide
  have line : (memberFinding key n).line = 1 := rfl
  have character : (memberFinding key n).character = 0 := rfl
  have one : Decimal.digits (1 : UInt64).toNat = ['1'] := by decide
  have zero : Decimal.digits (0 : UInt64).toNat = ['0'] := by decide
  simp only [opening, line, character, one, zero, Json.writeMembers, Json.write, Bool.false_eq_true,
    ↓reduceIte, List.append_assoc, List.cons_append, List.nil_append, List.append_nil]

/-- **Integers in payloads.** A batch of one finding with an integer in its payload, under any key
that is none of the position, is read if the integer is in range. Whenever it is read, the JSON
report shows under the key the very literal that was read just when the integer is in range;
another integer is shown with a point or a power of ten. -/
theorem readBatch_integer (named : Json.Document name (.string key)) (free : key ∉ positionKeys)
    (number : Int) :
    let batch := memberBatch name (String.ofList (Decimal.integer number))
    let inRange := -9223372036854775808 ≤ number ∧ number < 18446744073709551616
    (inRange → ∃ records, readBatch batch = .ok records) ∧
    ∀ records, readBatch batch = .ok records → ∃ literal : List Char,
      (∀ options : Options, (Reporter.render ⟨options, .json⟩ records).toList =
        "[\x7b\"line\":1,\"character\":0,".toList ++ (Json.Text.write key ++ ':' ::
          (literal ++ "\x7d]\n".toList))) ∧
      (literal = Decimal.integer number ↔ inRange) ∧
      (¬ inRange → '.' ∈ literal ∨ 'e' ∈ literal) := by
  intro batch inRange
  have stands : Json.Numeral.Stands (String.ofList (Decimal.integer number)).toList
      (.ofInt number) [] := by
    rw [String.toList_ofList]
    exact Json.Numeral.stands_integer number
  have whole : (∃ w : Whole, w.val = number) ↔ inRange := Whole.exists_val_eq_iff
  constructor
  · intro inside
    obtain ⟨w, rfl⟩ := whole.mpr inside
    exact ⟨_, (readBatch_memberBatch named free stands).mpr
      ⟨_, Json.Numeral.number?_ofInt_whole w, rfl⟩⟩
  · intro records reads
    obtain ⟨n, denotes, rfl⟩ := (readBatch_memberBatch named free stands).mp reads
    obtain ⟨same, mark⟩ := Json.writeNumber_of_integer denotes
    refine ⟨Json.writeNumber n, render_memberFinding free n, same.trans whole, fun outside => ?_⟩
    exact mark fun w here => outside (whole.mp ⟨w, here⟩)

end Member

/-- The least whole number of 64 bits, under a key that is written with an escape. -/
theorem readBatch_integer_least :
    let name := "\"\\u006e\""
    let batch := memberBatch name "-9223372036854775808"
    Json.Document name (.string "n") ∧ "n" ∉ positionKeys ∧
    ∃ records, readBatch batch = .ok records ∧ ∀ options : Options,
      Reporter.render ⟨options, .json⟩ records =
        "[\x7b\"line\":1,\"character\":0,\"n\":-9223372036854775808\x7d]\n" := by
  intro name batch
  have letters : Json.Text.Letters ['\\', 'u', '0', '0', '6', 'e', '"'] ['n'] [] :=
    .unit (.digits (@Json.Text.HexDigit.lower 0 (by decide))
      (@Json.Text.HexDigit.lower 0 (by decide)) (@Json.Text.HexDigit.lower 6 (by decide))
      (@Json.Text.HexDigit.lower 14 (by decide))) (by decide) .close
  have spelled : name.toList = '"' :: ['\\', 'u', '0', '0', '6', 'e', '"'] := by decide
  have named : Json.Document name (.string "n") := by
    rw [Json.Document, spelled]
    exact .element .none (.string letters) .none
  have free : "n" ∉ positionKeys := by decide
  obtain ⟨accepts, shows⟩ := readBatch_integer named free (-9223372036854775808)
  obtain ⟨records, reads⟩ := accepts (by decide)
  obtain ⟨literal, report, same, _⟩ := shows records reads
  refine ⟨named, free, records, reads, fun options => String.toList_inj.mp ?_⟩
  rw [report options, same.mpr (by decide)]
  decide

/-- The first integer beyond 64 bits is read, and comes out as another number. -/
theorem readBatch_integer_rounded :
    let batch (literal : String) :=
      "[\x7b\"error\":\x7b\"line\":1,\"character\":0,\"n\":" ++ literal ++ "\x7d\x7d]"
    let report (literal : String) :=
      "[\x7b\"line\":1,\"character\":0,\"n\":" ++ literal ++ "\x7d]\n"
    ∃ records, readBatch (batch "18446744073709551616") = .ok records ∧
      Reporter.render ⟨.default, .json⟩ records = report "1.8446744073709552e+19" ∧
      Reporter.render ⟨.default, .json⟩ records ≠ report "18446744073709551616" := by
  intro batch report
  have named : Json.Document "\"n\"" (.string "n") :=
    .element .none (.string (.of_plain "n".toList [] (by simp))) .none
  have free : "n" ∉ positionKeys := by decide
  have literal : "18446744073709551616".toList = Decimal.integer 18446744073709551616 := by decide
  have stands : Json.Numeral.Stands "18446744073709551616".toList
      (.ofInt 18446744073709551616) [] :=
    literal ▸ Json.Numeral.stands_integer 18446744073709551616
  have double : (Json.Numeral.ofInt 18446744073709551616).number? =
      some (.double ⟨false, 4503599627370496, 12⟩) := by
    decide +kernel
  have sent : batch "18446744073709551616" = memberBatch "\"n\"" "18446744073709551616" := by
    decide
  have written : Json.writeNumber (.double ⟨false, 4503599627370496, 12⟩) =
      "1.8446744073709552e+19".toList := by
    decide +kernel
  have shown : Reporter.render ⟨.default, .json⟩ [.ofFinding (memberFinding "n"
      (.double ⟨false, 4503599627370496, 12⟩))] = report "1.8446744073709552e+19" := by
    apply String.toList_inj.mp
    rw [render_memberFinding free, written]
    decide
  refine ⟨_, ?_, shown, shown.symm ▸ by decide⟩
  rw [sent]
  exact (readBatch_memberBatch named free stands).mpr ⟨_, double, rfl⟩

end LintReport
