import LintReport.Proofs.Finding.Record
import LintReport.Proofs.Finding.Severity
import LintReport.Proofs.Report.Batch

/-!
# Findings that members are attached to

Members are attached to a finding one after another, in any number and with any keys, among them
keys of the position and keys that are attached again. The position stays, and the payload is what
an object of the same members would give (`Finding.attachAll_atPosition`): its keys are those that
were given besides the position, where they came first, each with the value that came last. The
severity is decided by two of these values (`Finding.severity?_eq_some`). Whatever was attached,
the finding makes an object without repeated keys, and is read back from it
(`Finding.attachAll_decided`).
-/

namespace LintReport

theorem Json.toText?_eq_some {value : Json} {text : String} :
    value.toText? = some text ↔ value = .string text := by
  cases value <;> simp only [toText?, Option.some.injEq, reduceCtorEq, string.injEq]

namespace Members

theorem get?_eq_none {members : Members} {key : String} (absent : key ∉ members.keys) :
    members.get? key = none := by
  cases found : members.get? key with
  | none => rfl
  | some value => exact absurd (List.mem_map.mpr ⟨_, mem_of_get? found, rfl⟩) absent

/-- Of the members besides the position the keys are those that name no position. -/
theorem keys_besidesPosition (members : Members) :
    members.besidesPosition.keys = members.keys.filter (· ∉ positionKeys) := by
  unfold keys besidesPosition
  rw [List.filter_map]
  rfl

/-- Under any other key the members besides the position hold the same. -/
theorem get?_besidesPosition (members : Members) {key : String} (other : key ∉ positionKeys) :
    members.besidesPosition.get? key = members.get? key := by
  induction members with
  | nil => rfl
  | cons member rest ih =>
      unfold besidesPosition at ih ⊢
      by_cases position : member.1 ∈ positionKeys
      · have different : key ≠ member.1 := fun same => other (same ▸ position)
        rw [List.filter_cons_of_neg (by simpa using position), get?_cons, if_neg different, ih]
      · rw [List.filter_cons_of_pos (by simpa using position), get?_cons, get?_cons, ih]

/-- Under any other key the same value comes last. -/
theorem last?_besidesPosition (members : Members) {key : String} (other : key ∉ positionKeys) :
    members.besidesPosition.last? key = members.last? key := by
  have reversed : members.besidesPosition.reverse = besidesPosition members.reverse :=
    List.filter_reverse.symm
  unfold last?
  rw [reversed, get?_besidesPosition _ other]

end Members

namespace Payload

/-- The keys of a payload: those that are not of the position, at their first places. -/
theorem keys_ofMembers (members : Members) :
    (ofMembers members).keys = (members.keys.filter (· ∉ positionKeys)).eraseDups := by
  rw [← members.keys_besidesPosition, ← Json.keys_collect, ← members_ofMembers]
  rfl

/-- The values of a payload: the last ones. -/
theorem get?_ofMembers (members : Members) (key : String) :
    (ofMembers members).get? key = if key ∈ positionKeys then none else members.last? key := by
  split
  · next position => exact Members.get?_eq_none ((ofMembers members).free key position)
  · next other =>
      rw [← members.last?_besidesPosition other, ← Json.get?_collect, ← members_ofMembers]
      rfl

end Payload

/-- How two members show a severity: the first by a marker, and where it is none, the second by
the first letter of a code. -/
inductive Severity.ShownBy (marker code : Option Json) (severity : Severity) : Prop
  | marked {text : String} (given : marker = some (.string text)) (marks : severity.Marks text) :
      ShownBy marker code severity
  | coded {text : String}
      (unmarked : ∀ other first, marker = some (.string other) → ¬ Severity.Marks first other)
      (given : code = some (.string text)) (opens : text.toList.head? = some severity.initial) :
      ShownBy marker code severity

namespace Finding

/-- **What decides the severity.** -/
theorem severity?_eq_some {finding : Finding} {severity : Severity} :
    finding.severity? = some severity ↔
      severity.ShownBy (finding.payload.get? "severity") (finding.payload.get? "code") := by
  have marked (severity : Severity) :
      ((finding.payload.get? "severity").bind Json.toText?).bind Severity.ofMarker? =
          some severity ↔
        ∃ text, finding.payload.get? "severity" = some (.string text) ∧ severity.Marks text := by
    simp only [Option.bind_eq_some_iff, Json.toText?_eq_some, exists_eq_right,
      Severity.ofMarker?_eq_some]
  have coded : finding.code?.bind Severity.ofCode? = some severity ↔
      ∃ text, finding.payload.get? "code" = some (.string text) ∧
        text.toList.head? = some severity.initial := by
    simp only [code?, Option.bind_eq_some_iff, Json.toText?_eq_some, exists_eq_right,
      Severity.ofCode?_eq_some]
  unfold severity?
  rw [Option.or_eq_some_iff, marked, coded, Option.eq_none_iff_forall_ne_some]
  constructor
  · rintro (⟨text, given, marks⟩ | ⟨unmarked, text, given, opens⟩)
    · exact .marked given marks
    · refine .coded (fun other first found marks => ?_) given opens
      exact unmarked first ((marked first).mpr ⟨other, found, marks⟩)
  · intro shown
    cases shown with
    | marked given marks => exact .inl ⟨_, given, marks⟩
    | coded unmarked given opens =>
        refine .inr ⟨fun first found => ?_, _, given, opens⟩
        obtain ⟨other, stands, marks⟩ := (marked first).mp found
        exact unmarked other first stands marks

/-- Findings with the same marker and the same code have the same severity. -/
theorem severity?_congr {finding other : Finding}
    (marker : other.payload.get? "severity" = finding.payload.get? "severity")
    (code : other.payload.get? "code" = finding.payload.get? "code") :
    other.severity? = finding.severity? := by
  unfold severity? code?
  rw [marker, code]

/-- The finding with members attached, one after another. -/
def attachAll (finding : Finding) (given : Members) : Finding :=
  given.foldl (fun finding member => finding.attach member.1 member.2) finding

/-- **What attaching members comes to.** -/
theorem attachAll_atPosition (line character : UInt64) (given : Members) :
    (atPosition line character).attachAll given = ⟨line, character, .ofMembers given⟩ := by
  have onwards (payload : Payload) : attachAll ⟨line, character, payload⟩ given =
      ⟨line, character,
        given.foldl (fun payload member => payload.put member.1 member.2) payload⟩ := by
    induction given generalizing payload with
    | nil => rfl
    | cons member rest ih => exact ih _
  exact onwards .empty

/-- **Findings stay well formed.** Whatever members are attached to a finding at a place, the place
stays; the keys of the payload are the given ones besides those of the position, each once and in
the order in which they came first, and each has the value that came last. The severity is shown by
the last `severity`, or else by the last `code`, and by nothing else. The finding makes an object
of its line, its character and its payload, in which no key stands twice, and from which it is read
back at any place of a batch. A finding that is read from a value has its payload from the members
of that value in the same way. -/
theorem attachAll_decided :
    (∀ (line character : UInt64) (given : Members),
      let finding := (atPosition line character).attachAll given
      finding.line = line ∧ finding.character = character ∧
      finding.payload.keys = (given.keys.filter (· ∉ positionKeys)).eraseDups ∧
      (∀ key, finding.payload.get? key =
        if key ∈ positionKeys then none else given.last? key) ∧
      (∀ severity, finding.severity? = some severity ↔
        severity.ShownBy (given.last? "severity") (given.last? "code")) ∧
      (∀ (place column : UInt64) (others : Members),
        others.last? "severity" = given.last? "severity" →
        others.last? "code" = given.last? "code" →
        ((atPosition place column).attachAll others).severity? = finding.severity?) ∧
      (∃ members : Members, finding.toJson = .object members ∧ members.keys.Nodup ∧
        members = ("line", .ofUInt64 line) :: ("character", .ofUInt64 character) ::
          finding.payload.members) ∧
      ofJson finding.toJson = .ok finding ∧
      ∀ index, Record.ofJsonList index [Record.wrap finding.toJson] =
        .ok [Record.ofFinding finding]) ∧
    ∀ value finding, ofJson value = .ok finding →
      finding.payload.keys.Nodup ∧ (∀ key ∈ positionKeys, key ∉ finding.payload.keys) ∧
      ∃ members : Members, value = .object members ∧
        finding.payload.keys = (members.keys.filter (· ∉ positionKeys)).eraseDups ∧
        ∀ key, finding.payload.get? key =
          if key ∈ positionKeys then none else members.last? key := by
  refine ⟨fun line character given => ?_, fun value finding reads => ?_⟩
  · have values (others : Members) (key : String) (other : key ∉ positionKeys) :
        (Payload.ofMembers others).get? key = others.last? key := by
      rw [Payload.get?_ofMembers, if_neg other]
    have marker : "severity" ∉ positionKeys := by decide
    have code : "code" ∉ positionKeys := by decide
    simp only [attachAll_atPosition]
    refine ⟨trivial, trivial, Payload.keys_ofMembers given, Payload.get?_ofMembers given, ?_, ?_,
      ?_, ofJson_toJson _, fun index => ?_⟩
    · intro severity
      rw [severity?_eq_some, values given _ marker, values given _ code]
    · intro place column others sameMarker sameCode
      apply severity?_congr
      · rw [values others _ marker, values given _ marker, sameMarker]
      · rw [values others _ code, values given _ code, sameCode]
    · exact ⟨_, rfl, nodup_keys_toJson _, rfl⟩
    · exact Record.ofJsonList_wrapped index [_]
  · obtain ⟨members, rfl, _, _, payload⟩ := ofJson_eq_ok.mp reads
    refine ⟨finding.payload.distinct, finding.payload.free, members, rfl, ?_⟩
    rw [payload]
    exact ⟨Payload.keys_ofMembers members, Payload.get?_ofMembers members⟩

/-- A line among the members is left out, the second code takes the place of the first, and it
shows the severity, since the marker is none; without the line and in another order it does so
too. -/
theorem attachAll_decided_overwritten :
    let given : Members := [("code", .string "E1"), ("line", .boolean true),
      ("severity", .string "fatal"), ("code", .string "W2")]
    let others : Members := [("severity", .string "fatal"), ("code", .string "W2")]
    let finding := (atPosition 3 7).attachAll given
    finding.payload.keys = ["code", "severity"] ∧
    finding.payload.get? "code" = some (.string "W2") ∧
    finding.severity? = some .warning ∧
    ((atPosition 1 1).attachAll others).severity? = some .warning ∧
    ofJson finding.toJson = .ok finding ∧ finding.payload.keys.Nodup := by
  intro given others finding
  obtain ⟨builds, reads⟩ := attachAll_decided
  obtain ⟨_, _, keys, values, severity, alike, _, again, _⟩ := builds 3 7 given
  have marker : others.last? "severity" = given.last? "severity" := rfl
  have code : others.last? "code" = given.last? "code" := rfl
  have unmarked : Severity.ofMarker? "fatal" = none := by decide
  have shows : finding.severity? = some .warning := by
    refine (severity .warning).mpr (.coded (fun other first found marks => ?_) rfl (by decide))
    cases found
    rw [Severity.ofMarker?_eq_some.mpr marks] at unmarked
    cases unmarked
  refine ⟨keys.trans (by decide), values "code", shows, ?_, again, (reads _ _ again).1⟩
  exact (alike 1 1 others marker code).trans shows

end Finding

end LintReport
