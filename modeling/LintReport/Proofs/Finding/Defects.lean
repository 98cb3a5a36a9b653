import LintReport.Proofs.Finding.Record

/-!
# Records in order and records with a defect

A record is in order when it is an object that names a file or none and wraps an object with two
64-bit natural numbers for the position (`Record.InOrder`). Exactly such records are read, and
what is read is what they denote (`Record.ofJson_eq_ok_iff_denotes`). Of any other value the first
defect is reported, in the order in which a record is looked through: the object, the file, the
finding, its line and its character (`Record.ofJson_eq_error`).
-/

namespace LintReport

/-- A key for which nothing but null stands. -/
def Members.Missing (members : Members) (key : String) : Prop :=
  members.get? key = none ∨ members.get? key = some .null

namespace Finding

/-- What is wrong with one number of a position. -/
inductive PositionDefect (members : Members) (field : String) : Defect → Prop
  | missing (absent : members.Missing field) : PositionDefect members field (.missing field)
  | notNatural {found : Json} (present : members.get? field = some found) (given : found ≠ .null)
      (other : ∀ n, found ≠ .ofUInt64 n) : PositionDefect members field (.notNatural field found)

/-- The defect of a value that is to be a finding. The character counts only after a line that is
in order. -/
inductive HasDefect : Json → Defect → Prop
  | notObject {value : Json} (other : ∀ members, value ≠ .object members) :
      HasDefect value (.wrongKind "error" "an object" value)
  | line {members : Members} {defect : Defect} (wrong : PositionDefect members "line" defect) :
      HasDefect (.object members) defect
  | character {members : Members} {line : UInt64} {defect : Defect}
      (natural : members.get? "line" = some (.ofUInt64 line))
      (wrong : PositionDefect members "character" defect) : HasDefect (.object members) defect

/-- Reading a position fails exactly with its defect. -/
theorem position_eq_error {members : Members} {field : String} {defect : Defect} :
    position members field = .error defect ↔ PositionDefect members field defect := by
  unfold position
  constructor
  · intro refuses
    split at refuses
    · next absent =>
        cases refuses
        exact .missing (.inl absent)
    · next null =>
        cases refuses
        exact .missing (.inr null)
    · next value given present =>
        split at refuses
        · cases refuses
        · next odd =>
            cases refuses
            refine .notNatural present (given ·) ?_
            rintro n rfl
            rw [Json.toUInt64?_eq_some.mpr rfl] at odd
            cases odd
  · intro wrong
    cases wrong with
    | missing absent =>
        rcases absent with absent | null
        · rw [absent]
        · rw [null]
    | @notNatural found present given other =>
        have odd : found.toUInt64? = none := by
          cases natural : found.toUInt64? with
          | none => rfl
          | some n => exact (other n (Json.toUInt64?_eq_some.mp natural)).elim
        rw [present]
        split
        · next impossible => cases impossible
        · next null =>
            cases null
            exact (given rfl).elim
        · next value _ same =>
            cases same
            rw [odd]

/-- Reading a finding fails exactly with its defect. -/
theorem ofJson_eq_error {value : Json} {defect : Defect} :
    ofJson value = .error defect ↔ HasDefect value defect := by
  constructor
  · intro refuses
    cases value with
    | object members =>
        rcases Steps.bind_eq_error.mp refuses with wrong | ⟨line, natural, refuses⟩
        · exact .line (position_eq_error.mp wrong)
        · rcases Steps.bind_eq_error.mp refuses with wrong | ⟨character, _, impossible⟩
          · exact .character (position_eq_ok.mp natural) (position_eq_error.mp wrong)
          · cases impossible
    | null | boolean | number | string | list =>
        cases refuses
        exact .notObject (by rintro members ⟨⟩)
  · intro wrong
    cases wrong with
    | notObject other =>
        cases value with
        | object members => exact (other members rfl).elim
        | null | boolean | number | string | list => rfl
    | line wrong =>
        simp only [ofJson, position_eq_error.mpr wrong, Steps.error_bind]
    | character natural wrong =>
        simp only [ofJson, position_eq_ok.mpr natural, position_eq_error.mpr wrong,
          Steps.ok_bind, Steps.error_bind]

end Finding

namespace Record

/-- The name of the file, if one is given: a member that is null gives none. -/
inductive NamesFile (fields : Members) : Option String → Prop
  | absent (missing : fields.Missing "file") : NamesFile fields none
  | named {name : String} (present : fields.get? "file" = some (.string name)) :
      NamesFile fields (some name)

/-- A value from which a record can be read. -/
def InOrder (value : Json) : Prop :=
  ∃ fields inner : Members, value = .object fields ∧
    (∃ file, NamesFile fields file) ∧ fields.get? "error" = some (.object inner) ∧
    (∃ line, inner.get? "line" = some (.ofUInt64 line)) ∧
    ∃ character, inner.get? "character" = some (.ofUInt64 character)

/-- The record that a value denotes: the file, the two numbers of the position, and for the payload
the other members of the wrapped object in their order. -/
inductive Denotes : Json → Record → Prop
  | intro {fields inner : Members} {record : Record} (file : NamesFile fields record.file)
      (wraps : fields.get? "error" = some (.object inner))
      (line : inner.get? "line" = some (.ofUInt64 record.finding.line))
      (character : inner.get? "character" = some (.ofUInt64 record.finding.character))
      (payload : record.finding.payload.members = inner.besidesPosition) :
      Denotes (.object fields) record

/-- The defect of a value that is to be a record. Each part counts only where all parts before it
are in order. -/
inductive HasDefect : Json → Defect → Prop
  | notObject {value : Json} (other : ∀ fields, value ≠ .object fields) :
      HasDefect value (.wrongKind "result" "an object" value)
  | file {fields : Members} {found : Json} (present : fields.get? "file" = some found)
      (given : found ≠ .null) (other : ∀ name, found ≠ .string name) :
      HasDefect (.object fields) (.wrongKind "file" "a string" found)
  | noFinding {fields : Members} {file : Option String} (names : NamesFile fields file)
      (absent : fields.Missing "error") : HasDefect (.object fields) (.missing "error")
  | finding {fields : Members} {file : Option String} {found : Json} {defect : Defect}
      (names : NamesFile fields file) (present : fields.get? "error" = some found)
      (given : found ≠ .null) (wrong : Finding.HasDefect found defect) :
      HasDefect (.object fields) defect

/-- Reading the file of a record succeeds exactly with the file that it names. -/
theorem fileOf_eq_ok {fields : Members} {file : Option String} :
    fileOf fields = .ok file ↔ NamesFile fields file := by
  unfold fileOf
  constructor
  · intro reads
    split at reads
    · next absent =>
        cases reads
        exact .absent (.inl absent)
    · next null =>
        cases reads
        exact .absent (.inr null)
    · next name present =>
        cases reads
        exact .named present
    · cases reads
  · intro names
    cases names with
    | absent missing =>
        rcases missing with absent | null
        · rw [absent]
        · rw [null]
    | named present => rw [present]

/-- Reading the file of a record fails exactly when it is neither missing nor empty nor a string. -/
theorem fileOf_eq_error {fields : Members} {defect : Defect} :
    fileOf fields = .error defect ↔ ∃ found, fields.get? "file" = some found ∧ found ≠ .null ∧
      (∀ name, found ≠ .string name) ∧ defect = .wrongKind "file" "a string" found := by
  unfold fileOf
  constructor
  · intro refuses
    split at refuses
    · cases refuses
    · cases refuses
    · cases refuses
    · next found given other present =>
        cases refuses
        exact ⟨found, present, (given ·), (other · ·), rfl⟩
  · rintro ⟨found, present, given, other, rfl⟩
    rw [present]
    cases found with
    | null => exact (given rfl).elim
    | string name => exact (other name rfl).elim
    | boolean | number | list | object => rfl

/-- Reading the finding of a record fails exactly when it is missing or has a defect. -/
theorem findingOf_eq_error {fields : Members} {defect : Defect} :
    findingOf fields = .error defect ↔
      (fields.Missing "error" ∧ defect = .missing "error") ∨
      ∃ found, fields.get? "error" = some found ∧ found ≠ .null ∧
        Finding.HasDefect found defect := by
  unfold findingOf
  constructor
  · intro refuses
    split at refuses
    · next absent =>
        cases refuses
        exact .inl ⟨.inl absent, rfl⟩
    · next null =>
        cases refuses
        exact .inl ⟨.inr null, rfl⟩
    · next found given present =>
        exact .inr ⟨found, present, (given ·), Finding.ofJson_eq_error.mp refuses⟩
  · rintro (⟨absent | null, rfl⟩ | ⟨found, present, given, wrong⟩)
    · rw [absent]
    · rw [null]
    · rw [present]
      cases found with
      | null => exact (given rfl).elim
      | boolean | number | string | list | object => exact Finding.ofJson_eq_error.mpr wrong

/-- **The first defect of a record is the one that is reported.** -/
theorem ofJson_eq_error {value : Json} {defect : Defect} :
    ofJson value = .error defect ↔ HasDefect value defect := by
  constructor
  · intro refuses
    cases value with
    | object fields =>
        rcases Steps.bind_eq_error.mp refuses with wrong | ⟨file, names, refuses⟩
        · obtain ⟨found, present, given, other, rfl⟩ := fileOf_eq_error.mp wrong
          exact .file present given other
        have names := fileOf_eq_ok.mp names
        rcases Steps.bind_eq_error.mp refuses with wrong | ⟨finding, _, impossible⟩
        · rcases findingOf_eq_error.mp wrong with ⟨absent, rfl⟩ | ⟨found, present, given, wrong⟩
          · exact .noFinding names absent
          · exact .finding names present given wrong
        · cases impossible
    | null | boolean | number | string | list =>
        cases refuses
        exact .notObject (by rintro fields ⟨⟩)
  · intro wrong
    cases wrong with
    | notObject other =>
        cases value with
        | object fields => exact (other fields rfl).elim
        | null | boolean | number | string | list => rfl
    | file present given other =>
        have refuses := fileOf_eq_error.mpr ⟨_, present, given, other, rfl⟩
        simp only [ofJson, refuses, Steps.error_bind]
    | noFinding names absent =>
        have refuses := findingOf_eq_error.mpr (.inl ⟨absent, rfl⟩)
        simp only [ofJson, fileOf_eq_ok.mpr names, refuses, Steps.ok_bind, Steps.error_bind]
    | finding names present given wrong =>
        have refuses := findingOf_eq_error.mpr (.inr ⟨_, present, given, wrong⟩)
        simp only [ofJson, fileOf_eq_ok.mpr names, refuses, Steps.ok_bind, Steps.error_bind]

/-- Records in order are the ones that are read. -/
theorem inOrder_iff {value : Json} : InOrder value ↔ ∃ record, ofJson value = .ok record := by
  constructor
  · rintro ⟨fields, inner, rfl, ⟨file, names⟩, wraps, ⟨line, lineStands⟩, character, stands⟩
    refine ⟨⟨file, line, character, Payload.ofMembers inner⟩, ofJson_eq_ok.mpr ?_⟩
    exact ⟨fields, rfl, fileOf_eq_ok.mpr names, _, wraps,
      Finding.ofJson_eq_ok.mpr ⟨inner, rfl, lineStands, stands, rfl⟩⟩
  · rintro ⟨record, reads⟩
    obtain ⟨fields, rfl, names, wrapped, wraps, reads⟩ := ofJson_eq_ok.mp reads
    obtain ⟨inner, rfl, line, character, _⟩ := Finding.ofJson_eq_ok.mp reads
    exact ⟨fields, inner, rfl, ⟨_, fileOf_eq_ok.mp names⟩, wraps, ⟨_, line⟩, _, character⟩

/-- **From a value without repeated keys is read what it denotes.** -/
theorem ofJson_eq_ok_iff_denotes {value : Json} (distinct : value.Distinct) {record : Record} :
    ofJson value = .ok record ↔ Denotes value record := by
  -- The members of the wrapped object stand once each, so all of them but the position are kept.
  have keeps {fields inner : Members} (same : value = .object fields)
      (wraps : fields.get? "error" = some (.object inner)) :
      (Payload.ofMembers inner).members = inner.besidesPosition := by
    subst same
    cases distinct with
    | object _ each =>
        cases each _ (Members.mem_of_get? wraps) with
        | object keys _ => exact Payload.members_ofMembers_of_nodup keys
  constructor
  · intro reads
    obtain ⟨fields, same, names, wrapped, wraps, reads⟩ := ofJson_eq_ok.mp reads
    obtain ⟨inner, rfl, line, character, payload⟩ := Finding.ofJson_eq_ok.mp reads
    have members := keeps same wraps
    subst same
    exact .intro (fileOf_eq_ok.mp names) wraps line character (payload ▸ members)
  · intro denotes
    cases denotes with
    | intro names wraps line character payload =>
        refine ofJson_eq_ok.mpr ⟨_, rfl, fileOf_eq_ok.mpr names, _, wraps,
          Finding.ofJson_eq_ok.mpr ⟨_, rfl, line, character, Payload.ext ?_⟩⟩
        rw [payload, keeps rfl wraps]

end Record

end LintReport
