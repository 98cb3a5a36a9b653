import LintReport.Proofs.Json.Nesting
import LintReport.Proofs.Json.Numeral
import LintReport.Proofs.Json.Text

/-!
# Reading written values

A value whose numbers are all whole is read back as it was written, at every depth that the reader
allows, and what follows it is left alone (`Json.readValue_write`). For lists and objects this is
shown for any reader of what they hold that reads back each of the items (`Json.readList_write`,
`Json.readObject_write`); the induction is then on the nesting of the value. Floating-point numbers
are left out because the reader does not always take the nearest one.
-/

namespace LintReport.Json

/-- Every number of the value, at any depth, is a whole number. -/
inductive Exact : Json → Prop
  | null : Exact .null
  | boolean (b : Bool) : Exact (.boolean b)
  | whole (n : Whole) : Exact (.number (.whole n))
  | string (s : String) : Exact (.string s)
  | list {items : List Json} (each : ∀ item ∈ items, Exact item) : Exact (.list items)
  | object {members : Members} (each : ∀ member ∈ members, Exact member.2) :
      Exact (.object members)

theorem skipBlanks_cons {c : Char} (rest : List Char) (visible : isBlank c = false) :
    skipBlanks (c :: rest) = c :: rest := by
  unfold skipBlanks
  rw [List.dropWhile_cons, visible]
  rfl

/-- A whole number is written with a minus sign or a digit in front. -/
theorem integer_eq_cons (number : Int) :
    ∃ first more, Decimal.integer number = first :: more ∧ (first = '-' ∨ first.isDigit) := by
  unfold Decimal.integer
  split
  · exact ⟨'-', _, rfl, .inl rfl⟩
  · cases digits : Decimal.digits number.natAbs with
    | nil => exact absurd digits (Decimal.digits_ne_nil _)
    | cons first more =>
        exact ⟨first, more, rfl, .inr (Decimal.isDigit_of_mem_digits (digits ▸ List.mem_cons_self))⟩

/-- A minus sign or a digit opens no value but a number. -/
theorem opening_of_numeral {c : Char} (opens : c = '-' ∨ c.isDigit) :
    isBlank c = false ∧ c ≠ ']' ∧ c ≠ '}' ∧ c ≠ 'n' ∧ c ≠ 't' ∧ c ≠ 'f' ∧ c ≠ '"' ∧ c ≠ '[' ∧
      c ≠ '{' := by
  have isNot {other : Char} (plain : other ≠ '-' ∧ other.isDigit = false) : c ≠ other := by
    rintro rfl
    rcases opens with minus | digit
    · exact plain.1 minus
    · exact Bool.false_ne_true (plain.2.symm.trans digit)
  refine ⟨?_, isNot (by decide), isNot (by decide), isNot (by decide), isNot (by decide),
    isNot (by decide), isNot (by decide), isNot (by decide), isNot (by decide)⟩
  have blanks : c ≠ ' ' ∧ c ≠ '\t' ∧ c ≠ '\n' ∧ c ≠ '\r' :=
    ⟨isNot (by decide), isNot (by decide), isNot (by decide), isNot (by decide)⟩
  simp only [isBlank, beq_eq_false_iff_ne.mpr blanks.1, beq_eq_false_iff_ne.mpr blanks.2.1,
    beq_eq_false_iff_ne.mpr blanks.2.2.1, beq_eq_false_iff_ne.mpr blanks.2.2.2, Bool.or_self]

/-- A written value begins with a character that is no blank and closes neither a list nor an
object. -/
theorem Exact.write_eq_cons {value : Json} (exact : value.Exact) :
    ∃ first more, write value = first :: more ∧ isBlank first = false ∧ first ≠ ']' ∧
      first ≠ '}' := by
  cases exact with
  | null => exact ⟨'n', _, by rw [write], by decide⟩
  | boolean b =>
      cases b
      · exact ⟨'f', _, by rw [write], by decide⟩
      · exact ⟨'t', _, by rw [write], by decide⟩
  | whole n =>
      obtain ⟨first, more, written, opens⟩ := integer_eq_cons n.val
      have plain := opening_of_numeral opens
      exact ⟨first, more, by rw [write, writeNumber, written], plain.1, plain.2.1, plain.2.2.1⟩
  | string s => exact ⟨'"', _, by rw [write, Text.write, List.cons_append], by decide⟩
  | list => exact ⟨'[', _, by rw [write, List.cons_append], by decide⟩
  | object => exact ⟨'{', _, by rw [write, List.cons_append], by decide⟩

section Nested

variable {item : Reader Json}

/-- A reader that reads a value back as it was written. -/
def ReadsBack (item : Reader Json) (value : Json) : Prop :=
  ∀ {rest : List Char}, Numeral.Ends rest → item (write value ++ rest) = .ok (value, rest)

/-- What follows an item of a list ends a numeral: a comma or the closing bracket. -/
private theorem ends_writeItems (items : List Json) (rest : List Char) :
    Numeral.Ends (writeItems false items ++ ']' :: rest) := by
  cases items with
  | nil => exact Numeral.ends_cons _ (by decide)
  | cons value items =>
      rw [writeItems]
      exact Numeral.ends_cons _ (by decide)

/-- Further items are written behind a comma each, so their text bounds their number. -/
private theorem length_le_writeItems (items : List Json) :
    items.length ≤ (writeItems false items).length := by
  induction items with
  | nil => exact Nat.zero_le _
  | cons value items ih =>
      simp only [writeItems, Bool.false_eq_true, ↓reduceIte, List.length_append, List.length_cons,
        List.length_nil]
      omega

/-- The items of a written list are read back behind those read before, when each of them is. -/
private theorem readItems_write {items : List Json}
    (each : ∀ value ∈ items, value.Exact ∧ ReadsBack item value) (rest : List Char) :
    ∀ (steps : Nat) (before : List Json), items.length < steps →
      readItems item steps before (writeItems false items ++ ']' :: rest) =
        .ok (before.reverse ++ items, rest) := by
  induction items with
  | nil =>
      intro steps before enough
      obtain ⟨fewer, rfl⟩ := Nat.exists_eq_add_one_of_ne_zero (Nat.ne_zero_of_lt enough)
      rw [writeItems, List.nil_append, readItems, skipBlanks_cons _ (by decide), List.append_nil]
      rfl
  | cons value items ih =>
      intro steps before enough
      obtain ⟨fewer, rfl⟩ := Nat.exists_eq_add_one_of_ne_zero (Nat.ne_zero_of_lt enough)
      obtain ⟨exact, reads⟩ := each value List.mem_cons_self
      obtain ⟨first, more, written, visible, noEnd, _⟩ := exact.write_eq_cons
      have here := reads (ends_writeItems items rest)
      have later := ih (fun other member => each other (List.mem_cons_of_mem value member)) fewer
        (value :: before) (Nat.lt_of_succ_lt_succ enough)
      rw [written, List.cons_append] at here
      rw [writeItems, written, readItems]
      simp only [Bool.false_eq_true, ↓reduceIte, List.append_assoc, List.cons_append,
        List.nil_append, skipBlanks_cons _ (show isBlank ',' = false by decide),
        skipBlanks_cons _ visible]
      split
      · next impossible => cases impossible
      · next same =>
          rw [List.cons.injEq] at same
          exact absurd same.1 noEnd
      · rw [here, Steps.ok_bind, later, List.reverse_cons, List.append_assoc,
          List.singleton_append]

/-- A written list is read back when each of its items is. -/
theorem readList_write {items : List Json}
    (each : ∀ value ∈ items, value.Exact ∧ ReadsBack item value) (rest : List Char) :
    readList item (writeItems true items ++ ']' :: rest) = .ok (items, rest) := by
  cases items with
  | nil =>
      rw [writeItems, List.nil_append, readList, skipBlanks_cons _ (by decide)]
      rfl
  | cons value items =>
      obtain ⟨exact, reads⟩ := each value List.mem_cons_self
      obtain ⟨first, more, written, visible, noEnd, _⟩ := exact.write_eq_cons
      have here := reads (ends_writeItems items rest)
      have enough : items.length < (writeItems false items ++ ']' :: rest).length + 1 := by
        have := length_le_writeItems items
        rw [List.length_append]
        omega
      have later := readItems_write
        (fun other member => each other (List.mem_cons_of_mem value member)) rest _ [value] enough
      rw [written, List.cons_append] at here
      rw [writeItems, written, readList]
      simp only [↓reduceIte, List.append_assoc, List.cons_append, List.nil_append,
        skipBlanks_cons _ visible]
      split
      · next impossible => cases impossible
      · next same =>
          rw [List.cons.injEq] at same
          exact absurd same.1 noEnd
      · rw [here, Steps.ok_bind, later, List.reverse_singleton, List.singleton_append]

/-- A written member is read back when its value is. -/
theorem readMember_write (key : String) {value : Json} (reads : ReadsBack item value)
    {rest : List Char} (ends : Numeral.Ends rest) :
    readMember item (key.toList.flatMap Text.escape ++ '"' :: ':' :: (write value ++ rest)) =
      .ok ((key, value), rest) := by
  unfold readMember
  rw [Text.read_write, Steps.ok_bind]
  simp only [readColon, skipBlanks_cons _ (show isBlank ':' = false by decide), Steps.ok_bind,
    reads ends, Steps.pure_eq_ok]

private theorem ends_writeMembers (members : Members) (rest : List Char) :
    Numeral.Ends (writeMembers false members ++ '}' :: rest) := by
  cases members with
  | nil => exact Numeral.ends_cons _ (by decide)
  | cons member members =>
      rw [writeMembers]
      exact Numeral.ends_cons _ (by decide)

private theorem length_le_writeMembers (members : Members) :
    members.length ≤ (writeMembers false members).length := by
  induction members with
  | nil => exact Nat.zero_le _
  | cons member members ih =>
      simp only [writeMembers, Bool.false_eq_true, ↓reduceIte, List.length_append,
        List.length_cons, List.length_nil]
      omega

/-- The members of a written object are read back behind those read before, when each of their
values is. -/
private theorem readMembers_write {members : Members}
    (each : ∀ member ∈ members, ReadsBack item member.2) (rest : List Char) :
    ∀ (steps : Nat) (before : Members), members.length < steps →
      readMembers item steps before (writeMembers false members ++ '}' :: rest) =
        .ok (before.reverse ++ members, rest) := by
  induction members with
  | nil =>
      intro steps before enough
      obtain ⟨fewer, rfl⟩ := Nat.exists_eq_add_one_of_ne_zero (Nat.ne_zero_of_lt enough)
      rw [writeMembers, List.nil_append, readMembers, skipBlanks_cons _ (by decide),
        List.append_nil]
      rfl
  | cons member members ih =>
      intro steps before enough
      obtain ⟨fewer, rfl⟩ := Nat.exists_eq_add_one_of_ne_zero (Nat.ne_zero_of_lt enough)
      have here := readMember_write member.1 (each member List.mem_cons_self)
        (ends_writeMembers members rest)
      have later := ih (fun other present => each other (List.mem_cons_of_mem member present))
        fewer (member :: before) (Nat.lt_of_succ_lt_succ enough)
      simp only [writeMembers, Bool.false_eq_true, ↓reduceIte, Text.write, List.append_assoc,
        List.cons_append, List.nil_append, readMembers,
        skipBlanks_cons _ (show isBlank ',' = false by decide),
        skipBlanks_cons _ (show isBlank '"' = false by decide), here, Steps.ok_bind, later,
        List.reverse_cons]

/-- A written object is read back, member by member, when each of its values is. -/
theorem readObject_write {members : Members}
    (each : ∀ member ∈ members, ReadsBack item member.2) (rest : List Char) :
    readObject item (writeMembers true members ++ '}' :: rest) = .ok (members, rest) := by
  cases members with
  | nil =>
      rw [writeMembers, List.nil_append, readObject, skipBlanks_cons _ (by decide)]
      rfl
  | cons member members =>
      have here := readMember_write member.1 (each member List.mem_cons_self)
        (ends_writeMembers members rest)
      have enough : members.length <
          (writeMembers false members ++ '}' :: rest).length + 1 := by
        have := length_le_writeMembers members
        rw [List.length_append]
        omega
      have later := readMembers_write
        (fun other present => each other (List.mem_cons_of_mem member present)) rest _ [member]
        enough
      simp only [writeMembers, ↓reduceIte, Text.write, List.append_assoc, List.cons_append,
        List.nil_append, readObject, skipBlanks_cons _ (show isBlank '"' = false by decide), here,
        Steps.ok_bind, later, List.reverse_singleton]

end Nested

/-- A minus sign or a digit opens a number. -/
theorem readValue_of_numeral (depth : Nat) {c : Char} (rest : List Char)
    (opens : c = '-' ∨ c.isDigit) :
    readValue depth (c :: rest) =
      (do let (n, rest) ← readNumber (c :: rest); return (.number n, rest)) := by
  obtain ⟨visible, _, _, noNull, noTrue, noFalse, noText, noList, noObject⟩ :=
    opening_of_numeral opens
  unfold readValue
  rw [skipBlanks_cons rest visible]
  simp only [opens, ↓reduceIte]

/-- **Exact values are read as they were written**, at every depth that they keep to. -/
theorem readValue_write {depth : Nat} {value : Json} (nested : Nested depth value)
    (exact : value.Exact) : ReadsBack (readValue depth) value := by
  induction nested with
  | null =>
      intro rest _
      unfold readValue
      simp only [write, List.cons_append, List.nil_append,
        skipBlanks_cons _ (show isBlank 'n' = false by decide), readWord, ↓reduceIte,
        Steps.ok_bind, Steps.pure_eq_ok]
  | boolean b =>
      intro rest _
      unfold readValue
      cases b <;> simp only [write, List.cons_append, List.nil_append,
        skipBlanks_cons _ (show isBlank 't' = false by decide),
        skipBlanks_cons _ (show isBlank 'f' = false by decide), readWord, ↓reduceIte,
        Steps.ok_bind, Steps.pure_eq_ok]
  | number n =>
      intro rest ends
      cases exact with
      | whole n =>
          obtain ⟨first, more, written, opens⟩ := integer_eq_cons n.val
          have reads := readNumber_writeNumber n ends
          rw [writeNumber, written, List.cons_append] at reads
          rw [write, writeNumber, written, List.cons_append, readValue_of_numeral _ _ opens, reads]
          rfl
  | string s =>
      intro rest _
      unfold readValue
      simp only [write, Text.write, List.cons_append, List.append_assoc, List.nil_append,
        skipBlanks_cons _ (show isBlank '"' = false by decide), Text.read_write, Steps.ok_bind,
        Steps.pure_eq_ok]
  | list _ each =>
      intro rest _
      cases exact with
      | list exact =>
          have reads := readList_write
            (fun value member => ⟨exact value member, each value member (exact value member)⟩) rest
          unfold readValue
          simp only [write, List.cons_append, List.append_assoc, List.nil_append,
            skipBlanks_cons _ (show isBlank '[' = false by decide), reads, Steps.ok_bind,
            Steps.pure_eq_ok]
  | object _ each =>
      intro rest _
      cases exact with
      | object exact =>
          have reads := readObject_write
            (fun member present => each member present (exact member present)) rest
          unfold readValue
          simp only [write, List.cons_append, List.append_assoc, List.nil_append,
            skipBlanks_cons _ (show isBlank '{' = false by decide), reads, Steps.ok_bind,
            Steps.pure_eq_ok]

/-- A value that its text gives back where `depth` lists and objects may stand around each other:
it keeps to that limit, its numbers are whole, and it repeats no key. -/
structure Restorable (depth : Nat) (value : Json) : Prop where
  nested : Nested depth value
  exact : value.Exact
  distinct : value.Distinct

namespace Restorable

theorem ofUInt64 (depth : Nat) (n : UInt64) : Restorable depth (.ofUInt64 n) :=
  ⟨.number _, .whole _, .number _⟩

/-- A list is given back by its text when each item is, one level deeper. -/
theorem list {depth : Nat} {items : List Json} (each : ∀ item ∈ items, Restorable depth item) :
    Restorable (depth + 1) (.list items) where
  nested := .list fun item member => (each item member).nested
  exact := .list fun item member => (each item member).exact
  distinct := .list fun item member => (each item member).distinct

/-- An object with distinct keys is given back by its text when each value is, one level deeper. -/
theorem object {depth : Nat} {members : Members} (keys : members.keys.Nodup)
    (each : ∀ member ∈ members, Restorable depth member.2) :
    Restorable (depth + 1) (.object members) where
  nested := .object fun member present => (each member present).nested
  exact := .object fun member present => (each member present).exact
  distinct := .object keys fun member present => (each member present).distinct

theorem mono {depth limit : Nat} {value : Json} (restorable : Restorable depth value)
    (below : depth ≤ limit) : Restorable limit value :=
  ⟨restorable.nested.mono below, restorable.exact, restorable.distinct⟩

/-- **A restorable value is what its text denotes**, with or without closing blanks. -/
theorem parse_write {value : Json} (restorable : Restorable nestingLimit value)
    {blanks : List Char} (ends : Numeral.Ends blanks) (blank : skipBlanks blanks = []) :
    parse (String.ofList (write value ++ blanks)) = .ok value := by
  have reads : parseWritten (String.ofList (write value ++ blanks)) = .ok value := by
    refine readAll_eq_ok.mpr ⟨blanks, ?_, blank⟩
    rw [String.toList_ofList]
    exact readValue_write restorable.nested restorable.exact ends
  rw [parse, reads, Steps.map_ok, restorable.distinct.settle_eq]

/-- **A value is read back from its text**, when it keeps to the limit of the reader, has only whole
numbers, and repeats no key. -/
theorem parse_render {value : Json} (restorable : Restorable nestingLimit value) :
    parse value.render = .ok value := by
  have reads := restorable.parse_write Numeral.ends_nil rfl
  rw [List.append_nil] at reads
  exact reads

end Restorable

end LintReport.Json
