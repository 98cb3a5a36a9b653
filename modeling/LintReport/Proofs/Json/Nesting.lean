import LintReport.Proofs.Json.Settled
import LintReport.Proofs.Steps

/-!
# How deeply read values are nested

A value that is read with a limit on the nesting keeps to it (`Json.nested_of_readValue`), and so
does what it settles to, so that the value of a document has at most 127 lists and objects around
each other (`Json.nested_of_parse`). The reader is taken apart once, step by step, into what each
of its steps can have done (`Json.readItems_inv` and the lemmas after it).
-/

namespace LintReport.Json

/-- At most `depth` lists and objects of the value stand around each other. -/
inductive Nested : Nat → Json → Prop
  | null {depth : Nat} : Nested depth .null
  | boolean {depth : Nat} (b : Bool) : Nested depth (.boolean b)
  | number {depth : Nat} (n : JsonNumber) : Nested depth (.number n)
  | string {depth : Nat} (s : String) : Nested depth (.string s)
  | list {depth : Nat} {items : List Json} (each : ∀ item ∈ items, Nested depth item) :
      Nested (depth + 1) (.list items)
  | object {depth : Nat} {members : Members} (each : ∀ member ∈ members, Nested depth member.2) :
      Nested (depth + 1) (.object members)

namespace Nested

/-- What is nested within a limit is nested within a wider one. -/
theorem mono {depth : Nat} {value : Json} (nested : Nested depth value) :
    ∀ {limit : Nat}, depth ≤ limit → Nested limit value := by
  induction nested with
  | null => exact fun _ => .null
  | boolean b => exact fun _ => .boolean b
  | number n => exact fun _ => .number n
  | string s => exact fun _ => .string s
  | list _ each =>
      intro limit below
      obtain ⟨inner, rfl⟩ := Nat.exists_eq_add_one_of_ne_zero (Nat.ne_zero_of_lt below)
      exact .list fun item member => each item member (Nat.le_of_succ_le_succ below)
  | object _ each =>
      intro limit below
      obtain ⟨inner, rfl⟩ := Nat.exists_eq_add_one_of_ne_zero (Nat.ne_zero_of_lt below)
      exact .object fun member present => each member present (Nat.le_of_succ_le_succ below)

/-- Settling a value does not nest it more deeply. -/
theorem settle {depth : Nat} {value : Json} (nested : Nested depth value) :
    Nested depth value.settle := by
  induction nested with
  | null => exact .null
  | boolean b => exact .boolean b
  | number n => exact .number n
  | string s => exact .string s
  | list _ each =>
      rw [settle_list]
      refine .list fun item member => ?_
      obtain ⟨written, stands, rfl⟩ := List.mem_map.mp member
      exact each written stands
  | object _ each =>
      rw [Json.settle]
      refine .object fun member present => ?_
      obtain ⟨written, stands, same⟩ := mem_settleMembers (mem_of_mem_collect present)
      exact same ▸ each written stands

end Nested

section Inversion

variable {α : Type} {item : Reader α}

/-- After an item a list ends, or a comma and another item follow. -/
theorem readItems_inv {steps : Nat} {before items : List α} {text rest : List Char}
    (reads : readItems item steps before text = .ok (items, rest)) :
    items = before.reverse ∨ ∃ fewer more value left, item more = .ok (value, left) ∧
      steps = fewer + 1 ∧ readItems item fewer (value :: before) left = .ok (items, rest) := by
  cases steps with
  | zero => cases reads
  | succ fewer =>
      unfold readItems at reads
      split at reads
      · cases reads
      · cases reads
        exact .inl rfl
      · split at reads
        · cases reads
        · cases reads
        · obtain ⟨⟨value, left⟩, first, others⟩ := Steps.bind_eq_ok.mp reads
          exact .inr ⟨fewer, _, value, left, first, rfl, others⟩
      · cases reads

/-- A list that is read is empty, or its first item is read and then the others in a loop. -/
theorem readList_inv {items : List α} {text rest : List Char}
    (reads : readList item text = .ok (items, rest)) :
    items = [] ∨ ∃ more value left, item more = .ok (value, left) ∧
      readItems item (left.length + 1) [value] left = .ok (items, rest) := by
  unfold readList at reads
  split at reads
  · cases reads
  · cases reads
    exact .inl rfl
  · obtain ⟨⟨value, left⟩, first, others⟩ := Steps.bind_eq_ok.mp reads
    exact .inr ⟨_, value, left, first, others⟩

/-- The value of a member is read from some place of the text. -/
theorem readMember_inv {member : String × α} {text rest : List Char}
    (reads : readMember item text = .ok (member, rest)) :
    ∃ more, item more = .ok (member.2, rest) := by
  unfold readMember at reads
  obtain ⟨⟨key, afterKey⟩, _, reads⟩ := Steps.bind_eq_ok.mp reads
  obtain ⟨more, _, reads⟩ := Steps.bind_eq_ok.mp reads
  obtain ⟨⟨value, left⟩, here, reads⟩ := Steps.bind_eq_ok.mp reads
  cases reads
  exact ⟨more, here⟩

/-- The loop over members ends with those read before, or reads one more and goes on. -/
theorem readMembers_inv {steps : Nat} {before members : List (String × α)}
    {text rest : List Char} (reads : readMembers item steps before text = .ok (members, rest)) :
    members = before.reverse ∨ ∃ fewer more member left,
      readMember item more = .ok (member, left) ∧ steps = fewer + 1 ∧
      readMembers item fewer (member :: before) left = .ok (members, rest) := by
  cases steps with
  | zero => cases reads
  | succ fewer =>
      unfold readMembers at reads
      split at reads
      · cases reads
      · cases reads
        exact .inl rfl
      · split at reads
        · cases reads
        · obtain ⟨⟨member, left⟩, first, others⟩ := Steps.bind_eq_ok.mp reads
          exact .inr ⟨fewer, _, member, left, first, rfl, others⟩
        · cases reads
        · cases reads
      · cases reads

/-- An object that is read is empty, or its first member is read and then the others in a loop. -/
theorem readObject_inv {members : List (String × α)} {text rest : List Char}
    (reads : readObject item text = .ok (members, rest)) :
    members = [] ∨ ∃ more member left, readMember item more = .ok (member, left) ∧
      readMembers item (left.length + 1) [member] left = .ok (members, rest) := by
  unfold readObject at reads
  split at reads
  · cases reads
  · cases reads
    exact .inl rfl
  · obtain ⟨⟨member, left⟩, first, others⟩ := Steps.bind_eq_ok.mp reads
    exact .inr ⟨_, member, left, first, others⟩
  · cases reads

variable {holds : α → Prop}

/-- What holds of all that the reader of items gives holds of the items of a list. -/
theorem forall_of_readList
    (sound : ∀ {text value rest}, item text = .ok (value, rest) → holds value)
    {items : List α} {text rest : List Char} (reads : readList item text = .ok (items, rest)) :
    ∀ value ∈ items, holds value := by
  have onwards : ∀ (steps : Nat) (before : List α) (text : List Char),
      (∀ value ∈ before, holds value) →
      readItems item steps before text = .ok (items, rest) → ∀ value ∈ items, holds value := by
    intro steps
    induction steps with
    | zero =>
        intro before text _ impossible
        cases impossible
    | succ steps ih =>
        intro before text earlier reads
        rcases readItems_inv reads with rfl | ⟨fewer, more, value, left, here, same, reads⟩
        · exact fun value member => earlier value (List.mem_reverse.mp member)
        · cases same
          exact ih (value :: before) left
            (List.forall_mem_cons.mpr ⟨sound here, earlier⟩) reads
  rcases readList_inv reads with rfl | ⟨more, value, left, here, reads⟩
  · exact fun value member => absurd member List.not_mem_nil
  · exact onwards _ [value] left (List.forall_mem_singleton.mpr (sound here)) reads

/-- What holds of all that the reader of values gives holds of the values of an object. -/
theorem forall_of_readObject
    (sound : ∀ {text value rest}, item text = .ok (value, rest) → holds value)
    {members : List (String × α)} {text rest : List Char}
    (reads : readObject item text = .ok (members, rest)) :
    ∀ member ∈ members, holds member.2 := by
  have onwards : ∀ (steps : Nat) (before : List (String × α)) (text : List Char),
      (∀ member ∈ before, holds member.2) →
      readMembers item steps before text = .ok (members, rest) →
      ∀ member ∈ members, holds member.2 := by
    intro steps
    induction steps with
    | zero =>
        intro before text _ impossible
        cases impossible
    | succ steps ih =>
        intro before text earlier reads
        rcases readMembers_inv reads with rfl | ⟨fewer, more, member, left, first, same, reads⟩
        · exact fun member present => earlier member (List.mem_reverse.mp present)
        · cases same
          obtain ⟨_, here⟩ := readMember_inv first
          exact ih (member :: before) left
            (List.forall_mem_cons.mpr ⟨sound here, earlier⟩) reads
  rcases readObject_inv reads with rfl | ⟨more, member, left, first, reads⟩
  · exact fun member present => absurd present List.not_mem_nil
  · obtain ⟨_, here⟩ := readMember_inv first
    exact onwards _ [member] left (List.forall_mem_singleton.mpr (sound here)) reads

end Inversion

/-- A value is neither list nor object, or one whose bracket used up one of the allowed depth. -/
theorem readValue_inv {depth : Nat} {text rest : List Char} {value : Json}
    (reads : readValue depth text = .ok (value, rest)) :
    Nested 0 value ∨
    (∃ inner more items, depth = inner + 1 ∧ value = .list items ∧
      readList (readValue inner) more = .ok (items, rest)) ∨
    (∃ inner more written, depth = inner + 1 ∧ value = .object written ∧
      readObject (readValue inner) more = .ok (written, rest)) := by
  unfold readValue at reads
  split at reads
  · cases reads
  · obtain ⟨_, _, reads⟩ := Steps.bind_eq_ok.mp reads
    cases reads
    exact .inl .null
  · obtain ⟨_, _, reads⟩ := Steps.bind_eq_ok.mp reads
    cases reads
    exact .inl (.boolean true)
  · obtain ⟨_, _, reads⟩ := Steps.bind_eq_ok.mp reads
    cases reads
    exact .inl (.boolean false)
  · obtain ⟨⟨s, _⟩, _, reads⟩ := Steps.bind_eq_ok.mp reads
    cases reads
    exact .inl (.string s)
  · split at reads
    · cases reads
    · next inner =>
        obtain ⟨⟨items, left⟩, here, reads⟩ := Steps.bind_eq_ok.mp reads
        cases reads
        exact .inr (.inl ⟨inner, _, items, rfl, rfl, here⟩)
  · split at reads
    · cases reads
    · next inner =>
        obtain ⟨⟨written, left⟩, here, reads⟩ := Steps.bind_eq_ok.mp reads
        cases reads
        exact .inr (.inr ⟨inner, _, written, rfl, rfl, here⟩)
  · split at reads
    · obtain ⟨⟨n, _⟩, _, reads⟩ := Steps.bind_eq_ok.mp reads
      cases reads
      exact .inl (.number n)
    · cases reads

/-- **A value keeps to the limit it is read with.** -/
theorem nested_of_readValue (depth : Nat) {text rest : List Char} {value : Json}
    (reads : readValue depth text = .ok (value, rest)) : Nested depth value := by
  induction depth generalizing text rest value with
  | zero =>
      rcases readValue_inv reads with scalar | ⟨inner, _, _, impossible, _⟩ |
        ⟨inner, _, _, impossible, _⟩
      · exact scalar
      · cases impossible
      · cases impossible
  | succ depth ih =>
      rcases readValue_inv reads with scalar | ⟨inner, more, items, same, rfl, reads⟩ |
        ⟨inner, more, written, same, rfl, reads⟩
      · exact scalar.mono (Nat.zero_le _)
      · cases same
        exact .list (forall_of_readList ih reads)
      · cases same
        exact .object (forall_of_readObject ih reads)

/-- A text that is read as a whole is read by the reader up to closing blanks. -/
theorem readAll_eq_ok {α : Type} {reader : Reader α} {text : String} {value : α} :
    readAll reader text = .ok value ↔
      ∃ rest, reader text.toList = .ok (value, rest) ∧ skipBlanks rest = [] := by
  unfold readAll
  constructor
  · intro reads
    simp only at reads
    split at reads
    · cases reads
    · next found rest here =>
        split at reads
        · next blank =>
            cases reads
            exact ⟨rest, here, blank⟩
        · cases reads
  · rintro ⟨rest, here, blank⟩
    simp only [here, blank]

/-- **The value of a document** keeps to the limit of documents. -/
theorem nested_of_parse {text : String} {value : Json} (reads : parse text = .ok value) :
    Nested nestingLimit value := by
  unfold parse parseWritten at reads
  cases stands : readAll (readValue nestingLimit) text with
  | error fault =>
      rw [stands] at reads
      cases reads
  | ok written =>
      rw [stands] at reads
      cases reads
      obtain ⟨rest, here, _⟩ := readAll_eq_ok.mp stands
      exact (nested_of_readValue nestingLimit here).settle

/-- No object of a value that is read repeats a key. -/
theorem distinct_of_parse {text : String} {value : Json} (reads : parse text = .ok value) :
    value.Distinct := by
  unfold parse at reads
  cases stands : parseWritten text with
  | error fault =>
      rw [stands] at reads
      cases reads
  | ok written =>
      rw [stands] at reads
      cases reads
      exact distinct_settle written

end LintReport.Json
