import LintReport.Proofs.Json.Spelled

/-!
# Passing over what the grammar spells

A value that is spelled is passed over, however deeply it is nested and whatever its numerals are
(`Json.skipValue_of_spells`). The induction is on the grammar: a list is passed over because its
items are, and there are fewer brackets in each of them than characters in the list.
-/

namespace LintReport.Json

/-- What is passed over does not depend on the blanks in front of it. -/
theorem skipNested_congr {text other : List Char} (same : skipBlanks text = skipBlanks other)
    (depth : Nat) : skipNested depth text = skipNested depth other := by
  unfold skipNested
  rw [same]

/-- Blanks in front of a member make no difference. -/
theorem skipMember_congr {item : List Char → Except Fault (List Char)} {text other : List Char}
    (same : skipBlanks text = skipBlanks other) : skipMember item text = skipMember item other := by
  unfold skipMember
  rw [same]

/-- A reader without result passes over a text up to blanks in front of the rest. -/
def Passes (skip : List Char → Except Fault (List Char)) (text rest : List Char) : Prop :=
  ∃ left, skip text = .ok left ∧ left.length ≤ text.length ∧ Blanks left rest

/-- A reader without result passes over the first of several parts of a text, and a loop over the
others. -/
def PassesAll (skip : List Char → Except Fault (List Char))
    (loop : Nat → List Char → Except Fault (List Char)) (text rest : List Char) : Prop :=
  ∃ left, skip text = .ok left ∧ left.length ≤ text.length ∧
    ∀ steps, left.length < steps → loop steps left = .ok rest

section Loops

variable {item : List Char → Except Fault (List Char)} {left more : List Char}

theorem skipItems_close (blanks : Blanks left (']' :: more)) (steps : Nat) :
    skipItems item (steps + 1) left = .ok more := by
  rw [skipItems, blanks.skipBlanks_eq, skipBlanks_cons more rfl]
  rfl

/-- Behind a comma the next item is passed over, and then the others. -/
theorem skipItems_comma (blanks : Blanks left (',' :: more)) {behind : List Char}
    (skips : item more = .ok behind) (steps : Nat) :
    skipItems item (steps + 1) left = skipItems item steps behind := by
  rw [skipItems, blanks.skipBlanks_eq, skipBlanks_cons more rfl]
  simp only [skips, Steps.ok_bind]

theorem skipMembers_close (blanks : Blanks left ('}' :: more)) (steps : Nat) :
    skipMembers item (steps + 1) left = .ok more := by
  rw [skipMembers, blanks.skipBlanks_eq, skipBlanks_cons more rfl]
  rfl

theorem skipMembers_comma (blanks : Blanks left (',' :: more)) {behind : List Char}
    (skips : skipMember item more = .ok behind) (steps : Nat) :
    skipMembers item (steps + 1) left = skipMembers item steps behind := by
  rw [skipMembers, blanks.skipBlanks_eq, skipBlanks_cons more rfl]
  simp only [skips, Steps.ok_bind]

end Loops

section Values

variable {text rest : List Char}

/-- The words for nothing, true and false are passed over at every depth. -/
theorem skipNested_word (depth : Nat) :
    skipNested depth ('n' :: 'u' :: 'l' :: 'l' :: rest) = .ok rest ∧
      skipNested depth ('t' :: 'r' :: 'u' :: 'e' :: rest) = .ok rest ∧
      skipNested depth ('f' :: 'a' :: 'l' :: 's' :: 'e' :: rest) = .ok rest := by
  refine ⟨?_, ?_, ?_⟩ <;> unfold skipNested <;> rw [skipBlanks_cons _ rfl] <;> rfl

theorem skipNested_number {numeral : Numeral} (stands : Numeral.Stands text numeral rest)
    (ends : Numeral.Ends rest) (depth : Nat) : skipNested depth text = .ok rest := by
  obtain ⟨c, more, rfl, opens⟩ := stands.opens
  obtain ⟨visible, _, _, noNull, noTrue, noFalse, noText, noList, noObject⟩ :=
    opening_of_numeral opens
  unfold skipNested
  rw [skipBlanks_cons more visible]
  simp only [opens, ↓reduceIte, stands.read ends, Steps.ok_bind, Steps.pure_eq_ok]

theorem skipNested_string {chars : List Char} (letters : Text.Letters text chars rest)
    (depth : Nat) : skipNested depth ('"' :: text) = .ok rest := by
  unfold skipNested
  rw [skipBlanks_cons _ rfl]
  exact letters.skip

/-- Behind an opening bracket a list is passed over, one level deeper. -/
theorem skipNested_list (depth : Nat) (text : List Char) :
    skipNested (depth + 1) ('[' :: text) = skipList (skipNested depth) text := by
  rw [skipNested, skipBlanks_cons _ rfl]
  rfl

theorem skipNested_object (depth : Nat) (text : List Char) :
    skipNested (depth + 1) ('{' :: text) = skipObject (skipNested depth) text := by
  rw [skipNested, skipBlanks_cons _ rfl]
  rfl

theorem readColon_of_blanks (blanks : Blanks text (':' :: rest)) : readColon text = .ok rest := by
  rw [readColon, blanks.skipBlanks_eq, skipBlanks_cons _ rfl]
  rfl

/-- A list is passed over when its first item and the loop over the others are. -/
theorem skipList_of_passesAll {depth : Nat} {vs : List Written} {more : List Char}
    (items : Spells (.items vs) text more)
    (passes : PassesAll (skipNested depth) (skipItems (skipNested depth)) text rest) :
    skipList (skipNested depth) text = .ok rest := by
  obtain ⟨left, first, _, others⟩ := passes
  obtain ⟨c, behind, begins, visible, noEnd⟩ := items.items_open
  have again : skipNested depth (c :: behind) = .ok left := by
    rw [← first]
    exact skipNested_congr ((skipBlanks_cons behind visible).trans begins.symm) depth
  rw [skipList, begins]
  split
  · next impossible => cases impossible
  · next same =>
      cases same
      exact absurd rfl noEnd
  · rw [again, Steps.ok_bind]
    exact others _ (Nat.lt_succ_self _)

/-- An object is passed over when its first member and the loop over the others are. -/
theorem skipObject_of_passesAll {depth : Nat} {ms : List (String × Written)} {more : List Char}
    (members : Spells (.members ms) text more)
    (passes : PassesAll (skipMember (skipNested depth)) (skipMembers (skipNested depth)) text
      rest) : skipObject (skipNested depth) text = .ok rest := by
  obtain ⟨left, first, _, others⟩ := passes
  obtain ⟨behind, begins⟩ := members.members_open
  have again : skipMember (skipNested depth) ('"' :: behind) = .ok left := by
    rw [← first]
    exact skipMember_congr ((skipBlanks_cons behind rfl).trans begins.symm)
  have onwards := others _ (Nat.lt_succ_self left.length)
  rw [skipObject, begins]
  exact Steps.bind_eq_ok.mpr ⟨left, again, onwards⟩

end Values

/-- What is shown of each part by induction on the grammar. -/
def Skipped : Part → List Char → List Char → Prop
  | .value _, text, rest => ∀ depth, text.length ≤ depth → Numeral.Ends rest →
      skipNested depth text = .ok rest
  | .element _, text, rest => ∀ depth, text.length ≤ depth → Numeral.Ends rest →
      Passes (skipNested depth) text rest
  | .items _, text, rest => ∀ depth, text.length ≤ depth → ∀ more, rest = ']' :: more →
      PassesAll (skipNested depth) (skipItems (skipNested depth)) text more
  | .member _, text, rest => ∀ depth, text.length ≤ depth → Numeral.Ends rest →
      Passes (skipMember (skipNested depth)) text rest
  | .members _, text, rest => ∀ depth, text.length ≤ depth → ∀ more, rest = '}' :: more →
      PassesAll (skipMember (skipNested depth)) (skipMembers (skipNested depth)) text more

/-- **Every part that keeps to the grammar is passed over**, by induction on the grammar. -/
theorem skipped_of_spells {part : Part} {text rest : List Char} (spelled : Spells part text rest) :
    Skipped part text rest := by
  induction spelled with
  | null => exact fun depth _ _ => (skipNested_word depth).1
  | yes => exact fun depth _ _ => (skipNested_word depth).2.1
  | no => exact fun depth _ _ => (skipNested_word depth).2.2
  | number stands => exact fun depth _ ends => skipNested_number stands ends depth
  | string letters => exact fun depth _ _ => skipNested_string letters depth
  | emptyList blanks =>
      intro depth enough _
      obtain ⟨inner, rfl⟩ := Nat.exists_eq_add_one_of_ne_zero (Nat.ne_zero_of_lt enough)
      rw [skipNested_list, skipList, blanks.skipBlanks_eq, skipBlanks_cons _ rfl]
      rfl
  | list items ih =>
      intro depth enough _
      obtain ⟨inner, rfl⟩ := Nat.exists_eq_add_one_of_ne_zero (Nat.ne_zero_of_lt enough)
      rw [skipNested_list]
      exact skipList_of_passesAll items (ih inner (Nat.le_of_succ_le_succ enough) _ rfl)
  | emptyObject blanks =>
      intro depth enough _
      obtain ⟨inner, rfl⟩ := Nat.exists_eq_add_one_of_ne_zero (Nat.ne_zero_of_lt enough)
      rw [skipNested_object, skipObject, blanks.skipBlanks_eq, skipBlanks_cons _ rfl]
      rfl
  | object members ih =>
      intro depth enough _
      obtain ⟨inner, rfl⟩ := Nat.exists_eq_add_one_of_ne_zero (Nat.ne_zero_of_lt enough)
      rw [skipNested_object]
      exact skipObject_of_passesAll members (ih inner (Nat.le_of_succ_le_succ enough) _ rfl)
  | element before value after ih =>
      intro depth enough ends
      have skips := ih depth (Nat.le_trans before.length_le enough) (after.ends ends)
      refine ⟨_, (skipNested_congr before.skipBlanks_eq depth).trans skips, ?_, after⟩
      exact Nat.le_trans (Nat.le_of_lt value.length_lt) before.length_le
  | lastItem item ih =>
      rintro depth enough more rfl
      obtain ⟨left, skips, shorter, blanks⟩ := ih depth enough (Numeral.ends_cons _ (by decide))
      refine ⟨left, skips, shorter, fun steps within => ?_⟩
      obtain ⟨fewer, rfl⟩ := Nat.exists_eq_add_one_of_ne_zero (Nat.ne_zero_of_lt within)
      exact skipItems_close blanks fewer
  | item item others ih ihOthers =>
      rintro depth enough more rfl
      have shrinks := item.length_lt
      obtain ⟨left, skips, shorter, blanks⟩ := ih depth enough (Numeral.ends_cons _ (by decide))
      simp only [List.length_cons] at shrinks
      obtain ⟨behind, next, shorterToo, rest⟩ := ihOthers depth (by omega) more rfl
      refine ⟨left, skips, shorter, fun steps within => ?_⟩
      obtain ⟨fewer, rfl⟩ := Nat.exists_eq_add_one_of_ne_zero (Nat.ne_zero_of_lt within)
      have comma := blanks.length_le
      simp only [List.length_cons] at comma
      rw [skipItems_comma blanks next]
      exact rest fewer (by omega)
  | member before key colon value ih =>
      intro depth enough ends
      have opening := before.length_le
      have named := key.length_lt
      have divided := colon.length_le
      simp only [List.length_cons] at opening divided
      obtain ⟨left, skips, shorter, blanks⟩ := ih depth (by omega) ends
      refine ⟨left, ?_, by omega, blanks⟩
      rw [skipMember, before.skipBlanks_eq, skipBlanks_cons _ rfl]
      simp only [key.skip, readColon_of_blanks colon, skips, Steps.ok_bind]
  | lastMember member ih =>
      rintro depth enough more rfl
      obtain ⟨left, skips, shorter, blanks⟩ := ih depth enough (Numeral.ends_cons _ (by decide))
      refine ⟨left, skips, shorter, fun steps within => ?_⟩
      obtain ⟨fewer, rfl⟩ := Nat.exists_eq_add_one_of_ne_zero (Nat.ne_zero_of_lt within)
      exact skipMembers_close blanks fewer
  | nextMember member others ih ihOthers =>
      rintro depth enough more rfl
      have shrinks := member.length_lt
      obtain ⟨left, skips, shorter, blanks⟩ := ih depth enough (Numeral.ends_cons _ (by decide))
      simp only [List.length_cons] at shrinks
      obtain ⟨behind, next, shorterToo, rest⟩ := ihOthers depth (by omega) more rfl
      refine ⟨left, skips, shorter, fun steps within => ?_⟩
      obtain ⟨fewer, rfl⟩ := Nat.exists_eq_add_one_of_ne_zero (Nat.ne_zero_of_lt within)
      have comma := blanks.length_le
      simp only [List.length_cons] at comma
      rw [skipMembers_comma blanks next]
      exact rest fewer (by omega)

/-- **A value with blanks around it is passed over**, whatever it is, up to the blanks behind it. -/
theorem skipValue_of_spells {v : Written} {text rest : List Char}
    (spelled : Spells (.element v) text rest) (ends : Numeral.Ends rest) :
    Passes skipValue text rest :=
  skipped_of_spells spelled text.length (Nat.le_refl _) ends

end LintReport.Json
