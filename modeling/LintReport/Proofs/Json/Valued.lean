import LintReport.Proofs.Json.Skipped

/-!
# What written values stand for

A written value is read as the value that it stands for, and refused only when it has none
(`Json.toOption_readValue`): when one of its numerals is out of range, or when it is nested more
deeply than the reader allows. So the text of a document denotes that value, with its repeated keys
settled (`Json.toOption_parse`).
-/

namespace LintReport.Json

/-- The number that a numeral stands for, if it is in range. -/
def Numeral.number? (numeral : Numeral) : Option JsonNumber :=
  match numeral.toWhole? with
  | some n => some (.whole n)
  | none => numeral.toDouble.toOption.map .double

mutual

/-- What a written value stands for, if its numerals are in range and if no more lists and objects
than given stand around each other. -/
def Written.value? : (depth : Nat) → Written → Option Json
  | _, .null => some .null
  | _, .boolean b => some (.boolean b)
  | _, .number numeral => numeral.number?.map .number
  | _, .string s => some (.string s)
  | 0, .list _ => none
  | depth + 1, .list items => (itemValues? depth items).map .list
  | 0, .object _ => none
  | depth + 1, .object members => (memberValues? depth members).map .object

/-- What written values stand for, if each of them has a value. -/
def itemValues? : (depth : Nat) → List Written → Option (List Json)
  | _, [] => some []
  | depth, v :: vs => (v.value? depth).bind fun value => (itemValues? depth vs).map (value :: ·)

/-- The members that are written, with what they stand for, if each of them has a value. -/
def memberValues? : (depth : Nat) → List (String × Written) → Option (List (String × Json))
  | _, [] => some []
  | depth, (key, v) :: ms =>
    ((v.value? depth).map (key, ·)).bind fun member => (memberValues? depth ms).map (member :: ·)

end

/-- What is read does not depend on the blanks in front of it. -/
theorem readValue_congr {text other : List Char} (same : skipBlanks text = skipBlanks other)
    (depth : Nat) : readValue depth text = readValue depth other := by
  unfold readValue
  rw [same]

section Readers

variable {α : Type}

/-- A reader gets this result from a text, or none, and leaves blanks in front of the rest. -/
def Reads (read : Reader α) (result? : Option α) (text rest : List Char) : Prop :=
  ∃ left, (read text).toOption = result?.map (·, left) ∧ left.length ≤ text.length ∧
    Blanks left rest

/-- A reader gets the first of several results from a text, and a loop gets the others. -/
def ReadsAll (read : Reader α) (loop : Nat → List α → Reader (List α)) (first? : Option α)
    (others? : Option (List α)) (text rest : List Char) : Prop :=
  ∃ left, (read text).toOption = first?.map (·, left) ∧ left.length ≤ text.length ∧
    ∀ steps before, left.length < steps →
      (loop steps before left).toOption = others?.map (before.reverse ++ ·, rest)

/-- The first result is in front of what the loop gets, and behind what was there before. -/
theorem ReadsAll.toOption {read : Reader α} {loop : Nat → List α → Reader (List α)}
    {first? : Option α} {others? : Option (List α)} {text rest : List Char}
    (reads : ReadsAll read loop first? others? text rest) (steps : List Char → Nat)
    (enough : ∀ left : List Char, left.length ≤ text.length → left.length < steps left)
    (before : List α) :
    (do let (first, left) ← read text; loop (steps left) (first :: before) left).toOption =
      (first?.bind fun first => others?.map (first :: ·)).map (before.reverse ++ ·, rest) := by
  obtain ⟨left, first, shorter, others⟩ := reads
  rw [Steps.toOption_bind, first]
  cases first? with
  | none => rfl
  | some found =>
      refine (others _ (found :: before) (enough left shorter)).trans ?_
      simp only [List.reverse_cons, List.append_assoc, List.singleton_append, Option.bind_some,
        Option.map_map, Function.comp_def]

variable {item : Reader α} {left more : List Char}

theorem readItems_close (blanks : Blanks left (']' :: more)) (steps : Nat) (before : List α) :
    readItems item (steps + 1) before left = .ok (before.reverse, more) := by
  rw [readItems, blanks.skipBlanks_eq, skipBlanks_cons more rfl]
  rfl

/-- Behind a comma the next item is read, and then the others. -/
theorem readItems_comma (blanks : Blanks left (',' :: more)) {c : Char} {behind : List Char}
    (begins : skipBlanks more = c :: behind) (noEnd : c ≠ ']') (steps : Nat) (before : List α) :
    readItems item (steps + 1) before left =
      (do let (value, rest) ← item (c :: behind); readItems item steps (value :: before) rest) := by
  rw [readItems, blanks.skipBlanks_eq, skipBlanks_cons more rfl]
  simp only [begins]
  split
  · next impossible => cases impossible
  · next same =>
      cases same
      exact absurd rfl noEnd
  · rfl

theorem readMembers_close (blanks : Blanks left ('}' :: more)) (steps : Nat)
    (before : List (String × α)) :
    readMembers item (steps + 1) before left = .ok (before.reverse, more) := by
  rw [readMembers, blanks.skipBlanks_eq, skipBlanks_cons more rfl]
  rfl

theorem readMembers_comma (blanks : Blanks left (',' :: more)) {behind : List Char}
    (begins : skipBlanks more = '"' :: behind) (steps : Nat) (before : List (String × α)) :
    readMembers item (steps + 1) before left = (do
      let (member, rest) ← readMember item behind
      readMembers item steps (member :: before) rest) := by
  rw [readMembers, blanks.skipBlanks_eq, skipBlanks_cons more rfl]
  simp only [begins]

end Readers

section Values

variable {text rest : List Char}

/-- The words for nothing, true and false are read at every depth. -/
theorem readValue_word (depth : Nat) :
    readValue depth ('n' :: 'u' :: 'l' :: 'l' :: rest) = .ok (.null, rest) ∧
      readValue depth ('t' :: 'r' :: 'u' :: 'e' :: rest) = .ok (.boolean true, rest) ∧
      readValue depth ('f' :: 'a' :: 'l' :: 's' :: 'e' :: rest) = .ok (.boolean false, rest) := by
  refine ⟨?_, ?_, ?_⟩ <;> unfold readValue <;> rw [skipBlanks_cons _ rfl] <;> rfl

/-- A numeral is read as the number that it stands for, or refused when it has none. -/
theorem toOption_readNumber {numeral : Numeral} (stands : Numeral.Stands text numeral rest)
    (ends : Numeral.Ends rest) : (readNumber text).toOption = numeral.number?.map (·, rest) := by
  unfold readNumber Numeral.number?
  simp only [stands.read ends, Steps.ok_bind]
  cases numeral.toWhole? with
  | some n => rfl
  | none =>
      cases numeral.toDouble with
      | ok x => rfl
      | error place => cases place <;> rfl

/-- A value that is a numeral is read as its number, or refused when it has none. -/
theorem toOption_readValue_number {numeral : Numeral} (stands : Numeral.Stands text numeral rest)
    (ends : Numeral.Ends rest) (depth : Nat) :
    (readValue depth text).toOption = (numeral.number?.map Json.number).map (·, rest) := by
  have reads := toOption_readNumber stands ends
  obtain ⟨c, more, rfl, opens⟩ := stands.opens
  rw [readValue_of_numeral depth more opens, Steps.toOption_bind, reads]
  cases numeral.number? <;> rfl

theorem readValue_string {chars : List Char} (letters : Text.Letters text chars rest)
    (depth : Nat) : readValue depth ('"' :: text) = .ok (.string (String.ofList chars), rest) := by
  unfold readValue
  rw [skipBlanks_cons _ rfl]
  simp only [letters.read, Steps.ok_bind, Steps.pure_eq_ok]

/-- At the innermost level neither a list nor an object is read. -/
theorem readValue_zero_nested (text : List Char) :
    (readValue 0 ('[' :: text)).toOption = none ∧ (readValue 0 ('{' :: text)).toOption = none := by
  refine ⟨?_, ?_⟩ <;> rw [readValue, skipBlanks_cons _ rfl] <;> rfl

/-- A value that is a list is read as what is behind the bracket, one level deeper. -/
theorem toOption_readValue_list {depth : Nat} {values? : Option (List Json)}
    (reads : (readList (readValue depth) text).toOption = values?.map (·, rest)) :
    (readValue (depth + 1) ('[' :: text)).toOption = (values?.map Json.list).map (·, rest) := by
  rw [readValue, skipBlanks_cons _ rfl]
  refine (Steps.toOption_bind _ _).trans ?_
  rw [reads]
  cases values? <;> rfl

theorem toOption_readValue_object {depth : Nat} {members? : Option Members}
    (reads : (readObject (readValue depth) text).toOption = members?.map (·, rest)) :
    (readValue (depth + 1) ('{' :: text)).toOption =
      (members?.map Json.object).map (·, rest) := by
  rw [readValue, skipBlanks_cons _ rfl]
  refine (Steps.toOption_bind _ _).trans ?_
  rw [reads]
  cases members? <;> rfl

/-- A list that is not empty is read as the values of its items, when each of them is. -/
theorem toOption_readList {depth : Nat} {v : Written} {vs : List Written} {more : List Char}
    (items : Spells (.items (v :: vs)) text more)
    (reads : ReadsAll (readValue depth) (readItems (readValue depth)) (v.value? depth)
      (itemValues? depth vs) text rest) :
    (readList (readValue depth) text).toOption =
      (itemValues? depth (v :: vs)).map (·, rest) := by
  obtain ⟨c, behind, begins, visible, noEnd⟩ := items.items_open
  have again : readValue depth (c :: behind) = readValue depth text :=
    readValue_congr ((skipBlanks_cons behind visible).trans begins.symm) depth
  have steps := reads.toOption (·.length + 1) (fun left _ => Nat.lt_succ_self _) []
  rw [readList, begins]
  split
  · next impossible => cases impossible
  · next same =>
      cases same
      exact absurd rfl noEnd
  · rw [again]
    exact steps

/-- An object that is not empty is read as the values of its members, when each of them is. -/
theorem toOption_readObject {depth : Nat} {m : String × Written}
    {ms : List (String × Written)} {start : List Char} (begins : skipBlanks text = '"' :: start)
    (reads : ReadsAll (readMember (readValue depth)) (readMembers (readValue depth))
      ((m.2.value? depth).map (m.1, ·)) (memberValues? depth ms) start rest) :
    (readObject (readValue depth) text).toOption =
      (memberValues? depth (m :: ms)).map (·, rest) := by
  have steps := reads.toOption (·.length + 1) (fun left _ => Nat.lt_succ_self _) []
  rw [readObject, begins]
  exact steps

/-- A member is read as its key with the value behind the colon. -/
theorem toOption_readMember {start stop behind chars left : List Char}
    (key : Text.Letters start chars stop) (colon : Blanks stop (':' :: behind))
    {item : Reader Json} {value? : Option Json}
    (reads : (item behind).toOption = value?.map (·, left)) :
    (readMember item start).toOption = (value?.map (String.ofList chars, ·)).map (·, left) := by
  rw [readMember]
  simp only [key.read, readColon_of_blanks colon, Steps.ok_bind, Steps.toOption_bind, reads]
  cases value? <;> rfl

end Values

/-- What is shown of each part by induction on the grammar. -/
def Valued : Part → List Char → List Char → Prop
  | .value v, text, rest => ∀ depth, Numeral.Ends rest →
      (readValue depth text).toOption = (v.value? depth).map (·, rest)
  | .element v, text, rest => ∀ depth, Numeral.Ends rest →
      Reads (readValue depth) (v.value? depth) text rest
  | .items vs, text, rest => ∀ depth more, rest = ']' :: more → ∃ v others, vs = v :: others ∧
      ReadsAll (readValue depth) (readItems (readValue depth)) (v.value? depth)
        (itemValues? depth others) text more
  | .member m, text, rest => ∀ depth, Numeral.Ends rest → ∃ start, skipBlanks text = '"' :: start ∧
      Reads (readMember (readValue depth)) ((m.2.value? depth).map (m.1, ·)) start rest
  | .members ms, text, rest => ∀ depth more, rest = '}' :: more → ∃ m others start,
      ms = m :: others ∧ skipBlanks text = '"' :: start ∧
      ReadsAll (readMember (readValue depth)) (readMembers (readValue depth))
        ((m.2.value? depth).map (m.1, ·)) (memberValues? depth others) start more

/-- **Every part that keeps to the grammar is read as what it stands for**, by induction on the
grammar. -/
theorem valued_of_spells {part : Part} {text rest : List Char} (spelled : Spells part text rest) :
    Valued part text rest := by
  induction spelled with
  | null => exact fun depth _ => congrArg Except.toOption (readValue_word depth).1
  | yes => exact fun depth _ => congrArg Except.toOption (readValue_word depth).2.1
  | no => exact fun depth _ => congrArg Except.toOption (readValue_word depth).2.2
  | number stands => exact fun depth ends => toOption_readValue_number stands ends depth
  | string letters =>
      exact fun depth _ => congrArg Except.toOption (readValue_string letters depth)
  | emptyList blanks =>
      intro depth _
      cases depth with
      | zero => exact (readValue_zero_nested _).1
      | succ depth =>
          refine toOption_readValue_list (?_ : _ = (some []).map _)
          rw [readList, blanks.skipBlanks_eq, skipBlanks_cons _ rfl]
          rfl
  | list items ih =>
      intro depth _
      cases depth with
      | zero => exact (readValue_zero_nested _).1
      | succ depth =>
          obtain ⟨v, others, rfl, reads⟩ := ih depth _ rfl
          exact toOption_readValue_list (toOption_readList items reads)
  | emptyObject blanks =>
      intro depth _
      cases depth with
      | zero => exact (readValue_zero_nested _).2
      | succ depth =>
          refine toOption_readValue_object (?_ : _ = (some []).map _)
          rw [readObject, blanks.skipBlanks_eq, skipBlanks_cons _ rfl]
          rfl
  | object members ih =>
      intro depth _
      cases depth with
      | zero => exact (readValue_zero_nested _).2
      | succ depth =>
          obtain ⟨m, others, start, rfl, begins, reads⟩ := ih depth _ rfl
          exact toOption_readValue_object (toOption_readObject begins reads)
  | element before value after ih =>
      intro depth ends
      have reads := ih depth (after.ends ends)
      refine ⟨_, ?_, Nat.le_trans (Nat.le_of_lt value.length_lt) before.length_le, after⟩
      rw [readValue_congr before.skipBlanks_eq, reads]
  | lastItem item ih =>
      rintro depth more rfl
      obtain ⟨left, reads, shorter, blanks⟩ := ih depth (Numeral.ends_cons _ (by decide))
      refine ⟨_, [], rfl, left, reads, shorter, fun steps before within => ?_⟩
      obtain ⟨fewer, rfl⟩ := Nat.exists_eq_add_one_of_ne_zero (Nat.ne_zero_of_lt within)
      rw [readItems_close blanks, itemValues?, Option.map_some, List.append_nil]
      rfl
  | item item others ih ihOthers =>
      rintro depth more rfl
      obtain ⟨left, reads, shorter, blanks⟩ := ih depth (Numeral.ends_cons _ (by decide))
      obtain ⟨v, vs, rfl, later⟩ := ihOthers depth more rfl
      obtain ⟨c, behind, begins, visible, noEnd⟩ := others.items_open
      refine ⟨_, _, rfl, left, reads, shorter, fun steps before within => ?_⟩
      obtain ⟨fewer, rfl⟩ := Nat.exists_eq_add_one_of_ne_zero (Nat.ne_zero_of_lt within)
      have comma := blanks.length_le
      simp only [List.length_cons] at comma
      rw [readItems_comma blanks begins noEnd,
        readValue_congr ((skipBlanks_cons behind visible).trans begins.symm)]
      exact later.toOption (fun _ => fewer) (fun left below => by omega) before
  | member before key colon value ih =>
      intro depth ends
      obtain ⟨left, reads, shorter, blanks⟩ := ih depth ends
      have named := key.length_lt
      have divided := colon.length_le
      simp only [List.length_cons] at divided
      refine ⟨_, before.skipBlanks_eq.trans (skipBlanks_cons _ rfl), left, ?_, by omega, blanks⟩
      exact toOption_readMember key colon reads
  | lastMember member ih =>
      rintro depth more rfl
      obtain ⟨start, begins, left, reads, shorter, blanks⟩ :=
        ih depth (Numeral.ends_cons _ (by decide))
      refine ⟨_, [], start, rfl, begins, left, reads, shorter, fun steps before within => ?_⟩
      obtain ⟨fewer, rfl⟩ := Nat.exists_eq_add_one_of_ne_zero (Nat.ne_zero_of_lt within)
      rw [readMembers_close blanks, memberValues?, Option.map_some, List.append_nil]
      rfl
  | @nextMember text behind _ m ms member others ih ihOthers =>
      rintro depth more rfl
      obtain ⟨start, begins, left, reads, shorter, blanks⟩ :=
        ih depth (Numeral.ends_cons _ (by decide))
      obtain ⟨m, ms, next, rfl, beginsToo, later⟩ := ihOthers depth more rfl
      refine ⟨_, _, start, rfl, begins, left, reads, shorter, fun steps before within => ?_⟩
      obtain ⟨fewer, rfl⟩ := Nat.exists_eq_add_one_of_ne_zero (Nat.ne_zero_of_lt within)
      have comma := blanks.length_le
      simp only [List.length_cons] at comma
      rw [readMembers_comma blanks beginsToo]
      have opening : ('"' :: next).length ≤ behind.length := by
        rw [← beginsToo]
        exact (List.dropWhile_sublist isBlank).length_le
      rw [List.length_cons] at opening
      exact later.toOption (fun _ => fewer) (fun left below => by omega) before

/-- **A written value is read as what it stands for**, and refused when it stands for nothing. -/
theorem toOption_readValue {v : Written} {text rest : List Char}
    (spelled : Spells (.element v) text rest) (ends : Numeral.Ends rest) (depth : Nat) :
    Reads (readValue depth) (v.value? depth) text rest :=
  valued_of_spells spelled depth ends

/-- A reader that leaves nothing but blanks reads the text as a whole. -/
theorem toOption_readAll {α : Type} {read : Reader α} {result? : Option α} {text : String}
    (reads : Reads read result? text.toList []) : (readAll read text).toOption = result? := by
  obtain ⟨left, reads, _, blanks⟩ := reads
  have blank : skipBlanks left = [] := blanks.skipBlanks_eq
  cases found : read text.toList with
  | error fault =>
      rw [found] at reads
      cases Option.map_eq_none_iff.mp reads.symm
      simp only [readAll, found]
      rfl
  | ok given =>
      obtain ⟨value, rest⟩ := given
      rw [found] at reads
      obtain ⟨_, rfl, same⟩ := Option.map_eq_some_iff.mp reads.symm
      cases same
      exact congrArg Except.toOption (readAll_eq_ok.mpr ⟨left, found, blank⟩)

/-- **A document denotes what is written in it**, with its repeated keys settled. -/
theorem toOption_parse {text : String} {v : Written} (document : Document text v) :
    (parse text).toOption = (v.value? nestingLimit).map settle := by
  have whole : (parseWritten text).toOption = v.value? nestingLimit :=
    toOption_readAll (toOption_readValue document Numeral.ends_nil nestingLimit)
  rw [← whole, parse]
  cases parseWritten text <;> rfl

end LintReport.Json
