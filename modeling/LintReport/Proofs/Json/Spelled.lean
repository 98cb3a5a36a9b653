import LintReport.Json.Skip
import LintReport.Proofs.Json.Grammar
import LintReport.Proofs.Json.RoundTrip

/-!
# Reading what the grammar spells

Whatever the grammar spells is read, or passed over, up to where it ends.
-/

namespace LintReport.Json

theorem Blanks.length_le {text rest : List Char} (blanks : Blanks text rest) :
    rest.length ≤ text.length := by
  induction blanks with
  | none => exact Nat.le_refl _
  | more _ _ ih => exact Nat.le_succ_of_le ih

/-- Blanks in front make no difference to what is left when blanks are skipped. -/
theorem Blanks.skipBlanks_eq {text rest : List Char} (blanks : Blanks text rest) :
    skipBlanks text = skipBlanks rest := by
  induction blanks with
  | none => rfl
  | @more c text rest blank _ ih =>
      have passed : isBlank c = true := by
        simp only [List.mem_cons, List.not_mem_nil, or_false] at blank
        rcases blank with rfl | rfl | rfl | rfl <;> rfl
      unfold skipBlanks at ih ⊢
      rw [List.dropWhile_cons_of_pos passed, ih]

/-- Blanks do not go on with a numeral. -/
theorem Blanks.ends {text rest : List Char} (blanks : Blanks text rest)
    (ends : Numeral.Ends rest) : Numeral.Ends text := by
  cases blanks with
  | none => exact ends
  | more blank _ =>
      apply Numeral.ends_cons
      simp only [List.mem_cons, List.not_mem_nil, or_false] at blank
      rcases blank with rfl | rfl | rfl | rfl <;> decide

namespace Text

theorem HexDigit.value {c : Char} {digit : Nat} (hex : HexDigit c digit) :
    Decimal.hexDigit? c = some digit := by
  have all : ∀ digit < 16, Decimal.hexDigit? (Nat.digitChar digit).toUpper = some digit := by
    decide
  cases hex with
  | lower small => exact Decimal.hexDigit?_digitChar small
  | upper small => exact all digit small

/-- Four hexadecimal digits are read as the unit that they stand for. -/
theorem Quad.read {text rest : List Char} {unit : Nat} (quad : Quad text unit rest) :
    readUnit text = .ok (unit, rest) := by
  cases quad with
  | @digits a b c d i j k l rest first second third fourth =>
      have value : Decimal.hexValue? [a, b, c, d] = some (((i * 16 + j) * 16 + k) * 16 + l) := by
        simp only [Decimal.hexValue?, List.foldlM_cons, List.foldlM_nil, first.value, second.value,
          third.value, fourth.value, Option.map_some, Option.bind_eq_bind, Option.bind_some,
          Option.pure_def, Option.some.injEq]
        omega
      have four : ¬ (rest.length + 1 + 1 + 1 + 1 < 4) := by omega
      simp only [readUnit, List.take_succ_cons, List.take_zero, value, List.length_cons, four,
        ↓reduceIte, List.drop_succ_cons, List.drop_zero]

theorem Quad.length_lt {text rest : List Char} {unit : Nat} (quad : Quad text unit rest) :
    rest.length < text.length := by
  cases quad with
  | digits =>
      simp only [List.length_cons]
      omega

/-- A letter of the table stands for its character, and none of them opens a code unit. -/
theorem unescape?_of_mem {letter c : Char} (stands : (letter, c) ∈ shortEscapes) :
    letter ≠ 'u' ∧ unescape? letter = some c := by
  simp only [shortEscapes, List.mem_cons, Prod.mk.injEq, List.not_mem_nil, or_false] at stands
  rcases stands with ⟨rfl, rfl⟩ | ⟨rfl, rfl⟩ | ⟨rfl, rfl⟩ | ⟨rfl, rfl⟩ | ⟨rfl, rfl⟩ | ⟨rfl, rfl⟩ |
    ⟨rfl, rfl⟩ | ⟨rfl, rfl⟩ <;> exact ⟨by decide, rfl⟩

theorem Letters.length_lt {text chars rest : List Char} (letters : Letters text chars rest) :
    rest.length < text.length := by
  induction letters with
  | close => exact Nat.lt_succ_self _
  | plain _ _ _ _ ih => exact Nat.lt_succ_of_lt ih
  | short _ _ ih => exact Nat.lt_succ_of_lt (Nat.lt_succ_of_lt ih)
  | unit quad _ _ ih =>
      have shorter := quad.length_lt
      simp only [List.length_cons]
      omega
  | pair first second _ _ _ ih =>
      have shorter := first.length_lt
      have shorterToo := second.length_lt
      simp only [List.length_cons] at shorter ⊢
      omega

/-- A code unit outside the surrogates stands for its character. -/
theorem readUnicode_unit {unit : Nat} {text behind : List Char} (quad : Quad text unit behind)
    (scalar : unit < 0xD800 ∨ 0xDFFF < unit) :
    readUnicode text = .ok (Char.ofNat unit, behind) := by
  have trailing : isTrailing unit = false := by
    simp only [isTrailing, Bool.and_eq_false_iff, decide_eq_false_iff_not]
    omega
  have leading : isLeading unit = false := by
    simp only [isLeading, Bool.and_eq_false_iff, decide_eq_false_iff_not]
    omega
  simp only [readUnicode, quad.read, Steps.ok_bind, trailing, leading, Bool.false_eq_true,
    ↓reduceIte, Steps.pure_eq_ok]

/-- Two surrogates, a leading and a trailing one, stand for one character together. -/
theorem readUnicode_pair {leading trailing : Nat} {text between behind : List Char}
    (first : Quad text leading ('\\' :: 'u' :: between)) (second : Quad between trailing behind)
    (leads : 0xD800 ≤ leading ∧ leading ≤ 0xDBFF) (trails : 0xDC00 ≤ trailing ∧ trailing ≤ 0xDFFF) :
    readUnicode text = .ok (join leading trailing, behind) := by
  have notTrailing : isTrailing leading = false := by
    simp only [isTrailing, Bool.and_eq_false_iff, decide_eq_false_iff_not]
    omega
  have isLead : isLeading leading = true := by
    simp only [isLeading, Bool.and_eq_true, decide_eq_true_eq]
    exact leads
  have isTrail : isTrailing trailing = true := by
    simp only [isTrailing, Bool.and_eq_true, decide_eq_true_eq]
    exact trails
  simp only [readUnicode, first.read, second.read, Steps.ok_bind, notTrailing, isLead, isTrail,
    Bool.false_eq_true, ↓reduceIte, Steps.pure_eq_ok]

/-- Reading a string goes on behind an escape with its character. -/
theorem readRest_escaped {c : Char} {text rest : List Char} (reads : readEscape text = .ok (c, rest))
    (steps : Nat) (before : List Char) :
    readRest (steps + 1) before ('\\' :: text) = readRest steps (c :: before) rest := by
  have noQuote : ('\\' : Char) ≠ '"' := by decide
  simp only [Text.readRest, noQuote, ↓reduceIte, reads, Steps.ok_bind]

/-- Passing over a string goes on behind an escape. -/
theorem skipRest_escaped {text rest : List Char} (skips : skipEscape text = .ok rest)
    (steps : Nat) : skipRest (steps + 1) ('\\' :: text) = skipRest steps rest := by
  have noQuote : ('\\' : Char) ≠ '"' := by decide
  simp only [skipRest, noQuote, ↓reduceIte, skips, Steps.ok_bind]

theorem skipEscape_unit {unit : Nat} {text rest : List Char} (quad : Quad text unit rest) :
    skipEscape ('u' :: text) = .ok rest := by
  simp only [skipEscape, ↓reduceIte, quad.read, Steps.ok_bind, Steps.pure_eq_ok]

/-- A string that is spelled is read. -/
theorem Letters.readRest {text chars rest : List Char} (letters : Letters text chars rest) :
    ∀ (steps : Nat) (before : List Char), text.length < steps →
      readRest steps before text = .ok (before.reverse ++ chars, rest) := by
  induction letters with
  | close =>
      intro steps before enough
      obtain ⟨fewer, rfl⟩ := Nat.exists_eq_add_one_of_ne_zero (Nat.ne_zero_of_lt enough)
      rw [List.append_nil]
      rfl
  | @plain c text chars rest quote backslash visible _ ih =>
      intro steps before enough
      obtain ⟨fewer, rfl⟩ := Nat.exists_eq_add_one_of_ne_zero (Nat.ne_zero_of_lt enough)
      simp only [Text.readRest, quote, backslash, Nat.not_lt.mpr visible, ↓reduceIte]
      rw [ih fewer (c :: before) (Nat.lt_of_succ_lt_succ enough), List.reverse_cons,
        List.append_assoc, List.singleton_append]
  | @short letter c text chars rest stands _ ih =>
      intro steps before enough
      obtain ⟨fewer, rfl⟩ := Nat.exists_eq_add_one_of_ne_zero (Nat.ne_zero_of_lt enough)
      obtain ⟨noUnit, escapes⟩ := unescape?_of_mem stands
      have reads : readEscape (letter :: text) = .ok (c, text) := by
        simp only [readEscape, noUnit, ↓reduceIte, escapes]
      simp only [List.length_cons] at enough
      rw [readRest_escaped reads, ih fewer (c :: before) (by omega),
        List.reverse_cons, List.append_assoc, List.singleton_append]
  | @unit unit text behind chars rest quad scalar _ ih =>
      intro steps before enough
      obtain ⟨fewer, rfl⟩ := Nat.exists_eq_add_one_of_ne_zero (Nat.ne_zero_of_lt enough)
      have reads : readEscape ('u' :: text) = .ok (Char.ofNat unit, behind) := by
        simp only [readEscape, ↓reduceIte, readUnicode_unit quad scalar]
      have shorter := quad.length_lt
      simp only [List.length_cons] at enough
      rw [readRest_escaped reads, ih fewer (_ :: before) (by omega),
        List.reverse_cons, List.append_assoc, List.singleton_append]
  | @pair leading trailing text between behind chars rest first second leads trails _ ih =>
      intro steps before enough
      obtain ⟨fewer, rfl⟩ := Nat.exists_eq_add_one_of_ne_zero (Nat.ne_zero_of_lt enough)
      have reads : readEscape ('u' :: text) = .ok (join leading trailing, behind) := by
        simp only [readEscape, ↓reduceIte, readUnicode_pair first second leads trails]
      have shorter := first.length_lt
      have shorterToo := second.length_lt
      simp only [List.length_cons] at enough shorter
      rw [readRest_escaped reads, ih fewer (_ :: before) (by omega),
        List.reverse_cons, List.append_assoc, List.singleton_append]
      rfl

/-- A string is read as the characters that it spells. -/
theorem Letters.read {text chars rest : List Char} (letters : Letters text chars rest) :
    read text = .ok (String.ofList chars, rest) := by
  simp only [Text.read, letters.readRest _ [] (Nat.lt_succ_self _), Steps.ok_bind,
    List.reverse_nil, List.nil_append, Steps.pure_eq_ok]

/-- A string is passed over up to its closing quote. -/
theorem Letters.skipRest {text chars rest : List Char} (letters : Letters text chars rest) :
    ∀ steps, text.length < steps → skipRest steps text = .ok rest := by
  induction letters with
  | close =>
      intro steps enough
      obtain ⟨fewer, rfl⟩ := Nat.exists_eq_add_one_of_ne_zero (Nat.ne_zero_of_lt enough)
      rfl
  | @plain c text chars rest quote backslash visible _ ih =>
      intro steps enough
      obtain ⟨fewer, rfl⟩ := Nat.exists_eq_add_one_of_ne_zero (Nat.ne_zero_of_lt enough)
      simp only [Text.skipRest, quote, backslash, Nat.not_lt.mpr visible, ↓reduceIte]
      exact ih fewer (Nat.lt_of_succ_lt_succ enough)
  | @short letter c text chars rest stands _ ih =>
      intro steps enough
      obtain ⟨fewer, rfl⟩ := Nat.exists_eq_add_one_of_ne_zero (Nat.ne_zero_of_lt enough)
      obtain ⟨noUnit, escapes⟩ := unescape?_of_mem stands
      have skips : skipEscape (letter :: text) = .ok text := by
        simp only [skipEscape, noUnit, ↓reduceIte, escapes, Option.isSome_some]
      simp only [List.length_cons] at enough
      rw [skipRest_escaped skips]
      exact ih fewer (by omega)
  | @unit unit text behind chars rest quad scalar _ ih =>
      intro steps enough
      obtain ⟨fewer, rfl⟩ := Nat.exists_eq_add_one_of_ne_zero (Nat.ne_zero_of_lt enough)
      have shorter := quad.length_lt
      simp only [List.length_cons] at enough
      rw [skipRest_escaped (skipEscape_unit quad)]
      exact ih fewer (by omega)
  | @pair leading trailing text between behind chars rest first second leads trails _ ih =>
      -- Each half is an escape of its own to whoever passes over it.
      intro steps enough
      have shorter := first.length_lt
      have shorterToo := second.length_lt
      simp only [List.length_cons] at enough shorter
      obtain ⟨fewer, rfl⟩ : ∃ fewer, steps = fewer + 1 + 1 := ⟨steps - 2, by omega⟩
      rw [skipRest_escaped (skipEscape_unit first), skipRest_escaped (skipEscape_unit second)]
      exact ih fewer (by omega)

/-- A string that is spelled is passed over. -/
theorem Letters.skip {text chars rest : List Char} (letters : Letters text chars rest) :
    skip text = .ok rest :=
  letters.skipRest _ (Nat.lt_succ_self _)

end Text

namespace Numeral

variable {text rest : List Char}

/-- A run of digits begins with a digit. -/
theorem Digits.eq_cons {run : List Char} (digits : Digits text run rest) :
    ∃ first more, run = first :: more ∧ text = first :: (more ++ rest) ∧ first.isDigit = true := by
  obtain ⟨nonempty, only, split⟩ := digits
  cases run with
  | nil => exact absurd rfl nonempty
  | cons first more => exact ⟨first, more, rfl, split, only first List.mem_cons_self⟩

/-- A text that begins with a run of digits begins with no other character. -/
theorem Digits.ne_cons {run more : List Char} {c : Char} (digits : Digits text run rest)
    (other : c.isDigit = false) : text ≠ c :: more := by
  rintro rfl
  obtain ⟨first, behind, _, split, isDigit⟩ := digits.eq_cons
  cases split
  exact Bool.false_ne_true (other.symm.trans isDigit)

theorem Digits.length_lt {run : List Char} (digits : Digits text run rest) :
    rest.length < text.length := by
  obtain ⟨first, more, _, split, _⟩ := digits.eq_cons
  rw [split, List.length_cons, List.length_append]
  omega

/-- A run of digits is read whole when no digit follows. -/
theorem Digits.read {run : List Char} (digits : Digits text run rest) (stops : Stops rest)
    (atEnd : Cause) : readDigits atEnd text = .ok (run, rest) := by
  obtain ⟨first, more, same, split, isDigit⟩ := digits.eq_cons
  have only : ∀ c ∈ more, c.isDigit = true := fun c member =>
    digits.only c (same ▸ List.mem_cons_of_mem first member)
  obtain ⟨taken, left⟩ := takeWhile_digits only stops
  rw [split, same]
  simp only [readDigits, isDigit, ↓reduceIte, taken, left]

/-- The whole part of a numeral is read when no digit follows. -/
theorem WholePart.read {run : List Char} (whole : WholePart text run rest) (stops : Stops rest)
    (atEnd : Cause) : readWhole atEnd text = .ok (run, rest) := by
  obtain ⟨first, more, same, split, isDigit⟩ := whole.toDigits.eq_cons
  subst same split
  by_cases zero : first = '0'
  · -- A zero stands alone, and what follows it is no digit.
    subst zero
    cases whole.leading rfl
    cases rest with
    | nil => rfl
    | cons c rest => simp only [List.nil_append, readWhole, ↓reduceIte, stops c rfl,
        Bool.false_eq_true]
  · have only : ∀ c ∈ more, c.isDigit = true := fun c member =>
      whole.only c (List.mem_cons_of_mem first member)
    obtain ⟨taken, left⟩ := takeWhile_digits only stops
    simp only [readWhole, zero, ↓reduceIte, isDigit, taken, left]

/-- What follows the digits before the point begins with no digit, and what follows those after it
with no point either. -/
theorem Exponent.stops {exponent : Option (Bool × List Char)} (mark : Exponent text exponent rest)
    (ends : Ends rest) : Stops text ∧ text.head? ≠ some '.' := by
  have begins {c : Char} {more : List Char} (isMark : c = 'e' ∨ c = 'E') :
      Stops (c :: more) ∧ (c :: more).head? ≠ some '.' := by
    rw [List.head?_cons, ne_eq, Option.some.injEq]
    refine ⟨fun first same => ?_, ?_⟩
    · cases same
      rcases isMark with rfl | rfl <;> rfl
    · rcases isMark with rfl | rfl <;> decide
  cases mark with
  | absent => exact ⟨ends.stops, fun point => (ends '.' point).2.1 rfl⟩
  | plain isMark _ => exact begins isMark
  | plus isMark _ => exact begins isMark
  | minus isMark _ => exact begins isMark

theorem Fraction.stops {fraction : Option (List Char)} (point : Fraction text fraction rest)
    (stops : Stops rest) : Stops text := by
  cases point with
  | absent => exact stops
  | digits _ =>
      intro c first
      cases first
      rfl

/-- A fraction is read, or none when no point follows. -/
theorem Fraction.read {fraction : Option (List Char)} (point : Fraction text fraction rest)
    (stops : Stops rest) (noPoint : rest.head? ≠ some '.') (atEnd : Cause) :
    readFraction atEnd text = .ok (fraction, rest) := by
  cases point with
  | absent =>
      unfold readFraction
      split
      · exact absurd rfl noPoint
      · rfl
  | digits digits =>
      simp only [readFraction, digits.read stops, Steps.ok_bind, Steps.pure_eq_ok]

theorem Exponent.read {exponent : Option (Bool × List Char)} (mark : Exponent text exponent rest)
    (ends : Ends rest) (atEnd : Cause) : readExponent atEnd text = .ok (exponent, rest) := by
  cases mark with
  | absent => exact readExponent_of_ends atEnd ends
  | plain isMark digits =>
      -- The reader looks for a sign first, and no digit is one.
      simp only [readExponent, isMark, ↓reduceIte]
      split
      · exact absurd rfl (digits.ne_cons (c := '-') rfl)
      · exact absurd rfl (digits.ne_cons (c := '+') rfl)
      · simp only [digits.read ends.stops, Steps.ok_bind, Steps.pure_eq_ok]
  | plus isMark digits =>
      simp only [readExponent, isMark, ↓reduceIte, digits.read ends.stops, Steps.ok_bind,
        Steps.pure_eq_ok]
  | minus isMark digits =>
      simp only [readExponent, isMark, ↓reduceIte, digits.read ends.stops, Steps.ok_bind,
        Steps.pure_eq_ok]

/-- A numeral that is spelled is read, unless more of it follows. -/
theorem Stands.read {numeral : Numeral} (stands : Stands text numeral rest) (ends : Ends rest)
    (atEnd : Cause) : read atEnd text = .ok (numeral, rest) := by
  cases stands with
  | plain front middle back =>
      obtain ⟨stops, noPoint⟩ := back.stops ends
      have unsigned : ∀ more, text ≠ '-' :: more := fun _ => front.toDigits.ne_cons rfl
      unfold Numeral.read
      split
      next negative _ signed =>
        split at signed
        · next more => exact absurd rfl (unsigned more)
        · cases signed
          simp only [front.read (middle.stops stops), middle.read stops noPoint, back.read ends,
            Steps.ok_bind, Steps.pure_eq_ok]
  | minus front middle back =>
      obtain ⟨stops, noPoint⟩ := back.stops ends
      simp only [Numeral.read, front.read (middle.stops stops), middle.read stops noPoint,
        back.read ends, Steps.ok_bind, Steps.pure_eq_ok]

theorem WholePart.opens {run : List Char} (whole : WholePart text run rest) :
    ∃ c more, text = c :: more ∧ c.isDigit = true := by
  obtain ⟨first, more, _, split, isDigit⟩ := whole.toDigits.eq_cons
  exact ⟨first, _, split, isDigit⟩

/-- A numeral begins with a minus sign or a digit. -/
theorem Stands.opens {numeral : Numeral} (stands : Stands text numeral rest) :
    ∃ c more, text = c :: more ∧ (c = '-' ∨ c.isDigit = true) := by
  cases stands with
  | plain front _ _ =>
      obtain ⟨c, more, split, isDigit⟩ := front.opens
      exact ⟨c, more, split, .inr isDigit⟩
  | minus => exact ⟨'-', _, rfl, .inl rfl⟩

theorem Fraction.length_le {fraction : Option (List Char)} (point : Fraction text fraction rest) :
    rest.length ≤ text.length := by
  cases point with
  | absent => exact Nat.le_refl _
  | digits digits => exact Nat.le_succ_of_le (Nat.le_of_lt digits.length_lt)

theorem Exponent.length_le {exponent : Option (Bool × List Char)}
    (mark : Exponent text exponent rest) : rest.length ≤ text.length := by
  cases mark with
  | absent => exact Nat.le_refl _
  | plain _ digits => exact Nat.le_succ_of_le (Nat.le_of_lt digits.length_lt)
  | plus _ digits | minus _ digits =>
      exact Nat.le_succ_of_le (Nat.le_succ_of_le (Nat.le_of_lt digits.length_lt))

theorem Stands.length_lt {numeral : Numeral} (stands : Stands text numeral rest) :
    rest.length < text.length := by
  cases stands with
  | plain front middle back =>
      exact Nat.lt_of_le_of_lt (Nat.le_trans back.length_le middle.length_le) front.toDigits.length_lt
  | minus front middle back =>
      apply Nat.lt_succ_of_lt
      exact Nat.lt_of_le_of_lt (Nat.le_trans back.length_le middle.length_le) front.toDigits.length_lt

end Numeral

/-- The characters with which the spelling of a value can begin. -/
def Written.Opens : Written → Char → Prop
  | .null, c => c = 'n'
  | .boolean true, c => c = 't'
  | .boolean false, c => c = 'f'
  | .number _, c => c = '-' ∨ c.isDigit = true
  | .string _, c => c = '"'
  | .list _, c => c = '['
  | .object _, c => c = '{'

/-- The first character of a value is no blank and closes nothing. -/
theorem Written.Opens.visible {v : Written} {c : Char} (opens : v.Opens c) :
    isBlank c = false ∧ c ≠ ']' ∧ c ≠ '}' := by
  cases v with
  | number _ =>
      obtain ⟨visible, noList, noObject, _⟩ := opening_of_numeral opens
      exact ⟨visible, noList, noObject⟩
  | boolean b => cases b <;> cases opens <;> decide
  | null | string | list | object => cases opens; decide

/-- Only lists begin with a bracket, and only objects with a brace. -/
theorem Written.Opens.plain {v : Written} {c : Char} (opens : v.Opens c)
    (noList : ∀ vs, v ≠ .list vs) (noObject : ∀ ms, v ≠ .object ms) : c ≠ '[' ∧ c ≠ '{' := by
  cases v with
  | number _ =>
      obtain ⟨_, _, _, _, _, _, _, plain⟩ := opening_of_numeral opens
      exact plain
  | boolean b => cases b <;> cases opens <;> decide
  | null | string => cases opens; decide
  | list vs => exact absurd rfl (noList vs)
  | object ms => exact absurd rfl (noObject ms)

namespace Spells

/-- What is behind a part is shorter than the text. -/
theorem length_lt {part : Part} {text rest : List Char} (spelled : Spells part text rest) :
    rest.length < text.length := by
  induction spelled with
  | null | yes | no =>
      simp only [List.length_cons]
      omega
  | number stands => exact stands.length_lt
  | string letters => exact Nat.lt_succ_of_lt letters.length_lt
  | emptyList blanks | emptyObject blanks =>
      have shorter := blanks.length_le
      simp only [List.length_cons] at shorter ⊢
      omega
  | list _ ih | object _ ih =>
      simp only [List.length_cons] at ih ⊢
      omega
  | element before _ after ih =>
      exact Nat.lt_of_le_of_lt after.length_le (Nat.lt_of_lt_of_le ih before.length_le)
  | lastItem _ ih | lastMember _ ih => exact ih
  | item _ _ ih others | nextMember _ _ ih others =>
      simp only [List.length_cons] at ih
      omega
  | member before key colon _ ih =>
      have first := before.length_le
      have second := key.length_lt
      have third := colon.length_le
      simp only [List.length_cons] at first third
      omega

variable {text rest : List Char}

/-- A value opens with a character of its own kind. -/
theorem opens {v : Written} (spelled : Spells (.value v) text rest) :
    ∃ c more, text = c :: more ∧ v.Opens c := by
  cases spelled with
  | number stands => exact stands.opens
  | null | yes | no | string | emptyList | list | emptyObject | object => exact ⟨_, _, rfl, rfl⟩

/-- Before a value with blanks around it there is nothing but blanks. -/
theorem element_opens {v : Written} (spelled : Spells (.element v) text rest) :
    ∃ c more, skipBlanks text = c :: more ∧ v.Opens c ∧ ∃ stop,
      Spells (.value v) (c :: more) stop ∧ Blanks stop rest := by
  cases spelled with
  | element before value after =>
      obtain ⟨c, more, rfl, opens⟩ := value.opens
      rw [before.skipBlanks_eq, skipBlanks_cons more opens.visible.1]
      exact ⟨c, more, rfl, opens, _, value, after⟩

/-- Behind blanks, items begin with a character that is no blank and no closing bracket. -/
theorem items_open {vs : List Written} (spelled : Spells (.items vs) text rest) :
    ∃ c more, skipBlanks text = c :: more ∧ isBlank c = false ∧ c ≠ ']' := by
  cases spelled with
  | lastItem item | item item _ =>
      obtain ⟨c, more, begins, opens, _⟩ := item.element_opens
      exact ⟨c, more, begins, opens.visible.1, opens.visible.2.1⟩

/-- Behind blanks, members begin with a quote. -/
theorem members_open {ms : List (String × Written)} (spelled : Spells (.members ms) text rest) :
    ∃ more, skipBlanks text = '"' :: more := by
  cases spelled with
  | lastMember member | nextMember member _ =>
      cases member with
      | member before _ _ _ =>
          rw [before.skipBlanks_eq]
          exact ⟨_, skipBlanks_cons _ rfl⟩

end Spells

end LintReport.Json
