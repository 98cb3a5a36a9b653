import LintReport.Proofs.Json.Numeral
import LintReport.Proofs.Release.Grammar

/-!
# Writing versions that were read

A numeral may have zeros in front that do not count. Without them it is the one way in which its
number is written (`Decimal.digits_of_numeral`). So a version that was read is written as its text
without such zeros, and a text without them is written again as it was
(`Version.render_of_parse`).
-/

namespace LintReport

namespace Decimal

/-- A run with a superfluous zero: it begins with a zero that does not stand alone. -/
def Padded (run : List Char) : Prop := ∃ c rest, run = '0' :: c :: rest

/-- The run without its superfluous zeros; a lone zero stays. -/
def unpadded : List Char → List Char
  | '0' :: c :: rest => unpadded (c :: rest)
  | run => run

theorem value_zero (run : List Char) : value ('0' :: run) = value run := rfl

/-- A zero in front of another digit is dropped. -/
theorem unpadded_zero (c : Char) (rest : List Char) :
    unpadded ('0' :: c :: rest) = unpadded (c :: rest) := by
  rw [unpadded]

/-- A run without superfluous zeros is kept. -/
theorem unpadded_of_not_padded {run : List Char} (plain : ¬ Padded run) : unpadded run = run := by
  unfold unpadded
  split
  · next c rest => exact absurd ⟨c, rest, rfl⟩ plain
  · rfl

/-- What holds of the runs without superfluous zeros, and is not lost by one more zero, holds of
every run. -/
theorem padding_induction {motive : List Char → Prop}
    (plain : ∀ run, ¬ Padded run → motive run)
    (zero : ∀ c rest, motive (c :: rest) → motive ('0' :: c :: rest)) (run : List Char) :
    motive run := by
  induction run with
  | nil => exact plain [] fun ⟨_, _, impossible⟩ => by cases impossible
  | cons first rest ih =>
      by_cases padded : Padded (first :: rest)
      · obtain ⟨c, more, same⟩ := padded
        cases same
        exact zero c more ih
      · exact plain _ padded

/-- No superfluous zeros are left. -/
theorem not_padded_unpadded (run : List Char) : ¬ Padded (unpadded run) := by
  induction run using padding_induction with
  | plain run plain => rwa [unpadded_of_not_padded plain]
  | zero c rest ih => rwa [unpadded_zero]

/-- Superfluous zeros do not change the number. -/
theorem Numeral.unpadded {run : List Char} {number : Nat} (numeral : Numeral run number) :
    Numeral (unpadded run) number := by
  induction run using padding_induction with
  | plain run plain => rwa [unpadded_of_not_padded plain]
  | zero c rest ih =>
      rw [unpadded_zero]
      apply ih
      obtain ⟨_, digits, denotes⟩ := numeral_iff.mp numeral
      rw [List.all_cons, Bool.and_eq_true] at digits
      exact numeral_iff.mpr ⟨List.cons_ne_nil _ _, digits.2, (value_zero _).symm.trans denotes⟩

theorem digits_digit {c : Char} (isDigit : c.isDigit = true) :
    digit c < 10 ∧ digits (digit c) = [c] := by
  have range : 48 ≤ c.toNat ∧ c.toNat ≤ 57 := Char.isDigit_iff_toNat.mp isDigit
  have zero : '0'.toNat = 48 := rfl
  have small : digit c < 10 := by
    unfold digit
    omega
  refine ⟨small, ?_⟩
  unfold digits
  rw [Nat.toDigits_of_lt_base small, List.cons.injEq]
  refine ⟨Char.toNat_inj.mp ?_, rfl⟩
  rw [Nat.toNat_digitChar_of_lt_ten small]
  unfold digit
  omega

/-- **A numeral without superfluous zeros is how its number is written.** -/
theorem digits_of_numeral {run : List Char} {number : Nat} (numeral : Numeral run number)
    (plain : ¬ Padded run) : digits number = run := by
  induction numeral with
  | single isDigit => exact (digits_digit isDigit).2
  | @behind run number c front isDigit ih =>
      obtain ⟨small, last⟩ := digits_digit isDigit
      have written : digits number = run := by
        apply ih
        rintro ⟨d, rest, rfl⟩
        exact plain ⟨d, rest ++ [c], rfl⟩
      -- A zero in front of the last digit would be superfluous.
      have positive : 0 < number := by
        apply Nat.pos_of_ne_zero
        rintro rfl
        exact plain ⟨c, [], by rw [← written]; rfl⟩
      have joined := Nat.toDigits_append_toDigits (b := 10) (by decide) positive small
      rw [← written, ← last]
      exact joined.symm

/-- The digits of the number that a run denotes are the run without superfluous zeros. -/
theorem digits_eq_unpadded {run : List Char} {number : Nat} (numeral : Numeral run number) :
    digits number = unpadded run :=
  digits_of_numeral numeral.unpadded (not_padded_unpadded run)

/-- The digits of a number denote it. -/
theorem numeral_digits (number : Nat) : Numeral (digits number) number := by
  refine numeral_iff.mpr ⟨digits_ne_nil number, ?_, value_digits number⟩
  exact List.all_eq_true.mpr fun c member => isDigit_of_mem_digits member

end Decimal

namespace Version

/-- The pieces of a written version are the digits of its components. -/
theorem splitOn_text (version : Version) : version.text.splitOn '.' =
    [Decimal.digits version.major.toNat, Decimal.digits version.minor.toNat,
      Decimal.digits version.patch.toNat] := by
  have noDot := Decimal.not_mem_digits (c := '.') rfl
  have joined : version.text = ['.'].intercalate [Decimal.digits version.major.toNat,
      Decimal.digits version.minor.toNat, Decimal.digits version.patch.toNat] := by
    simp [text, List.intercalate_cons_cons]
  rw [joined]
  apply List.splitOn_intercalate
  · simp [noDot]
  · simp

/-- A text denotes a version when its three pieces denote the components. -/
theorem parse_eq_ok_iff_pieces {text : String} {version : Version} :
    parse text = .ok version ↔ ∃ major minor patch,
      text.toList.splitOn '.' = [major, minor, patch] ∧
      Decimal.Numeral major version.major.toNat ∧
      Decimal.Numeral minor version.minor.toNat ∧ Decimal.Numeral patch version.patch.toNat := by
  rw [parse_eq_ok]
  by_cases three : (text.toList.splitOn '.').length = 3
  · obtain ⟨major, minor, patch, stands⟩ := List.length_eq_three.mp three
    rw [ofChars_eq_ok stands, stands]
    constructor
    · intro numerals
      exact ⟨major, minor, patch, rfl, numerals⟩
    · rintro ⟨_, _, _, same, numerals⟩
      cases same
      exact numerals
  · rw [ofChars_of_length_ne three]
    constructor
    · intro impossible
      cases impossible
    · rintro ⟨major, minor, patch, stands, _⟩
      rw [stands] at three
      exact absurd rfl three

/-- A written version is read as that version. -/
theorem parse_render (version : Version) : parse version.render = .ok version := by
  apply parse_eq_ok_iff_pieces.mpr
  refine ⟨_, _, _, ?_, Decimal.numeral_digits _, Decimal.numeral_digits _,
    Decimal.numeral_digits _⟩
  rw [render, String.toList_ofList, splitOn_text]

/-- Reading and writing a version drops the superfluous zeros of each piece. -/
theorem splitOn_text_of_parse {text : String} {version : Version}
    (reads : parse text = .ok version) :
    version.text.splitOn '.' = (text.toList.splitOn '.').map Decimal.unpadded := by
  obtain ⟨major, minor, patch, split, first, second, third⟩ := parse_eq_ok_iff_pieces.mp reads
  rw [splitOn_text, split, Decimal.digits_eq_unpadded first, Decimal.digits_eq_unpadded second,
    Decimal.digits_eq_unpadded third]
  rfl

/-- **Reading and writing versions.** A written version is read as itself. A version that was read
is written as its text with the superfluous zeros left out of each piece, so that the text comes
back exactly when no piece has such zeros, and reading and writing once more changes nothing. -/
theorem render_of_parse :
    (∀ version, parse version.render = .ok version) ∧
    ∀ text version, parse text = .ok version →
      version.render = String.ofList
        (['.'].intercalate ((text.toList.splitOn '.').map Decimal.unpadded)) ∧
      (version.render = text ↔ ∀ piece ∈ text.toList.splitOn '.', ¬ Decimal.Padded piece) ∧
      (parse version.render).map render = .ok version.render := by
  refine ⟨parse_render, fun text version reads => ⟨?_, ?_, ?_⟩⟩
  · rw [← splitOn_text_of_parse reads, List.intercalate_splitOn]
    rfl
  · constructor
    · rintro same piece member
      have pieces := splitOn_text_of_parse reads
      rw [← String.toList_inj, render, String.toList_ofList] at same
      rw [same] at pieces
      rw [pieces] at member
      obtain ⟨padded, _, rfl⟩ := List.mem_map.mp member
      exact Decimal.not_padded_unpadded padded
    · intro plain
      have pieces : (text.toList.splitOn '.').map Decimal.unpadded = text.toList.splitOn '.' :=
        (List.map_congr_left fun piece member =>
          Decimal.unpadded_of_not_padded (plain piece member)).trans (List.map_id' _)
      have same : version.text = text.toList := by
        have whole : ['.'].intercalate (version.text.splitOn '.') = version.text :=
          List.intercalate_splitOn _
        rw [← whole, splitOn_text_of_parse reads, pieces, List.intercalate_splitOn]
      rw [render, same, String.ofList_toList]
  · rw [parse_render]
    rfl

/-- Of the zeros in `007.0.010`, the lone one and the last one count. -/
theorem render_of_parse_padded :
    parse "007.0.010" = .ok ⟨7, 0, 10⟩ ∧ render ⟨7, 0, 10⟩ = "7.0.10" ∧
      render ⟨7, 0, 10⟩ ≠ "007.0.010" ∧
      (parse (render ⟨7, 0, 10⟩)).map render = .ok (render ⟨7, 0, 10⟩) := by
  have reads : parse "007.0.010" = .ok ⟨7, 0, 10⟩ := by decide +kernel
  obtain ⟨written, whole, again⟩ := render_of_parse.2 _ _ reads
  refine ⟨reads, written.trans (by decide +kernel), fun same => ?_, again⟩
  exact whole.mp same ['0', '0', '7'] (by decide) ⟨'0', ['7'], rfl⟩

end Version

end LintReport
