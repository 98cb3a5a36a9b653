import Mathlib.Data.List.Forall2
import Mathlib.Data.List.Induction
import LintReport.Release.Version
import LintReport.Proofs.Steps
import LintReport.Proofs.Text.Pieces

/-!
# Which texts denote a version

A version is written as three numerals with dots between them. A numeral is a run of decimal digits,
with as many zeros in front as one likes, and denotes its value in base ten
(`Decimal.Numeral`). A piece between dots is flawed when it is no numeral or its value has more
than 64 bits (`Version.Flawed`). Every text either denotes a version or has a first defect: the
number of its pieces, else the first piece that is flawed (`Version.parse_decided`).
-/

namespace LintReport

namespace Decimal

/-- A run of decimal digits and the number that it denotes in base ten. -/
inductive Numeral : List Char → Nat → Prop
  | single {c : Char} (isDigit : c.isDigit = true) : Numeral [c] (digit c)
  | behind {run : List Char} {number : Nat} {c : Char} (front : Numeral run number)
      (isDigit : c.isDigit = true) : Numeral (run ++ [c]) (10 * number + digit c)

/-- One more digit multiplies the value of a run by ten and adds to it. -/
theorem value_append (run : List Char) (c : Char) :
    value (run ++ [c]) = 10 * value run + digit c := by
  unfold value digit
  rw [Nat.ofDigitChars_append, Nat.ofDigitChars_cons, Nat.ofDigitChars_nil]

/-- A run is a numeral of a number when it consists of digits, has at least one, and has that
value. -/
theorem numeral_iff {run : List Char} {number : Nat} :
    Numeral run number ↔ run ≠ [] ∧ run.all Char.isDigit ∧ value run = number := by
  constructor
  · intro numeral
    induction numeral with
    | @single c isDigit =>
        refine ⟨List.cons_ne_nil _ _, ?_, ?_⟩
        · simpa only [List.all_cons, List.all_nil, Bool.and_true] using isDigit
        · exact (value_append [] c).trans (Nat.zero_add _)
    | @behind run number c front isDigit ih =>
        obtain ⟨_, digits, denotes⟩ := ih
        refine ⟨List.append_ne_nil_of_right_ne_nil _ (List.cons_ne_nil _ _), ?_, ?_⟩
        · simp only [List.all_append, List.all_cons, List.all_nil, digits, isDigit, Bool.and_self]
        · rw [value_append, denotes]
  · rintro ⟨nonempty, digits, rfl⟩
    -- A numeral grows at its end, so the induction is from there.
    induction run using List.reverseRecOn with
    | nil => exact absurd rfl nonempty
    | append_singleton front c ih =>
        simp only [List.all_append, List.all_cons, List.all_nil, Bool.and_true,
          Bool.and_eq_true] at digits
        rw [value_append]
        by_cases alone : front = []
        · subst alone
          have only : 10 * value [] + digit c = digit c := Nat.zero_add _
          rw [only]
          exact .single digits.2
        · exact .behind (ih alone digits.1) digits.2

end Decimal

namespace Version

/-- A piece that is no component: it is empty, holds something else than a digit, or denotes a
number of more than 64 bits. -/
inductive Flawed : List Char → Prop
  | empty : Flawed []
  | stray {piece : List Char} {c : Char} (member : c ∈ piece) (other : c.isDigit = false) :
      Flawed piece
  | large {piece : List Char} {number : Nat} (numeral : Decimal.Numeral piece number)
      (exceeds : UInt64.size ≤ number) : Flawed piece

/-- A piece is read as a component exactly when it is a numeral of it. -/
theorem component_eq_ok {piece : List Char} {number : UInt64} :
    component piece = .ok number ↔ Decimal.Numeral piece number.toNat := by
  rw [Decimal.numeral_iff]
  unfold component component?
  constructor
  · intro reads
    split at reads
    · next found given =>
        split at given
        · next fits =>
            cases given
            cases reads
            exact ⟨fits.1, fits.2.1, (UInt64.toNat_ofNat_of_lt' fits.2.2).symm⟩
        · cases given
    · cases reads
  · rintro ⟨nonempty, digits, denotes⟩
    have small : Decimal.value piece < UInt64.size := denotes ▸ number.toNat_lt
    rw [if_pos ⟨nonempty, digits, small⟩, denotes, UInt64.ofNat_toNat]

/-- A piece is flawed when it is a numeral of no 64-bit number. -/
theorem flawed_iff {piece : List Char} :
    Flawed piece ↔ ∀ number < UInt64.size, ¬ Decimal.Numeral piece number := by
  constructor
  · intro flawed number small numeral
    obtain ⟨nonempty, digits, denotes⟩ := Decimal.numeral_iff.mp numeral
    cases flawed with
    | empty => exact nonempty rfl
    | stray member other =>
        rw [List.all_eq_true.mp digits _ member] at other
        cases other
    | large same exceeds =>
        obtain ⟨_, _, rfl⟩ := Decimal.numeral_iff.mp same
        omega
  · intro none
    by_cases nonempty : piece = []
    · exact nonempty ▸ .empty
    · by_cases digits : piece.all Char.isDigit
      · have numeral := Decimal.numeral_iff.mpr ⟨nonempty, digits, rfl⟩
        refine .large numeral ?_
        by_contra small
        exact none _ (by omega) numeral
      · simp only [List.all_eq_true, not_forall, Bool.not_eq_true] at digits
        obtain ⟨c, member, other⟩ := digits
        exact .stray member other

/-- A piece is read exactly when it is a numeral of some 64-bit number. -/
theorem component_succeeds_iff {piece : List Char} :
    (∃ number, component piece = .ok number) ↔
      ∃ number < UInt64.size, Decimal.Numeral piece number := by
  simp only [component_eq_ok]
  constructor
  · rintro ⟨number, numeral⟩
    exact ⟨_, number.toNat_lt, numeral⟩
  · rintro ⟨number, small, numeral⟩
    refine ⟨UInt64.ofNat number, ?_⟩
    rwa [UInt64.toNat_ofNat_of_lt' small]

/-- A piece without flaw is read. -/
theorem not_flawed_iff {piece : List Char} :
    ¬ Flawed piece ↔ ∃ number, component piece = .ok number := by
  rw [component_succeeds_iff, flawed_iff]
  simp only [not_forall, not_not, exists_prop]

/-- A piece is refused exactly when it is flawed, and the piece is named. -/
theorem component_eq_error {piece : List Char} {defect : VersionDefect} :
    component piece = .error defect ↔ Flawed piece ∧ defect = .invalidComponent piece := by
  cases read : component piece with
  | ok number =>
      have sound := not_flawed_iff.mpr ⟨number, read⟩
      simp only [reduceCtorEq, sound, false_and]
  | error found =>
      have flawed : Flawed piece := by
        by_contra sound
        obtain ⟨number, reads⟩ := not_flawed_iff.mp sound
        cases read.symm.trans reads
      have names : found = .invalidComponent piece := by
        unfold component at read
        split at read
        · cases read
        · cases read
          rfl
      rw [Except.error.injEq, names]
      exact ⟨fun same => ⟨flawed, same.symm⟩, fun same => same.2.symm⟩

/-- A text with another number of pieces is refused for it. -/
theorem ofChars_of_length_ne {chars : List Char} (other : (chars.splitOn '.').length ≠ 3) :
    ofChars chars = .error (.componentCount (chars.splitOn '.').length) := by
  unfold ofChars
  split
  · next three =>
      rw [three] at other
      exact absurd rfl other
  · rfl

section Three

variable {chars major minor patch : List Char} (three : chars.splitOn '.' = [major, minor, patch])
include three

/-- Three pieces are read from left to right. -/
theorem ofChars_of_three : ofChars chars = do
    let major ← component major
    let minor ← component minor
    let patch ← component patch
    return ⟨major, minor, patch⟩ := by
  unfold ofChars
  rw [three]

/-- Three pieces are read as a version when each is a numeral of its component. -/
theorem ofChars_eq_ok {version : Version} :
    ofChars chars = .ok version ↔ Decimal.Numeral major version.major.toNat ∧
      Decimal.Numeral minor version.minor.toNat ∧ Decimal.Numeral patch version.patch.toNat := by
  rw [ofChars_of_three three]
  simp only [Steps.bind_eq_ok, Steps.pure_eq_ok, component_eq_ok, Except.ok.injEq]
  constructor
  · rintro ⟨_, first, _, second, _, third, rfl⟩
    exact ⟨first, second, third⟩
  · rintro ⟨first, second, third⟩
    exact ⟨_, first, _, second, _, third, rfl⟩

/-- The first flawed piece is the defect. -/
theorem ofChars_eq_error {defect : VersionDefect} :
    ofChars chars = .error defect ↔ ∃ before piece after,
      [major, minor, patch] = before ++ piece :: after ∧
      (∀ earlier ∈ before, ¬ Flawed earlier) ∧ Flawed piece ∧
      defect = .invalidComponent piece := by
  rw [ofChars_of_three three]
  simp only [Steps.bind_eq_error, Steps.pure_eq_ok, component_eq_error, reduceCtorEq, and_false,
    exists_false, or_false]
  constructor
  · rintro (wrong | ⟨first, sound, wrong | ⟨second, right, wrong⟩⟩)
    · exact ⟨[], major, [minor, patch], rfl, List.forall_mem_nil _, wrong⟩
    · have fits := not_flawed_iff.mpr ⟨first, sound⟩
      exact ⟨[major], minor, [patch], rfl, List.forall_mem_singleton.mpr fits, wrong⟩
    · have fits := not_flawed_iff.mpr ⟨first, sound⟩
      have fitsToo := not_flawed_iff.mpr ⟨second, right⟩
      refine ⟨[major, minor], patch, [], rfl, ?_, wrong⟩
      exact List.forall_mem_cons.mpr ⟨fits, List.forall_mem_singleton.mpr fitsToo⟩
  · rintro ⟨before, piece, after, split, sound, wrong⟩
    simp only [not_flawed_iff] at sound
    rcases before with _ | ⟨one, _ | ⟨two, _ | ⟨more, rest⟩⟩⟩
    · cases split
      exact .inl wrong
    · cases split
      obtain ⟨first, reads⟩ := sound major (by simp)
      exact .inr ⟨first, reads, .inl wrong⟩
    · cases split
      obtain ⟨first, reads⟩ := sound major (by simp)
      obtain ⟨second, readsToo⟩ := sound minor (by simp)
      exact .inr ⟨first, reads, .inr ⟨second, readsToo, wrong⟩⟩
    · have long := congrArg List.length split
      simp only [List.length_cons, List.length_nil, List.length_append] at long
      omega

end Three

/-- A text denotes a version when its characters do. -/
theorem parse_eq_ok {text : String} {version : Version} :
    parse text = .ok version ↔ ofChars text.toList = .ok version := by
  unfold parse
  cases ofChars text.toList with
  | ok found => simp only [Except.ok.injEq]
  | error defect => simp only [reduceCtorEq]

/-- A text is refused with the defect of its characters, and the text is named. -/
theorem parse_eq_error {text : String} {error : VersionError} :
    parse text = .error error ↔
      ∃ defect, ofChars text.toList = .error defect ∧ error = ⟨text, defect⟩ := by
  unfold parse
  cases ofChars text.toList with
  | ok found => simp only [reduceCtorEq, false_and, exists_false]
  | error defect => simp only [Except.error.injEq, exists_eq_left', eq_comm]

/-- **Which texts denote a version, and what is wrong with the others.** A version is written with
two dots, between which stand three numerals of at most 64 bits, and it consists of their values.
A text with another number of dots is refused for the number of its pieces, whatever they are;
one with two dots is refused for its first piece that is no such numeral. -/
theorem parse_decided (text : String) :
    let dots := text.toList.count '.'
    let pieces := text.toList.splitOn '.'
    ((∃ version, parse text = .ok version) ↔
      dots = 2 ∧ ∀ piece ∈ pieces, ∃ number < UInt64.size, Decimal.Numeral piece number) ∧
    (∀ version, parse text = .ok version ↔
      List.Forall₂ Decimal.Numeral pieces
        [version.major.toNat, version.minor.toNat, version.patch.toNat]) ∧
    ∀ error, parse text = .error error ↔
      (dots ≠ 2 ∧ error = ⟨text, .componentCount (dots + 1)⟩) ∨
      (dots = 2 ∧ ∃ before piece after, pieces = before ++ piece :: after ∧
        (∀ earlier ∈ before, ¬ Flawed earlier) ∧ Flawed piece ∧
        error = ⟨text, .invalidComponent piece⟩) := by
  intro dots pieces
  have size : pieces.length = dots + 1 := Text.length_splitOn '.' text.toList
  by_cases two : dots = 2
  · obtain ⟨major, minor, patch, three⟩ : ∃ major minor patch, pieces = [major, minor, patch] := by
      apply List.length_eq_three.mp
      rw [size, two]
    refine ⟨?_, fun version => ?_, fun error => ?_⟩
    · simp only [parse_eq_ok, ofChars_eq_ok three, three, two, true_and, List.mem_cons,
        List.not_mem_nil, or_false, forall_eq_or_imp, forall_eq]
      constructor
      · rintro ⟨version, first, second, third⟩
        exact ⟨⟨_, version.major.toNat_lt, first⟩, ⟨_, version.minor.toNat_lt, second⟩,
          ⟨_, version.patch.toNat_lt, third⟩⟩
      · simp only [← component_succeeds_iff, component_eq_ok]
        rintro ⟨⟨first, reads⟩, ⟨second, readsToo⟩, ⟨third, readsAll⟩⟩
        exact ⟨⟨first, second, third⟩, reads, readsToo, readsAll⟩
    · simp only [parse_eq_ok, ofChars_eq_ok three, three, List.forall₂_cons,
        List.Forall₂.nil, and_true]
    · simp only [parse_eq_error, ofChars_eq_error three, three, two, ne_eq, not_true, false_and,
        false_or, true_and]
      constructor
      · rintro ⟨_, ⟨before, piece, after, here, sound, flawed, rfl⟩, rfl⟩
        exact ⟨before, piece, after, here, sound, flawed, rfl⟩
      · rintro ⟨before, piece, after, here, sound, flawed, rfl⟩
        exact ⟨_, ⟨before, piece, after, here, sound, flawed, rfl⟩, rfl⟩
  · have other : pieces.length ≠ 3 := by omega
    have refused := ofChars_of_length_ne other
    rw [size] at refused
    refine ⟨?_, fun version => ?_, fun error => ?_⟩
    · simp only [parse_eq_ok, refused, reduceCtorEq, exists_false, two, false_and]
    · simp only [parse_eq_ok, refused, reduceCtorEq, false_iff]
      intro paired
      exact other paired.length_eq
    · simp only [parse_eq_error, refused, two, ne_eq, not_false_eq_true, true_and, false_and,
        or_false, Except.error.injEq, exists_eq_left']

-- Zeros in front do not count, and `2^64` is too large for a component.
example : parse "0000000000000000000000018446744073709551615.0.00" =
    .ok ⟨18446744073709551615, 0, 0⟩ := by
  decide +kernel

example : parse "1.18446744073709551616.x" =
    .error ⟨"1.18446744073709551616.x", .invalidComponent "18446744073709551616".toList⟩ := by
  decide +kernel

end Version

end LintReport
