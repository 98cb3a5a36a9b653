import Mathlib.Data.List.Forall2
import LintReport.Finding.Severity

/-!
# What shows a severity

A marker shows a severity when it is one of its words, with capitals of ASCII in the place of any
of the letters (`Severity.ofMarker?_eq_some`). A code shows the severity whose initial it begins
with (`Severity.ofCode?_eq_some`); there only a capital counts.
-/

namespace LintReport.Severity

/-- A character writes a letter of a word: it is that letter, or the capital of it. -/
def Writes (c letter : Char) : Prop := c = letter ∨ letter.isLower ∧ c.toNat + 32 = letter.toNat

/-- The words that mark a severity. -/
def markers : Severity → List String
  | info => ["i", "info"]
  | warning => ["w", "warning"]
  | error => ["e", "error"]

/-- A text is a word that marks a severity, in any case of its letters. -/
def Marks (severity : Severity) (text : String) : Prop :=
  ∃ word ∈ severity.markers, List.Forall₂ Writes text.toList word.toList

/-- The letter with which the codes of a severity begin. -/
def initial : Severity → Char
  | info => 'I'
  | warning => 'W'
  | error => 'E'

/-- A character is put in lower case to a letter exactly when it writes that letter. -/
theorem toLower_eq_iff {c letter : Char} (small : letter.isUpper = false) :
    c.toLower = letter ↔ Writes c letter := by
  have upper (c : Char) : c.isUpper = true ↔ 65 ≤ c.toNat ∧ c.toNat ≤ 90 := by
    have range : c.isUpper = decide (c.val ≥ 'A'.val ∧ c.val ≤ 'Z'.val) := rfl
    rw [range, decide_eq_true_eq]
    exact Iff.rfl
  have lower (c : Char) : c.isLower = true ↔ 97 ≤ c.toNat ∧ c.toNat ≤ 122 := by
    have range : c.isLower = (decide (c.val ≥ 'a'.val) && decide (c.val ≤ 'z'.val)) := rfl
    rw [range, Bool.and_eq_true, decide_eq_true_eq, decide_eq_true_eq]
    exact Iff.rfl
  have noCapital : ¬ (65 ≤ letter.toNat ∧ letter.toNat ≤ 90) := by
    rw [← upper, small]
    exact Bool.false_ne_true
  unfold Writes
  rw [lower, ← Char.toNat_inj, ← Char.toNat_inj]
  by_cases capital : c.isUpper
  · have lowered : c.toLower.toNat = c.toNat + 32 := by
      have inside := of_decide_eq_true capital
      have range := (upper c).mp capital
      unfold Char.toLower
      rw [dif_pos inside, ← Char.toNat_val, ← Char.toNat_val, UInt32.toNat_add]
      rw [← Char.toNat_val] at range
      exact Nat.mod_eq_of_lt (by change c.val.toNat + 32 < _; omega)
    rw [upper] at capital
    omega
  · have same : c.toLower = c := by
      unfold Char.toLower
      exact dif_neg fun inside => capital (decide_eq_true inside)
    rw [same]
    rw [upper] at capital
    omega

/-- Lowering the letters of a text gives a word exactly when the text is that word in any case. -/
theorem map_toLower_eq_iff {word : List Char} (small : ∀ letter ∈ word, letter.isUpper = false) :
    ∀ {chars : List Char}, chars.map Char.toLower = word ↔ List.Forall₂ Writes chars word := by
  induction word with
  | nil =>
      intro chars
      rw [List.map_eq_nil_iff, List.forall₂_nil_right_iff]
  | cons letter word ih =>
      intro chars
      obtain ⟨here, later⟩ := List.forall_mem_cons.mp small
      cases chars with
      | nil => exact ⟨nofun, nofun⟩
      | cons c chars =>
          rw [List.map_cons, List.cons.injEq, List.forall₂_cons, toLower_eq_iff here, ih later]

/-- **What a marker shows.** -/
theorem ofMarker?_eq_some {text : String} {severity : Severity} :
    ofMarker? text = some severity ↔ severity.Marks text := by
  have small : ∀ word ∈ severity.markers, ∀ letter ∈ word.toList, letter.isUpper = false := by
    have lower : severity.markers.all (·.toList.all (!·.isUpper)) = true := by
      cases severity <;> decide
    intro word member letter within
    have plain := List.all_eq_true.mp (List.all_eq_true.mp lower word member) letter within
    exact Bool.not_eq_true' _ |>.mp plain
  have named : severity.Marks text ↔
      String.ofList (text.toList.map Char.toLower) ∈ severity.markers := by
    unfold Marks
    constructor
    · rintro ⟨word, member, writes⟩
      rw [← map_toLower_eq_iff (small word member)] at writes
      rwa [writes, String.ofList_toList]
    · intro member
      refine ⟨_, member, (map_toLower_eq_iff (small _ member)).mp ?_⟩
      rw [String.toList_ofList]
  rw [named]
  unfold ofMarker?
  split
  case h_7 noE noError noW noWarning noI noInfo =>
    refine iff_of_false nofun ?_
    cases severity <;>
      simp only [markers, List.mem_cons, List.not_mem_nil, or_false, not_or] <;>
      constructor <;> assumption
  all_goals next lowered => rw [lowered]; cases severity <;> decide

/-- **What a code shows.** -/
theorem ofCode?_eq_some {code : String} {severity : Severity} :
    ofCode? code = some severity ↔ code.toList.head? = some severity.initial := by
  unfold ofCode?
  split
  case h_4 noError noWarning noInfo =>
    refine iff_of_false nofun ?_
    cases chars : code.toList with
    | nil => nofun
    | cons c rest =>
        rw [List.head?_cons, Option.some.injEq]
        rintro rfl
        cases severity
        · exact noInfo rest chars
        · exact noWarning rest chars
        · exact noError rest chars
  all_goals next opens => rw [opens, List.head?_cons]; cases severity <;> decide

/-- The word for a severity marks it. -/
theorem ofMarker?_word (severity : Severity) : ofMarker? severity.word = some severity := by
  cases severity <;> decide

end LintReport.Severity
