import LintReport.Text.Utf8

/-!
# Bytes of texts, character by character

The bytes of a text are those of its characters one after the other, so they can be told apart and
divided as the text can. A character that is no control character has no byte of one, so a line
feed among the bytes is a line feed of the text (`le_of_mem_utf8Bytes`).
-/

namespace LintReport

/-- The bytes of a text are those of its characters, one after the other. -/
theorem utf8Bytes_ofList (chars : List Char) :
    utf8Bytes (String.ofList chars) = chars.flatMap String.utf8EncodeChar := by
  unfold utf8Bytes
  rw [String.toUTF8_eq_toByteArray, String.toByteArray_ofList]
  exact List.toList_data_toByteArray

@[simp] theorem utf8Bytes_append (first second : String) :
    utf8Bytes (first ++ second) = utf8Bytes first ++ utf8Bytes second := by
  rw [← String.ofList_toList (s := first), ← String.ofList_toList (s := second),
    ← String.ofList_append]
  simp only [utf8Bytes_ofList, List.flatMap_append]

/-- Texts with the same bytes are the same. -/
theorem utf8Bytes_inj {first second : String} :
    utf8Bytes first = utf8Bytes second ↔ first = second := by
  constructor
  · intro same
    have texts := congrArg ofUtf8Bytes? same
    rw [ofUtf8Bytes?_utf8Bytes, ofUtf8Bytes?_utf8Bytes] at texts
    exact Option.some.inj texts
  · rintro rfl
    rfl

/-- Only the empty text has no bytes. -/
theorem utf8Bytes_eq_nil {text : String} : utf8Bytes text = [] ↔ text = "" := by
  have empty : utf8Bytes "" = [] := utf8Bytes_ofList []
  rw [← empty, utf8Bytes_inj]

/-- No byte of a visible character is that of a control character. -/
theorem le_of_mem_utf8EncodeChar {c : Char} (visible : 0x20 ≤ c.toNat) :
    ∀ byte ∈ String.utf8EncodeChar c, 0x20 ≤ byte := by
  -- A character stands for itself or is divided into bytes that all have their highest bit set.
  have large (low number : Nat) (fits : low + number < 256) (high : 0x20 ≤ number) :
      (0x20 : UInt8) ≤ UInt8.ofNat (low + number) := by
    rw [UInt8.le_iff_toNat_le, UInt8.toNat_ofNat', Nat.mod_eq_of_lt fits]
    exact Nat.le_trans high (Nat.le_add_left number low)
  fun_cases String.utf8EncodeChar c with
  | case1 v one =>
      rw [List.forall_mem_singleton, UInt8.le_iff_toNat_le, UInt8.toNat_ofNat',
        Nat.mod_eq_of_lt (by omega)]
      exact visible
  | case2 v _ two =>
      simp only [List.forall_mem_cons, List.not_mem_nil, false_imp_iff, implies_true, and_true]
      exact ⟨large _ _ (by omega) (by decide), large _ _ (by omega) (by decide)⟩
  | case3 v _ _ three =>
      simp only [List.forall_mem_cons, List.not_mem_nil, false_imp_iff, implies_true, and_true]
      exact ⟨large _ _ (by omega) (by decide), large _ _ (by omega) (by decide),
        large _ _ (by omega) (by decide)⟩
  | case4 v _ _ four =>
      simp only [List.forall_mem_cons, List.not_mem_nil, false_imp_iff, implies_true, and_true]
      exact ⟨large _ _ (by omega) (by decide), large _ _ (by omega) (by decide),
        large _ _ (by omega) (by decide), large _ _ (by omega) (by decide)⟩

/-- Characters that are no control characters have no bytes that are. -/
theorem le_of_mem_utf8Bytes {text : String} (visible : ∀ c ∈ text.toList, 0x20 ≤ c.toNat)
    {byte : UInt8} (member : byte ∈ utf8Bytes text) : 0x20 ≤ byte := by
  rw [← String.ofList_toList (s := text), utf8Bytes_ofList] at member
  obtain ⟨c, present, inside⟩ := List.mem_flatMap.mp member
  exact le_of_mem_utf8EncodeChar (visible c present) byte inside

end LintReport
