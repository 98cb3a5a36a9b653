/-!
# Bytes of texts

A text as its bytes in UTF-8, and bytes as the text they stand for if they stand for one.
-/

namespace LintReport

/-- The bytes of a text. -/
def utf8Bytes (text : String) : List UInt8 := text.toUTF8.data.toList

/-- The text that bytes stand for, if they are valid. -/
def ofUtf8Bytes? (bytes : List UInt8) : Option String := String.fromUTF8? ⟨bytes.toArray⟩

/-- The bytes of a text stand for it. -/
@[simp] theorem ofUtf8Bytes?_utf8Bytes (text : String) :
    ofUtf8Bytes? (utf8Bytes text) = some text := by
  unfold ofUtf8Bytes? utf8Bytes String.fromUTF8?
  rw [String.toUTF8_eq_toByteArray, Array.toArray_toList, dif_pos text.isValidUTF8]
  rfl

end LintReport
