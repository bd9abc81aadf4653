/-!
# Texts as bytes

The bytes of a text are those of UTF-8, and a text can be read back from its
bytes (`text?_bytes`).

Not all bytes are those of a text. A secret may hold any, and then `text?` has no
answer.
-/

namespace AppOperator.Utf8

/-- The bytes of a text. -/
def bytes (text : String) : List UInt8 := text.toUTF8.data.toList

/-- **The text of some bytes**, if they are those of one. -/
def text? (bytes : List UInt8) : Option String := String.fromUTF8? ⟨bytes.toArray⟩

/-- **Bytes of a text are read back as the text.** -/
@[simp] theorem text?_bytes (text : String) : text? (bytes text) = some text := by
  simp only [text?, bytes, String.fromUTF8?, String.fromUTF8]
  exact dif_pos text.isValidUTF8

end AppOperator.Utf8
