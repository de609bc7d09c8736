import TagSchema.Text.Utf8

/-!
# Fixed text

A text stored in thirty-two bytes and ended by the first zero byte.
-/

namespace TagSchema

/-- Thirty-two bytes that hold a text. -/
structure FixedText where
  bytes : Bytes
  length_bytes : bytes.length = 32

instance : DecidableEq FixedText := fun a b =>
  decidable_of_iff (a.bytes = b.bytes)
    ⟨fun h => by cases a; cases b; cases h; rfl, fun h => h ▸ rfl⟩

namespace FixedText

/-- The first thirty-two bytes, filled up with zeros. -/
def ofBytes (bytes : Bytes) : FixedText where
  bytes := bytes.take 32 ++ Bytes.zeros (32 - bytes.length)
  length_bytes := by simp; omega

/-- As much of the text as fits before a last zero byte. -/
def ofText (text : String) : FixedText := ofBytes ((Text.utf8 text).take 31)

/-- The bytes before the first zero. -/
def content (text : FixedText) : Bytes := text.bytes.takeWhile (· ≠ 0)

/-- The text before the first zero, with a replacement character for every ill-formed piece. -/
def toText (text : FixedText) : String := Text.decodeUtf8Lossy text.content

/-- No text. -/
def empty : FixedText := ofBytes []

instance : Inhabited FixedText := ⟨empty⟩

@[simp] theorem bytes_ofBytes_bytes (text : FixedText) : ofBytes text.bytes = text := by
  have h := text.length_bytes
  cases text with
  | mk bytes _ =>
    simp only [ofBytes, FixedText.mk.injEq] at h ⊢
    rw [List.take_of_length_le (by omega)]
    simp [Bytes.zeros, h]

end FixedText

end TagSchema
