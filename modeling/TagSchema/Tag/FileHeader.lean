import TagSchema.Layout
import TagSchema.Tag.Checksum

/-!
# The header of tag files

A tag file is a header of sixty-four bytes and a body. The header names the class of the tag and
carries the checksum of the body.
-/

namespace TagSchema.FileHeader

/-- The layout of a header: an unused identifier and name, the class, the checksum, the size of the
header, padding, the version, a constant, and the mark of tag files. -/
def layout : Layout :=
  .seq (.word .big .u32) <| .seq .text <| .seq (.word .big .u32) <| .seq (.word .big .u32) <|
  .seq (.word .big .u32) <| .seq (.padding 8) <| .seq (.word .big .u16) <|
  .seq (.word .big .u16) (.word .big .u32)

/-- The length of a header. -/
def size : Nat := layout.size

/-- The mark at the end of a header. -/
def mark : UInt32 := 0x626C616D

/-- The header of a file of the given class whose body has the given checksum. -/
def value (tagClass : TagClass) (checksum : UInt32) : layout.Value :=
  ((0 : BitVec 32), FixedText.empty, tagClass.code.toBitVec, checksum.toBitVec,
    BitVec.ofNat 32 size,
    (), (tagClass.version?.getD 1).toBitVec, (255 : BitVec 16), mark.toBitVec)

/-- A file of the given class with the given body. -/
def wrap (tagClass : TagClass) (body : Bytes) : Bytes :=
  layout.encode (value tagClass (Checksum.crc32 body)) ++ body

/-- The body of a file, once its header is found to be right. -/
def validate (file : Bytes) (expected : Option TagClass) : Except TagError Bytes := do
  if file.length < size then throw (.outOfBounds (.fileHeader file.length))
  let (_, _, code, checksum, headerSize, _, _, _, found) := layout.decode file
  let tagClass : TagClass := ⟨UInt32.ofBitVec code⟩
  let checksum := UInt32.ofBitVec checksum
  if UInt32.ofBitVec found ≠ mark then throw (.invalidData .noMark)
  if headerSize.toNat ≠ size then throw (.invalidData (.headerSize headerSize.toNat size))
  if let some expected := expected then
    if tagClass ≠ expected then throw (.invalidData (.wrongClass tagClass expected))
  let body := file.drop size
  let actual := Checksum.crc32 body
  if checksum ≠ actual then throw (.invalidData (.checksum checksum actual))
  return body

end TagSchema.FileHeader
