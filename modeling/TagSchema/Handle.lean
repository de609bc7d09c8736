import TagSchema.Layout
import TagSchema.Tag.Dependency

/-!
# Handles

Dependencies, arrays and blobs are stored in a struct as handles of fixed size. What a handle stands
for lies elsewhere: after the struct in a tag file, behind a pointer or an offset in a bundle.
-/

namespace TagSchema

/-- The stored form of a dependency. -/
structure DependencyHandle where
  tagClass : TagClass
  pathPointer : UInt32 := 0
  pathSize : UInt32 := 0
  id : TagId := .null

/-- The stored form of an array. -/
structure ArrayHandle where
  count : UInt32
  pointer : UInt32 := 0
  unused : UInt32 := 0

/-- The stored form of a blob. -/
structure BlobHandle where
  size : UInt32
  external : UInt32 := 0
  fileOffset : UInt32 := 0
  pointer : UInt32 := 0
  unused : UInt32 := 0

namespace DependencyHandle

/-- The words of the handle. -/
def store (order : ByteOrder) (handle : DependencyHandle) : (Layout.dependency order).Value :=
  (#v[handle.tagClass.code.toBitVec, handle.pathPointer.toBitVec, handle.pathSize.toBitVec,
    handle.id.code.toBitVec] : Vector (BitVec 32) 4)

/-- The handle with the given words. -/
def load (order : ByteOrder) (words : (Layout.dependency order).Value) : DependencyHandle :=
  let words : Vector (BitVec 32) 4 := words
  { tagClass := ⟨⟨words[0]⟩⟩, pathPointer := ⟨words[1]⟩, pathSize := ⟨words[2]⟩
    id := ⟨⟨words[3]⟩⟩ }

end DependencyHandle

namespace ArrayHandle

/-- The words of the handle. -/
def store (order : ByteOrder) (handle : ArrayHandle) : (Layout.reflexive order).Value :=
  (#v[handle.count.toBitVec, handle.pointer.toBitVec, handle.unused.toBitVec] :
    Vector (BitVec 32) 3)

/-- The handle with the given words. -/
def load (order : ByteOrder) (words : (Layout.reflexive order).Value) : ArrayHandle :=
  let words : Vector (BitVec 32) 3 := words
  { count := ⟨words[0]⟩, pointer := ⟨words[1]⟩, unused := ⟨words[2]⟩ }

end ArrayHandle

namespace BlobHandle

/-- The words of the handle. -/
def store (order : ByteOrder) (handle : BlobHandle) : (Layout.blob order).Value :=
  (#v[handle.size.toBitVec, handle.external.toBitVec, handle.fileOffset.toBitVec,
    handle.pointer.toBitVec, handle.unused.toBitVec] : Vector (BitVec 32) 5)

/-- The handle with the given words. -/
def load (order : ByteOrder) (words : (Layout.blob order).Value) : BlobHandle :=
  let words : Vector (BitVec 32) 5 := words
  { size := ⟨words[0]⟩, external := ⟨words[1]⟩, fileOffset := ⟨words[2]⟩, pointer := ⟨words[3]⟩
    unused := ⟨words[4]⟩ }

end BlobHandle

/-- A length as a word, if it fits. -/
def countWord (what : String) (length : Nat) : Except TagError UInt32 :=
  if length < UInt32.size then .ok (UInt32.ofNat length)
  else .error (.outOfBounds (.tooManyElements what length))

end TagSchema
