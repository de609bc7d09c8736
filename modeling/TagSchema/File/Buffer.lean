import TagSchema.Handle

/-!
# Writing tag files

A tag file grows at its end. The fixed part of a struct is written into a slot that was reserved for
it, and its variable data is appended.
-/

namespace TagSchema

/-- Writing to a buffer. -/
abbrev Writing := ExceptT TagError (StateM Bytes)

namespace Buffer

/-- Appends some bytes. -/
def append (bytes : Bytes) : Writing Unit := modify (· ++ bytes)

/-- Writes a value into the slot at a position. -/
def writeFixed (layout : Layout) (value : layout.Value) (position : Nat) : Writing Unit := do
  let out ← get
  if out.length < position + layout.size then
    throw (.outOfBounds (.noRoom layout.size position))
  set (out.overwrite position (layout.encode value))

/-- The handle of a dependency. A null class is replaced by the default, and the identifier is left
out. -/
def dependencyHandle (default : Option TagClass) (d : Dependency) :
    Except TagError DependencyHandle := do
  let pathSize ← countWord "dependency path" (Text.utf8 d.path).length
  return { tagClass := Dependency.restoreClass default d.tagClass, pathSize }

/-- The handle of an array. -/
def arrayHandle (length : Nat) : Except TagError ArrayHandle := do
  return { count := ← countWord "array" length }

/-- The handle of a blob. -/
def blobHandle (length : Nat) : Except TagError BlobHandle := do
  return { size := ← countWord "blob" length }

/-- Appends the path of a dependency and the byte that ends it. Nothing stands for an empty path. -/
def writeDependency (d : Dependency) : Writing Unit :=
  if d.isNull then pure () else append (Text.utf8 d.path ++ [0])

/-- Writes elements into slots of the given size. -/
def writeElements {α : Type} (site : Site) (size : Nat) (write : Nat → α → Writing Unit) :
    Nat → Nat → List α → Writing Unit
  | _, _, [] => pure ()
  | index, position, element :: rest => do
    ExceptT.adapt (.element .generate site index) (write position element)
    writeElements site size write (index + 1) (position + size) rest

/-- Appends an array: a slot for each element, which `write` fills and to which it appends. -/
def writeArray {α : Type} (site : Site) (size : Nat) (write : Nat → α → Writing Unit)
    (elements : List α) : Writing Unit := do
  let start := (← get).length
  append (Bytes.zeros (elements.length * size))
  writeElements site size write 0 start elements

end Buffer

end TagSchema
