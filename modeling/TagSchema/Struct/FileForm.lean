import TagSchema.File.Buffer
import TagSchema.File.Cursor
import TagSchema.Struct.Type
import TagSchema.Tag.FileHeader

/-!
# Structs in tag files

The fixed part of a struct comes first, and the variable data of its members follows in their order:
paths, the elements of arrays, blobs. Fields that only bundles have are written as zero and without
variable data; they are read like all others, but the elements of such an array are dropped.
-/

namespace TagSchema

/-- The classes that a dependency may have. -/
def allowedClasses (names : List String) : List TagClass :=
  names.map fun name => ((ClassTable.byName? name).map (⟨·.code⟩)).getD .null

/-- The class that stands in for a null class. -/
def defaultClass (names : List String) : Option TagClass := (allowedClasses names).head?

/-! ### Reading -/

namespace LeafType

/-- The value with defaults in the place of what is not set. -/
def withDefault : (type : LeafType) → type.Value → type.Value
  | .plain (.number shape rule), value =>
    shape.withDefault rule.defaultSign (rule.default.map (·.toFloat)) value
  | .plain (.enum _ _), value | .plain (.bitfield _), value | .plain (.index _), value
  | .plain .tagId, value | .plain .tagString, value | .plain .fourCC, value
  | .plain (.padding _), value | .dependency _ _, value | .blob _, value => value

/-- The value of a member, whose variable data comes next. -/
def readFile (order : ByteOrder) (site : Site) : (type : LeafType) → (type.layout order).Value →
    Reading type.Value
  | .plain type, stored => return type.load .file order stored
  | .dependency classes _, stored =>
    let handle := DependencyHandle.load order stored
    Cursor.readDependency site (defaultClass classes) handle.tagClass handle.pathSize.toNat
  | .blob _, stored => Cursor.readBlob site (BlobHandle.load order stored).size.toNat

end LeafType

namespace Members

/-- The value of the members of a struct, whose variable data comes next. -/
def readFile (postprocess : Bool) (owner : String) : (members : Members) →
    (members.layout .file).Value → Reading members.Value
  | .nil, _ => return ()
  | .leaf traits type rest, stored => do
    let value ← type.readFile (traits.orderIn .file) (traits.site owner) stored.1
    let value := if postprocess then type.withDefault value else value
    let others ← rest.readFile postprocess owner stored.2
    return (value, others)
  | .array traits _ name _ element rest, stored => do
    let handle := ArrayHandle.load (traits.orderIn .file) stored.1
    let layout := element.layout .file
    let elements ← Cursor.readArray (traits.site owner) handle.count.toNat layout.size fun fixed =>
      element.readFile postprocess name (layout.decode fixed)
    let others ← rest.readFile postprocess owner stored.2
    return (if traits.cacheOnly then [] else elements, others)

end Members

namespace StructType

/-- The value at a cursor. -/
def readFile (type : StructType) (postprocess : Bool) : Reading type.Value := do
  let layout := type.layout .file
  let fixed ← Cursor.take type.name layout.size
  type.members.readFile postprocess type.name (layout.decode fixed)

/-- The value that a body begins with, and the cursor after it. -/
def readBody (type : StructType) (postprocess : Bool) (body : Bytes) :
    Except TagError type.Value × Cursor :=
  (type.readFile postprocess).run.run { rest := body }

/-- The value of a whole tag file. -/
def parseFile (type : StructType) (expected : Option TagClass) (postprocess : Bool) (file : Bytes) :
    Except TagError type.Value := do
  let body ← FileHeader.validate file expected
  let (result, cursor) := type.readBody postprocess body
  let value ← result
  cursor.finish
  return value

end StructType

/-! ### Writing -/

namespace LeafType

/-- A member as the layout of tag files holds it. -/
def storeFile (order : ByteOrder) : (type : LeafType) → type.Value →
    Except TagError (type.layout order).Value
  | .plain type, value => return type.store .file order value
  | .dependency classes _, value => do
    return (← Buffer.dependencyHandle (defaultClass classes) value).store order
  | .blob _, value => do return (← Buffer.blobHandle (List.length value)).store order

/-- Appends the variable data of a member. -/
def writeFile : (type : LeafType) → type.Value → Writing Unit
  | .plain _, _ => pure ()
  | .dependency _ _, value => Buffer.writeDependency value
  | .blob _, value => Buffer.append value

end LeafType

namespace Members

/-- The members as the layout of tag files holds them. -/
def storeFile : (members : Members) → members.Value →
    Except TagError (members.layout .file).Value
  | .nil, _ => return ()
  | .leaf traits type rest, value => do
    let order := traits.orderIn .file
    let stored ←
      if traits.isAbsentFromFiles then .ok (type.layout order).zero
      else type.storeFile order value.1
    let others ← rest.storeFile value.2
    return (stored, others)
  | .array traits _ _ _ _ rest, value => do
    let order := traits.orderIn .file
    let stored ←
      if traits.isAbsentFromFiles then .ok (Layout.reflexive order).zero
      else (Buffer.arrayHandle value.1.length).map (·.store order)
    let others ← rest.storeFile value.2
    return (stored, others)

/-- Appends the variable data of the members of a struct. -/
def writeFile (owner : String) : (members : Members) → members.Value → Writing Unit
  | .nil, _ => pure ()
  | .leaf traits type rest, value => do
    if !traits.isAbsentFromFiles then type.writeFile value.1
    rest.writeFile owner value.2
  | .array traits _ name _ element rest, value => do
    if !traits.isAbsentFromFiles then
      let layout := element.layout .file
      Buffer.writeArray (traits.site owner) layout.size (fun position item => do
        Buffer.writeFixed layout (← element.storeFile item) position
        element.writeFile name item) value.1
    rest.writeFile owner value.2

end Members

namespace StructType

/-- Writes the fixed part of a value into the slot at a position, and appends its variable data. -/
def writeFile (type : StructType) (position : Nat) (value : type.Value) : Writing Unit := do
  Buffer.writeFixed (type.layout .file) (← type.members.storeFile value) position
  type.members.writeFile type.name value

/-- The body of the tag file of a value. -/
def generateBody (type : StructType) (value : type.Value) : Except TagError Bytes := do
  let (result, body) := (type.writeFile 0 value).run.run (Bytes.zeros (type.size .file))
  result
  return body

/-- The tag file of a value. -/
def generateFile (type : StructType) (tagClass : TagClass) (value : type.Value) :
    Except TagError Bytes := do
  return FileHeader.wrap tagClass (← type.generateBody value)

end StructType

end TagSchema
