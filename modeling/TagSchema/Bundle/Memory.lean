import TagSchema.Bundle.Workload

/-!
# Bundles

A finished workload is laid out in memory: the structs one after another, each at a multiple of
four, with the addresses of their targets in the places that point to them.
-/

namespace TagSchema

/-- A bundle. -/
structure Bundle where
  memory : Bytes
  /-- Where the base struct of the tag being read begins in the memory. -/
  baseStruct : Nat
  /-- The tag being read. -/
  tag : Nat
  tags : List RegisteredTag
  rawData : Bytes
  /-- The contents of the external files that are loaded. -/
  external : List (DataSource × Bytes) := []

namespace Bundle

/-- The address of the first byte of the memory. -/
def baseAddress : UInt32 := 0x40440000

/-! ### Laying out -/

/-- A length rounded up to a multiple of four. -/
def padded (length : Nat) : Nat := (length + 3) / 4 * 4

/-- Where each struct begins, the first one at `start`. -/
def offsets (start : Nat) : List PoolStruct → List Nat
  | [] => []
  | s :: rest => start :: offsets (start + padded s.data.length) rest

/-- The structs one after another, with zeros between them. -/
def image (structs : List PoolStruct) : Bytes :=
  structs.flatMap fun s => s.data ++ Bytes.zeros (padded s.data.length - s.data.length)

/-- The memory with the address of a target in a place that points to it. The struct of the place
begins at `start`. -/
def patch (offsets : List Nat) (start : Nat) (memory : Bytes) (pointer : StructPointer) :
    Except TagError Bytes :=
  match offsets[pointer.target]? with
  | none => .error (.outOfBounds (.danglingPointer pointer.target))
  | some target =>
    let position := start + pointer.offset
    if position + 4 ≤ memory.length then
      let address := baseAddress + UInt32.ofNat target
      .ok (memory.overwrite position (Primitive.u32.encode .little address.toBitVec))
    else .error (.outOfBounds (.patchOutside position))

/-- The memory of some structs. -/
def layOut (structs : List PoolStruct) : Except TagError Bytes :=
  let offsets := offsets 0 structs
  (structs.zip offsets).foldlM
    (fun memory (s, start) => s.pointers.foldlM (patch offsets start) memory) (image structs)

/-- The bundle of a workload, for reading the given tag. -/
def ofWorkload (workload : Workload) (tag : Nat) : Except TagError Bundle := do
  let some base := (workload.tags[tag]?).bind (·.baseStruct)
    | throw (.unknownTag (.noBaseStruct tag))
  let memory ← layOut workload.structs
  let some baseStruct := (offsets 0 workload.structs)[base]?
    | throw (.outOfBounds (.noStruct base))
  return { memory, baseStruct, tag, tags := workload.tags, rawData := workload.rawData }

/-! ### Looking up -/

/-- The bytes of a region. -/
def region (what : String) (data : Bytes) (offset size : Nat) : Except TagError Bytes :=
  match data.slice? offset size with
  | some bytes => .ok bytes
  | none => .error (.outOfBounds (.region what size offset data.length))

/-- The bytes behind a pointer. -/
def structBytes (bundle : Bundle) (pointer : UInt32) (size : Nat) : Except TagError Bytes :=
  if pointer < baseAddress then .error (.outOfBounds (.belowBase pointer))
  else region "struct" bundle.memory (pointer - baseAddress).toNat size

/-- The first bytes of the base struct. -/
def baseBytes (bundle : Bundle) (size : Nat) : Except TagError Bytes :=
  region "base struct" bundle.memory bundle.baseStruct size

/-- The path and the class of a tag. -/
def lookup (bundle : Bundle) (id : TagId) : Except TagError (String × TagClass) :=
  match id.index?.bind (bundle.tags[·]?) with
  | some tag => .ok (tag.path, tag.tagClass)
  | none => .error (.unknownTag (.id id.code))

/-- The contents of a loaded external file. -/
def store? (bundle : Bundle) (source : DataSource) : Option Bytes :=
  (bundle.external.find? (·.1 = source)).map (·.2)

/-- Bytes outside the structs. -/
def dataAt (bundle : Bundle) (source : DataSource) (offset : UInt32) (size : Nat) :
    Except TagError Bytes :=
  match source with
  | .tagData => bundle.structBytes offset size
  | .cache => region "cache data" bundle.rawData offset.toNat size
  | source =>
    match bundle.store? source with
    | some data => region "external data" data offset.toNat size
    | none => .error (.outOfBounds (.noStore source))

/-- The tag being read, as messages name it. -/
def describe (bundle : Bundle) : String :=
  match bundle.tags[bundle.tag]? with
  | some tag => s!"{tag.path}.{tag.tagClass.render}"
  | none => s!"tag #{bundle.tag}"

/-- The bundle with the contents of an external file. -/
def setExternal (bundle : Bundle) (source : DataSource) (data : Bytes) : Bundle :=
  { bundle with external := (source, data) :: bundle.external }

/-- The bundle with another class for a tag. -/
def setClass (bundle : Bundle) (tag : Nat) (tagClass : TagClass) : Except TagError Bundle :=
  match bundle.tags[tag]? with
  | some registered =>
    .ok { bundle with tags := bundle.tags.set tag { registered with tagClass } }
  | none => .error (.unknownTag (.position tag))

/-! ### Reading handles -/

/-- The dependency of a handle. The tag that it names must be of the class that the handle has. -/
def readDependency (bundle : Bundle) (site : Site) (default : Option TagClass) (tagClass : TagClass)
    (id : TagId) : Except TagError Dependency :=
  if id.isNull then .ok (.nullOf (Dependency.restoreClass default tagClass))
  else
    let task := s!"invalid reference for {site.render} in {bundle.describe}"
    match bundle.lookup id with
    | .error e => .error (.within task e)
    | .ok (path, referenced) =>
      if referenced = tagClass then .ok { tagClass, path := Text.lowercase path, id }
      else .error (.within task (.invalidData .referenceClass))

/-- The address of an element, if it is one. -/
def elementAddress? (pointer : UInt32) (distance : Nat) : Option UInt32 :=
  if pointer.toNat + distance < UInt32.size then some (pointer + UInt32.ofNat distance) else none

/-- The elements of an array from an index on. -/
def readElements {α : Type} (site : Site) (size : Nat) (element : UInt32 → Except TagError α)
    (pointer : UInt32) : Nat → Nat → Except TagError (List α)
  | _, 0 => return []
  | index, count + 1 => do
    let some address := elementAddress? pointer (index * size)
      | throw (.outOfBounds (.addressSpace site))
    let first ← (element address).mapError (.element .parse site index)
    let rest ← readElements site size element pointer (index + 1) count
    return first :: rest

/-- The elements of an array. -/
def readArray {α : Type} (site : Site) (size : Nat) (element : UInt32 → Except TagError α)
    (count pointer : UInt32) : Except TagError (List α) :=
  readElements site size element pointer 0 count.toNat

/-- Where the bytes of a blob are, by the way its member finds them. External files of bitmaps and
sounds are used only when the handle says so. -/
def locate (selector : BlobSelector) (handle : BlobHandle) : DataSource × UInt32 :=
  match selector with
  | .pointer => (.tagData, handle.pointer)
  | .fileOffset => (.cache, handle.fileOffset)
  | .external source =>
    if (source = .bitmaps ∨ source = .sounds) ∧ handle.external &&& 1 = 0 then
      (.cache, handle.fileOffset)
    else (source, handle.fileOffset)

/-- The bytes of a blob. -/
def readBlob (bundle : Bundle) (site : Site) (selector : BlobSelector) (handle : BlobHandle) :
    Except TagError Bytes :=
  if handle.size = 0 then .ok []
  else
    let (source, offset) := locate selector handle
    (bundle.dataAt source offset handle.size.toNat).mapError
      (.within s!"failed to read tag data for {site.render} in {bundle.describe}")

end Bundle

end TagSchema
