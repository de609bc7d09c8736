import TagSchema.Handle

/-!
# Build workloads

Building a bundle collects structs in a pool, together with the places in them where a pointer or a
tag identifier goes, registers the tags that are referred to, and gathers raw data and diagnostics.
All of these only grow, except for the bytes of a struct; a failed operation keeps what it has done
so far.
-/

namespace TagSchema

/-- A place in a struct that holds the address of another one. -/
structure StructPointer where
  offset : Nat
  target : Nat
  deriving DecidableEq

/-- A place in a struct that holds a reference to a tag. -/
structure StructDependency where
  offset : Nat
  tag : Nat
  deriving DecidableEq

/-- A struct of the pool. -/
structure PoolStruct where
  data : Bytes
  pointers : List StructPointer := []
  dependencies : List StructDependency := []
  deriving DecidableEq

/-- A tag of the bundle to be. -/
structure RegisteredTag where
  path : String
  tagClass : TagClass
  baseStruct : Option Nat := none
  deriving DecidableEq

/-- How grave a diagnostic is. -/
inductive Severity where
  | fatal
  | warning
  deriving DecidableEq

/-- Something found out while building. -/
structure Diagnostic where
  severity : Severity
  tag : Option Nat
  message : String
  deriving DecidableEq

/-- What to check while building. -/
structure BuildOptions where
  /-- Whether ranges, enums, indices and lengths of vectors are left unchecked. -/
  disableErrorChecking : Bool := false
  /-- Whether arrays longer than the stock tools allow are warned about. -/
  checkStockLimits : Bool := false
  deriving DecidableEq

/-- The state of a build. -/
structure Workload where
  options : BuildOptions
  structs : List PoolStruct := []
  tags : List RegisteredTag := []
  rawData : Bytes := []
  diagnostics : List Diagnostic := []

/-- A step of a build. -/
abbrev Building := ExceptT TagError (StateM Workload)

namespace Workload

/-! ### The pool -/

/-- A new struct with the given bytes. -/
def addStruct (data : Bytes) : Building Nat := do
  let workload ← get
  let struct : PoolStruct := { data }
  set { workload with structs := workload.structs ++ [struct] }
  return workload.structs.length

/-- Changes a struct of the pool. -/
def updateStruct (index : Nat) (change : PoolStruct → Except TagError PoolStruct) :
    Building Unit := do
  let workload ← get
  match workload.structs[index]? with
  | none => throw (.outOfBounds (.noStruct index))
  | some struct =>
    let struct ← change struct
    set { workload with structs := workload.structs.set index struct }

/-- Notes that a place of a struct points to another struct. -/
def addPointer (owner offset target : Nat) : Building Unit :=
  updateStruct owner fun s => .ok { s with pointers := s.pointers ++ [⟨offset, target⟩] }

/-- Notes that a place of a struct refers to a tag. -/
def addDependency (owner offset tag : Nat) : Building Unit :=
  updateStruct owner fun s => .ok { s with dependencies := s.dependencies ++ [⟨offset, tag⟩] }

/-- The failure of asking a struct for a window that it does not have. -/
def windowError (index : Nat) (data : Bytes) (size offset : Nat) : TagError :=
  .outOfBounds (.structWindow index data.length size offset)

/-- The bytes of a window of a struct. -/
def window (index offset size : Nat) : Building Bytes := do
  match (← get).structs[index]? with
  | none => throw (.outOfBounds (.noStruct index))
  | some s =>
    match s.data.slice? offset size with
    | some bytes => return bytes
    | none => throw (windowError index s.data size offset)

/-- Writes some bytes into a struct. -/
def overwrite (index offset : Nat) (bytes : Bytes) : Building Unit :=
  updateStruct index fun s =>
    if offset + bytes.length ≤ s.data.length then
      .ok { s with data := s.data.overwrite offset bytes }
    else .error (windowError index s.data bytes.length offset)

/-! ### Tags, raw data and diagnostics -/

/-- The tags with one of the given path and class, and its index: the tag is added unless it is
there already. -/
def registerIn (tags : List RegisteredTag) (path : String) (tagClass : TagClass) :
    List RegisteredTag × Nat :=
  match tags.findIdx? fun tag => decide (tag.path = path ∧ tag.tagClass = tagClass) with
  | some index => (tags, index)
  | none => (tags ++ [⟨path, tagClass, none⟩], tags.length)

/-- The index of a tag, which is registered unless it has been before. -/
def register (path : String) (tagClass : TagClass) : Building Nat := do
  let workload ← get
  let (tags, index) := registerIn workload.tags path tagClass
  set { workload with tags }
  return index

/-- Makes a struct the base struct of a tag. -/
def setBaseStruct (tag struct : Nat) : Building Unit := do
  let workload ← get
  match workload.tags[tag]? with
  | none => throw (.unknownTag (.position tag))
  | some registered =>
    let tags := workload.tags.set tag { registered with baseStruct := some struct }
    set { workload with tags }

/-- Appends raw data and gives its offset. -/
def addRawData (data : Bytes) : Building UInt32 := do
  let workload ← get
  if UInt32.size ≤ workload.rawData.length then throw (.outOfBounds .rawDataFull)
  set { workload with rawData := workload.rawData ++ data }
  return UInt32.ofNat workload.rawData.length

/-- Adds a diagnostic. -/
def report (severity : Severity) (tag : Option Nat) (message : String) : Building Unit :=
  modify fun workload =>
    { workload with diagnostics := workload.diagnostics ++ [⟨severity, tag, message⟩] }

/-- Whether something fatal has been reported. -/
def hasFatal (workload : Workload) : Bool := workload.diagnostics.any (·.severity = .fatal)

/-- Reports a violation and fails because of it. -/
def fail {α : Type} (tag : Nat) (site : Site) (violation : Violation) : Building α := do
  report .fatal (some tag) (violation.message site)
  throw (.fatal site violation)

/-! ### Checks -/

/-- Fails if there is a violation. -/
def check (tag : Nat) (site : Site) : Option Violation → Building Unit
  | some violation => fail tag site violation
  | none => pure ()

/-- Checks the number of elements of an array. -/
def checkCount (tag : Nat) (site : Site) (minimum maximum : Nat) (stockMaximum : Option Nat)
    (length : Nat) : Building Unit := do
  if length < minimum then fail tag site (.tooFewElements minimum)
  if maximum < length then fail tag site (.tooManyElements maximum)
  if let some stock := stockMaximum then
    if (← get).options.checkStockLimits ∧ stock < length then
      report .warning (some tag) (s!"{site.render} exceeds the stock limit of {stock} blocks " ++
        "and may not work as intended on the target engine")

/-! ### Handles -/

/-- The handle of a dependency at a place of a struct. The tag that it refers to is registered. -/
def compileDependency (tag struct offset : Nat) (site : Site) (classes : List TagClass)
    (nonNull : Bool) (d : Dependency) : Building DependencyHandle := do
  if d.isNull then
    if nonNull then fail tag site .nullReference
    return { tagClass := d.tagClass }
  else
    if !classes.isEmpty && !classes.contains d.tagClass then
      fail tag site (.disallowedClass classes d.tagClass)
    let index ← register d.path d.tagClass
    addDependency struct offset index
    return { tagClass := d.tagClass, id := .ofIndex index }

/-- Where the pointer is within the handle of an array. -/
def arrayPointerOffset : Nat := 4

/-- Where the pointer is within the handle of a blob. -/
def blobPointerOffset : Nat := 12

/-- Builds the elements of an array one after another, each at its offset. -/
def compileElements {α : Type} (site : Site) (size : Nat) (compile : Nat → α → Building Unit) :
    Nat → List α → Building Unit
  | _, [] => pure ()
  | index, element :: rest => do
    ExceptT.adapt (.element .compile site index) (compile (index * size) element)
    compileElements site size compile (index + 1) rest

/-- The handle of an array at a place of a struct. The elements go into one new struct, unless there
are none; `compile` gets the struct, the offset in it, and the element. -/
def compileArray {α : Type} (struct offset : Nat) (site : Site) (size : Nat)
    (compile : Nat → Nat → α → Building Unit) (elements : List α) : Building ArrayHandle := do
  let count ← countWord site.field elements.length
  if !elements.isEmpty then
    let array ← addStruct (Bytes.zeros (elements.length * size))
    addPointer struct (offset + arrayPointerOffset) array
    compileElements site size (compile array) 0 elements
  return { count }

/-- The handle of a blob at a place of a struct. -/
def compileBlob (struct offset : Nat) (selector : BlobSelector) (data : Bytes) :
    Building BlobHandle := do
  let size ← countWord "blob" data.length
  if data.isEmpty then return { size }
  match selector with
  | .pointer =>
    let blob ← addStruct data
    addPointer struct (offset + blobPointerOffset) blob
    return { size }
  | .fileOffset | .external _ => return { size, fileOffset := ← addRawData data }

end Workload

end TagSchema
