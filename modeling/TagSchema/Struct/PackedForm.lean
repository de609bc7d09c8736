import TagSchema.Bundle.Check
import TagSchema.Bundle.Memory
import TagSchema.Struct.FileForm

/-!
# Structs in bundles

In a bundle every handle leads to what it stands for by itself: to a tag by identifier, to elements
and blobs by address or offset. Building a struct checks its members first, then builds what its
handles stand for, and writes the struct last.
-/

namespace TagSchema

/-! ### Reading -/

/-- The value of a member. -/
def LeafType.readPacked (bundle : Bundle) (order : ByteOrder) (site : Site) : (type : LeafType) →
    (type.layout order).Value → Except TagError type.Value
  | .plain type, stored => return type.load .packed order stored
  | .dependency classes _, stored =>
    let handle := DependencyHandle.load order stored
    bundle.readDependency site (defaultClass classes) handle.tagClass handle.id
  | .blob selector, stored => bundle.readBlob site selector (BlobHandle.load order stored)

/-- The value of the members of a struct. -/
def Members.readPacked (bundle : Bundle) (owner : String) : (members : Members) →
    (members.layout .packed).Value → Except TagError members.Value
  | .nil, _ => return ()
  | .leaf traits type rest, stored => do
    let value ← type.readPacked bundle (traits.orderIn .packed) (traits.site owner) stored.1
    let others ← rest.readPacked bundle owner stored.2
    return (value, others)
  | .array traits _ name _ element rest, stored => do
    let handle := ArrayHandle.load (traits.orderIn .packed) stored.1
    let layout := element.layout .packed
    let elements ← Bundle.readArray (traits.site owner) layout.size (fun address => do
      let fixed ← bundle.structBytes address layout.size
      element.readPacked bundle name (layout.decode fixed)) handle.count handle.pointer
    let others ← rest.readPacked bundle owner stored.2
    return (elements, others)

/-- The value behind a pointer, or that of the base struct. -/
def StructType.readPacked (type : StructType) (bundle : Bundle) (pointer : Option UInt32) :
    Except TagError type.Value := do
  let layout := type.layout .packed
  let fixed ←
    match pointer with
    | some address => bundle.structBytes address layout.size
    | none => bundle.baseBytes layout.size
  type.members.readPacked bundle type.name (layout.decode fixed)

/-! ### Checking -/

/-- The first violation of a rule by some numbers. -/
def NumberRule.violation? (rule : NumberRule) :
    (shape : NumberShape) → shape.Value → Option Violation
  | .compound type, value => if rule.normalize then Violation.ofNormal? type value else none
  | .scalar type, word =>
    Violation.ofRange? rule.minimum rule.maximum (.ofFloat (type.toFloat word))
  | .bounds shape, value =>
    (rule.violation? shape value.1).or (rule.violation? shape value.2)
  | .array _ shape, (value : Vector shape.Value _) => value.toList.findSome? (rule.violation? shape)

/-- The number of an enum value; the values of some fields are one less than it. -/
def enumNumber (shiftedByOne : Bool) (value : Nat) : Nat :=
  if shiftedByOne then (value + 1) % UInt32.size else value

/-- What a build finds wrong with a member. -/
def LeafType.violation? (stack : ContainmentStack) :
    (type : LeafType) → type.Value → Option Violation
  | .plain (.number shape rule), value => rule.violation? shape value
  | .plain (.enum type shiftedByOne), (value : (Primitive.ofWidth type.width).Word) =>
    Violation.ofEnum? type.options.length type.excludedValues (enumNumber shiftedByOne value.toNat)
  | .plain (.index (some target)), (value : Primitive.u16.Word) =>
    Violation.ofIndex? stack target.tags target.member value.toNat
  | _, _ => none

namespace Members

/-- The frame of a struct with the given members. -/
def frame (members : Members) (name : String) (value : members.Value) : Frame :=
  { struct := name, lengths := members.lengths value }

/-- Fails at the first member with something wrong. -/
def check (tag : Nat) (owner : String) (stack : ContainmentStack) : (members : Members) →
    members.Value → Building Unit
  | .nil, _ => pure ()
  | .leaf traits type rest, value => do
    Workload.check tag (traits.site owner) (type.violation? stack value.1)
    rest.check tag owner stack value.2
  | .array _ _ _ _ _ rest, value => rest.check tag owner stack value.2

end Members

/-! ### Building -/

/-- Builds what a member stores elsewhere, and gives the member as its layout holds it. The member
is part of the struct at a place of the pool. -/
def LeafType.compile (tag struct offset : Nat) (order : ByteOrder) (site : Site) :
    (type : LeafType) → type.Value → Building (type.layout order).Value
  | .plain type, value => return type.store .packed order value
  | .dependency classes nonNull, value => do
    let handle ← Workload.compileDependency tag struct offset site (allowedClasses classes) nonNull
      value
    return handle.store order
  | .blob selector, value => do
    return (← Workload.compileBlob struct offset selector value).store order

/-- Builds a struct at a place of the pool: checks it, unless the build does not check for errors,
then builds what its handles stand for, then writes it. -/
def compileAt (layout : Layout) (struct offset : Nat) (check : Building Unit)
    (handles : Building layout.Value) : Building Unit := do
  if !(← get).options.disableErrorChecking then check
  let stored ← handles
  Workload.overwrite struct offset (layout.encode stored)

/-- Builds what the handles of some members stand for, and gives the members as their layout holds
them. The stack has the frame of the struct that they belong to. -/
def Members.compile (tag : Nat) (owner : String) (stack : ContainmentStack) (struct offset : Nat) :
    (members : Members) → members.Value → Building (members.layout .packed).Value
  | .nil, _ => return ()
  | .leaf traits type rest, value => do
    let stored ← type.compile tag struct (offset + traits.offset) (traits.orderIn .packed)
      (traits.site owner) value.1
    let others ← rest.compile tag owner stack struct offset value.2
    return (stored, others)
  | .array traits limits name _ element rest, value => do
    let site := traits.site owner
    let layout := element.layout .packed
    Workload.checkCount tag site limits.minimum limits.maximum limits.stockMaximum value.1.length
    let handle ← Workload.compileArray struct (offset + traits.offset) site layout.size
      (fun array position item =>
        let stack := stack.enter (element.frame name item)
        compileAt layout array position (element.check tag name stack item)
          (element.compile tag name stack array position item)) value.1
    let others ← rest.compile tag owner stack struct offset value.2
    return (handle.store (traits.orderIn .packed), others)

namespace StructType

/-- Builds a value at a place of the pool. -/
def compile (type : StructType) (tag : Nat) (stack : ContainmentStack) (struct offset : Nat)
    (value : type.Value) : Building Unit :=
  let stack := stack.enter (type.members.frame type.name value)
  compileAt (type.layout .packed) struct offset (type.members.check tag type.name stack value)
    (type.members.compile tag type.name stack struct offset value)

/-- Builds a value as the base struct of a tag, and gives its place in the pool. -/
def compileTag (type : StructType) (tag : Nat) (value : type.Value) : Building Nat := do
  let struct ← Workload.addStruct (Bytes.zeros (type.size .packed))
  type.compile tag {} struct 0 value
  return struct

end StructType

end TagSchema
