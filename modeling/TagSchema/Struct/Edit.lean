import TagSchema.Struct.Options
import TagSchema.Struct.Type
import TagSchema.Tag.Dependency

/-!
# Editing values

What a generic editor sees of a value and does to it. It sees the members of a struct that are meant
to be edited, by identifier, and reaches the elements of arrays by paths.
-/

namespace TagSchema

/-! ### Descriptors -/

/-- What an editor knows about a member. -/
inductive Descriptor where
  | number (name : String) (count : Nat) (bounds volatile : Bool)
      (minimum maximum : Option Binary64)
  | enum (type : ResolvedEnum)
  | bitfield (type : ResolvedBitfield)
  | dependency (classes : List String)
  | array (element : String) (limits : ArrayLimits)
  | blob
  | text

/-- Whether numbers are a pair of bounds. -/
def NumberShape.isBounds : NumberShape → Bool
  | .bounds _ => true
  | _ => false

/-- What an editor knows about a member that is no array, if it can show it at all. -/
def LeafType.descriptor? (traits : FieldTraits) : LeafType → Option Descriptor
  | .plain (.number shape rule) =>
    some (.number rule.name shape.count shape.isBounds traits.volatile rule.minimum rule.maximum)
  | .plain (.index _) => some (.number "Index" 1 false traits.volatile none none)
  | .plain .fourCC => some (.number "FourCC" 1 false traits.volatile none none)
  | .plain (.enum type _) => some (.enum type)
  | .plain (.bitfield type) => some (.bitfield type)
  | .plain .tagString => some .text
  | .plain .tagId | .plain (.padding _) => none
  | .dependency classes _ => some (.dependency classes)
  | .blob _ => some .blob

/-- What an editor knows about the members that it shows. -/
def Members.descriptors : Members → List (FieldTraits × Descriptor)
  | .nil => []
  | .leaf traits type rest =>
    match type.descriptor? traits with
    | some descriptor =>
      if traits.isVisible then (traits, descriptor) :: rest.descriptors else rest.descriptors
    | none => rest.descriptors
  | .array traits limits name _ _ rest =>
    if traits.isVisible then (traits, .array name limits) :: rest.descriptors else rest.descriptors

/-! ### Access -/

/-- The value of a member, as an editor sees it. -/
inductive Access where
  | number (components : List Float)
  | enum (type : ResolvedEnum) (value : Nat)
  | bitfield (type : ResolvedBitfield) (bits : Nat)
  | array (length : Nat)
  | dependency (value : Dependency)
  | blob (value : Bytes)
  | text (value : FixedText)

/-- The value of a member that is no array, if an editor can show it at all. -/
def LeafType.access? : (type : LeafType) → type.Value → Option Access
  | .plain (.number shape _), value => some (.number (shape.components value))
  | .plain (.index _), (value : Primitive.u16.Word) => some (.number [Primitive.u16.toFloat value])
  | .plain .fourCC, (value : TagClass) => some (.number [Primitive.u32.toFloat value.code.toBitVec])
  | .plain (.enum type _), (value : (Primitive.ofWidth type.width).Word) =>
    some (.enum type value.toNat)
  | .plain (.bitfield type), (value : (Primitive.ofWidth type.width).Word) =>
    some (.bitfield type value.toNat)
  | .plain .tagString, value => some (.text value)
  | .plain .tagId, _ => none
  | .plain (.padding _), _ => none
  | .dependency _ _, value => some (.dependency value)
  | .blob _, value => some (.blob value)

/-- The values of the members that an editor shows, by identifier. -/
def Members.accesses : (members : Members) → members.Value → List (String × Access)
  | .nil, _ => []
  | .leaf traits type rest, value =>
    match type.access? value.1 with
    | some access =>
      if traits.isVisible then (traits.identifier, access) :: rest.accesses value.2
      else rest.accesses value.2
    | none => rest.accesses value.2
  | .array traits _ _ _ _ rest, value =>
    if traits.isVisible then (traits.identifier, .array value.1.length) :: rest.accesses value.2
    else rest.accesses value.2

/-- The title that a member gives to its struct. -/
def LeafType.title? : (type : LeafType) → type.Value → Option String
  | .plain .tagString, (value : FixedText) => some value.toText
  | .plain (.enum type _), (value : (Primitive.ofWidth type.width).Word) => type.nameOf? value.toNat
  | .dependency _ _, (value : Dependency) => value.title?
  | _, _ => none

/-- The title that the member of the given identifier gives to its struct. -/
def Members.title? (identifier : String) : (members : Members) → members.Value → Option String
  | .nil, _ => none
  | .leaf traits type rest, value =>
    if traits.identifier = identifier then type.title? value.1 else rest.title? identifier value.2
  | .array _ _ _ _ _ rest, value => rest.title? identifier value.2

/-- The title of a value. -/
def StructType.titleOf? (type : StructType) (value : type.Value) : Option String :=
  type.title.bind fun identifier => type.members.title? identifier value

/-! ### Edits -/

/-- Why an edit is not done. -/
inductive EditFault where
  | noField
  | notArray
  | noElement
  /-- The member is of a kind that has no such edit. -/
  | unfit
  /-- The edit names a component or an element that is not there. -/
  | refused

/-- A change of one member. -/
inductive Edit where
  | setComponent (index : Nat) (number : Float)
  /-- Sets an enum or a bitfield, as much of the number as it can store. -/
  | setWord (value : Nat)
  | setDependency (value : Dependency)
  | setBlob (value : Bytes)
  | setText (value : FixedText)
  | insert (index : Nat)
  | delete (start stop : Nat)
  | duplicate (index : Nat)
  | swap (first second : Nat)

/-- A member that is no array, changed. -/
def LeafType.edit : (type : LeafType) → Edit → type.Value → Except EditFault type.Value
  | .plain (.number shape _), .setComponent index number, value =>
    match shape.setComponent index number value with
    | some value => .ok value
    | none => .error .refused
  | .plain (.index _), .setComponent index number, _ =>
    if index = 0 then .ok (Primitive.u16.ofFloat number) else .error .refused
  | .plain .fourCC, .setComponent index number, _ =>
    if index = 0 then .ok (⟨⟨Primitive.u32.ofFloat number⟩⟩ : TagClass) else .error .refused
  | .plain (.enum _ _), .setWord value, _ => .ok (BitVec.ofNat _ value)
  | .plain (.bitfield _), .setWord value, _ => .ok (BitVec.ofNat _ value)
  | .plain .tagString, .setText value, _ => .ok value
  | .dependency _ _, .setDependency value, _ => .ok value
  | .blob _, .setBlob value, _ => .ok value
  | _, _, _ => .error .unfit

/-- An array changed, given a value for new elements. -/
def editArray {α : Type} (new : α) (elements : List α) : Edit → Except EditFault (List α)
  | .insert index =>
    if index ≤ elements.length then .ok (elements.take index ++ new :: elements.drop index)
    else .error .refused
  | .delete start stop =>
    if start ≤ stop ∧ stop ≤ elements.length then .ok (elements.take start ++ elements.drop stop)
    else .error .refused
  | .duplicate index =>
    match elements[index]? with
    | some element => .ok (elements.take (index + 1) ++ element :: elements.drop (index + 1))
    | none => .error .refused
  | .swap first second =>
    match elements[first]?, elements[second]? with
    | some a, some b => .ok ((elements.set first b).set second a)
    | _, _ => .error .refused
  | _ => .error .unfit

/-- The members with one of them, which an editor can show, changed. -/
def Members.edit (identifier : String) (change : Edit) : (members : Members) → members.Value →
    Except EditFault members.Value
  | .nil, _ => .error .noField
  | .leaf traits type rest, value =>
    if traits.identifier = identifier ∧ traits.isVisible ∧ (type.descriptor? traits).isSome then
      (type.edit change value.1).map fun first => (first, value.2)
    else (rest.edit identifier change value.2).map fun others => (value.1, others)
  | .array traits _ _ _ element rest, value =>
    if traits.identifier = identifier ∧ traits.isVisible then
      (editArray element.zero value.1 change).map fun elements => (elements, value.2)
    else (rest.edit identifier change value.2).map fun others => (value.1, others)

/-! ### Paths -/

/-- Something done with a struct of any type, which may change it. -/
abbrev Visit (α : Type) := (type : StructType) → type.Value → Except EditFault (α × type.Value)

/-- Visits one element of an array that an editor can show. -/
def Members.visitElement {α : Type} (visit : Visit α) (identifier : String) (index : Nat) :
    (members : Members) → members.Value → Except EditFault (α × members.Value)
  | .nil, _ => .error .noField
  | .leaf traits type rest, value =>
    if traits.identifier = identifier ∧ traits.isVisible ∧ (type.descriptor? traits).isSome then
      .error .notArray
    else
      (rest.visitElement visit identifier index value.2).map fun (result, others) =>
        (result, (value.1, others))
  | .array traits _ name title element rest, value =>
    if traits.identifier = identifier ∧ traits.isVisible then
      match value.1[index]? with
      | none => .error .noElement
      | some item =>
        (visit { name, title, members := element } item).map fun (result, item) =>
          (result, (value.1.set index item, value.2))
    else
      (rest.visitElement visit identifier index value.2).map fun (result, others) =>
        (result, (value.1, others))

/-- Visits the struct at the end of a path of arrays and indices. -/
def StructType.visit {α : Type} (visit : Visit α) : List (String × Nat) → Visit α
  | [] => visit
  | (identifier, index) :: path => fun type value =>
    type.members.visitElement (StructType.visit visit path) identifier index value

end TagSchema
