import TagSchema.Handle
import TagSchema.Number.Shape
import TagSchema.Schema.Classify

/-!
# Struct types

A struct type describes the values of a struct: a list of members, each with what is known about its
field. The elements of an array are described in place, so everything that is done with values is a
recursion on the description.
-/

namespace TagSchema

/-- What the numbers of a member have to keep, and what they are called. -/
structure NumberRule where
  /-- The name of the type among number types. -/
  name : String
  minimum : Option Binary64 := none
  maximum : Option Binary64 := none
  /-- Whether the numbers have to be of length one. -/
  normalize : Bool := false
  /-- The numbers that stand in for ones that are not set. -/
  default : List Binary64 := []
  defaultSign : Bool := false

/-- The type of a member that is stored in its struct as a whole. -/
inductive PlainType where
  | number (shape : NumberShape) (rule : NumberRule)
  | enum (type : ResolvedEnum) (shiftedByOne : Bool)
  | bitfield (type : ResolvedBitfield)
  | index (target : Option IndexTarget)
  | tagId
  | tagString
  | fourCC
  | padding (size : Nat)

/-- The type of a member that is no array. -/
inductive LeafType where
  | plain (type : PlainType)
  | dependency (classes : List String) (nonNull : Bool)
  | blob (selector : BlobSelector)

/-- How many elements an array may have. -/
structure ArrayLimits where
  minimum : Nat
  maximum : Nat
  stockMaximum : Option Nat

/-- The members of a struct, in the order of its fields. -/
inductive Members where
  | nil
  | leaf (traits : FieldTraits) (type : LeafType) (rest : Members)
  /-- An array of structs of the given name, title and members. -/
  | array (traits : FieldTraits) (limits : ArrayLimits) (name : String) (title : Option String)
      (element : Members) (rest : Members)

/-- The type of a struct. -/
structure StructType where
  name : String
  /-- The identifier of the member that titles a value. -/
  title : Option String
  members : Members

/-! ### Values -/

/-- The values of a type that is stored as a whole. -/
def PlainType.Value : PlainType → Type
  | .number shape _ => shape.Value
  | .enum type _ => (Primitive.ofWidth type.width).Word
  | .bitfield type => (Primitive.ofWidth type.width).Word
  | .index _ => Primitive.u16.Word
  | .tagId => TagId
  | .tagString => FixedText
  | .fourCC => TagClass
  | .padding _ => Unit

/-- The values of a type that is no array. -/
def LeafType.Value : LeafType → Type
  | .plain type => type.Value
  | .dependency _ _ => Dependency
  | .blob _ => Bytes

/-- The values of a list of members. -/
def Members.Value : Members → Type
  | .nil => Unit
  | .leaf _ type rest => type.Value × rest.Value
  | .array _ _ _ _ element rest => List element.Value × rest.Value

/-- The values of a struct. -/
abbrev StructType.Value (type : StructType) : Type := type.members.Value

/-- The value of a plain member that was never set. -/
def PlainType.zero : (type : PlainType) → type.Value
  | .number shape _ => shape.zero
  | .enum _ _ => (0 : BitVec _)
  | .bitfield _ => (0 : BitVec _)
  | .index _ => (0 : BitVec _)
  | .tagId => TagId.null
  | .tagString => FixedText.empty
  | .fourCC => TagClass.null
  | .padding _ => ()

/-- The value of a member that was never set. -/
def LeafType.zero : (type : LeafType) → type.Value
  | .plain type => type.zero
  | .dependency _ _ => ({} : Dependency)
  | .blob _ => ([] : Bytes)

/-- The value of members that were never set. -/
def Members.zero : (members : Members) → members.Value
  | .nil => ()
  | .leaf _ type rest => (type.zero, rest.zero)
  | .array _ _ _ _ _ rest => ([], rest.zero)

/-- Whether two values of a plain type are equal. Numbers are compared by their words. -/
def PlainType.equal : (type : PlainType) → type.Value → type.Value → Bool
  | .number shape _, a, b => decide (shape.words a = shape.words b)
  | .enum _ _, (a : (Primitive.ofWidth _).Word), b => a == b
  | .bitfield _, (a : (Primitive.ofWidth _).Word), b => a == b
  | .index _, (a : Primitive.u16.Word), b => a == b
  | .tagId, (a : TagId), (b : TagId) => decide (a = b)
  | .tagString, (a : FixedText), (b : FixedText) => decide (a = b)
  | .fourCC, (a : TagClass), (b : TagClass) => decide (a = b)
  | .padding _, _, _ => true

/-! ### Stored form -/

namespace PlainType

/-- The layout of a value whose words have the given byte order. -/
def layout (order : ByteOrder) : PlainType → Layout
  | .number shape _ => shape.layout order
  | .enum type _ => .word order (.ofWidth type.width)
  | .bitfield type => .word order (.ofWidth type.width)
  | .index _ => .word order .u16
  | .tagId => .word order .u32
  | .tagString => .text
  | .fourCC => .word order .u32
  | .padding size => .padding size

/-- The bits of a mask that tag files do not keep, cleared. -/
def withoutHidden (type : ResolvedBitfield) (word : (Primitive.ofWidth type.width).Word) :
    (Primitive.ofWidth type.width).Word :=
  word &&& ~~~(BitVec.ofNat _ type.cacheOnlyMask)

/-- A value as its layout holds it. Tag files leave out the flags that only bundles have. -/
def store (form : Form) (order : ByteOrder) : (type : PlainType) → type.Value →
    (type.layout order).Value
  | .number shape _, value => shape.store order value
  | .enum _ _, value => value
  | .bitfield type, value =>
    match form with
    | .file => withoutHidden type value
    | .packed => value
  | .index _, value => value
  | .tagId, (value : TagId) => value.code.toBitVec
  | .tagString, value => value
  | .fourCC, (value : TagClass) => value.code.toBitVec
  | .padding _, value => value

/-- The value that a layout holds. Flags that are not defined are dropped, and identifiers are not
kept: they are assigned anew. -/
def load (form : Form) (order : ByteOrder) : (type : PlainType) → (type.layout order).Value →
    type.Value
  | .number shape _, stored => shape.load order stored
  | .enum _ _, stored => stored
  | .bitfield type, (stored : (Primitive.ofWidth type.width).Word) =>
    let word := stored &&& BitVec.ofNat _ type.fullMask
    match form with
    | .file => withoutHidden type word
    | .packed => word
  | .index _, stored => stored
  | .tagId, _ => TagId.null
  | .tagString, stored => stored
  | .fourCC, (stored : BitVec 32) => (⟨⟨stored⟩⟩ : TagClass)
  | .padding _, stored => stored

/-- What a layout holds, in words of another byte order. -/
def convert (source target : ByteOrder) : (type : PlainType) → (type.layout source).Value →
    (type.layout target).Value
  | .number shape _, stored => shape.store target (shape.load source stored)
  | .enum _ _, stored => stored
  | .bitfield _, stored => stored
  | .index _, stored => stored
  | .tagId, stored => stored
  | .tagString, stored => stored
  | .fourCC, stored => stored
  | .padding _, stored => stored

end PlainType

namespace LeafType

/-- The layout of a member whose words have the given byte order. -/
def layout (order : ByteOrder) : LeafType → Layout
  | .plain type => type.layout order
  | .dependency _ _ => .dependency order
  | .blob _ => .blob order

/-- What a layout holds, in words of another byte order. -/
def convert (source target : ByteOrder) : (type : LeafType) → (type.layout source).Value →
    (type.layout target).Value
  | .plain type, stored => type.convert source target stored
  | .dependency _ _, stored => (DependencyHandle.load source stored).store target
  | .blob _, stored => (BlobHandle.load source stored).store target

end LeafType

namespace Members

/-- The layout of the members in a form. -/
def layout (form : Form) : Members → Layout
  | .nil => .padding 0
  | .leaf traits type rest => .seq (type.layout (traits.orderIn form)) (rest.layout form)
  | .array traits _ _ _ _ rest => .seq (.reflexive (traits.orderIn form)) (rest.layout form)

/-- What the layout of one form holds, as the layout of the other holds it. -/
def convert (source target : Form) : (members : Members) → (members.layout source).Value →
    (members.layout target).Value
  | .nil, _ => ()
  | .leaf traits type rest, stored =>
    (type.convert (traits.orderIn source) (traits.orderIn target) stored.1,
      rest.convert source target stored.2)
  | .array traits _ _ _ _ rest, stored =>
    ((ArrayHandle.load (traits.orderIn source) stored.1).store (traits.orderIn target),
      rest.convert source target stored.2)

/-- The lengths of the arrays. -/
def lengths : (members : Members) → members.Value → List (String × Nat)
  | .nil, _ => []
  | .leaf _ _ rest, value => rest.lengths value.2
  | .array traits _ _ _ _ rest, value =>
    (traits.identifier, value.1.length) :: rest.lengths value.2

end Members

namespace StructType

/-- The layout of the struct in a form. -/
def layout (type : StructType) (form : Form) : Layout := type.members.layout form

/-- The bytes that a value takes in either form, without what its handles stand for. -/
def size (type : StructType) (form : Form) : Nat := (type.layout form).size

end StructType

/-! ### Types of a schema -/

namespace PlainType

/-- The structure of numbers that may be counted. -/
def counted (shape : NumberShape) : Option Nat → NumberShape
  | some count => .array count shape
  | none => shape

/-- The type of a kind of field that is stored as a whole, if what it names is defined. -/
def ofKind? (schema : ClassifiedSchema) : FieldKind → Option PlainType
  | .scalar kind count bounds minimum maximum default defaultSign =>
    let scalar := NumberShape.scalar kind.primitive
    some (.number (counted (if bounds then .bounds scalar else scalar) count)
      { name := kind.name, minimum, maximum, default, defaultSign })
  | .compound math count normalize default defaultSign =>
    let name := if math.component.isFloat then "Float" else "Int16"
    some (.number (counted (.compound math) count) { name, normalize, default, defaultSign })
  | .enum name _ shiftedByOne => (schema.enum? name).map (.enum · shiftedByOne)
  | .bitfield name _ => (schema.bitfield? name).map PlainType.bitfield
  | .index target => some (.index target)
  | .tagId => some .tagId
  | .tagString => some .tagString
  | .fourCC => some .fourCC
  | .padding size => some (.padding size)
  | .dependency .. | .reflexive .. | .blob _ => none

end PlainType

/-- The members of some fields, given the types of elements. -/
def Members.ofFields? (schema : ClassifiedSchema) (element? : String → Option StructType) :
    List ClassifiedField → Option Members
  | [] => some .nil
  | field :: rest => do
    let rest ← ofFields? schema element? rest
    match field.kind with
    | .dependency classes nonNull =>
      return .leaf field.toFieldTraits (.dependency classes nonNull) rest
    | .blob selector => return .leaf field.toFieldTraits (.blob selector) rest
    | .reflexive element minimum maximum stockMaximum =>
      let element ← element? element
      return .array field.toFieldTraits { minimum, maximum, stockMaximum } element.name
        element.title element.members rest
    | kind => return .leaf field.toFieldTraits (.plain (← PlainType.ofKind? schema kind)) rest

namespace ClassifiedSchema

/-- The type of a struct whose arrays are nested at most that deep. -/
def typeWithin? (schema : ClassifiedSchema) : Nat → String → Option StructType
  | 0, _ => none
  | depth + 1, name => do
    let s ← schema.struct? name
    let members ← Members.ofFields? schema (schema.typeWithin? depth) s.fields
    return { name := s.name, title := s.title, members }

/-- The type of a struct, unless it holds an array of itself, directly or not. -/
def type? (schema : ClassifiedSchema) (name : String) : Option StructType :=
  schema.typeWithin? schema.structs.length name

end ClassifiedSchema

end TagSchema
