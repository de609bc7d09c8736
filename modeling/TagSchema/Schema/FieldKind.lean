import TagSchema.Number.MathType
import TagSchema.Tag.DataSource
import TagSchema.Text.Hex

/-!
# Kinds of fields

What a field is once its type name and flags have been understood. Everything that is emitted or
interpreted later looks at the kind alone.
-/

namespace TagSchema

/-! ### Sizes

Sizes and offsets are machine words of 64 bits. A result that does not fit into one wraps around;
only a build that checks for overflow stops there. -/

namespace Size

/-- The sum of two sizes. -/
def add (a b : Nat) : Nat := (a + b) % UInt64.size

/-- The size of some items of one size. -/
def mul (a b : Nat) : Nat := (a * b) % UInt64.size

end Size

/-! ### Kinds -/

/-- The numeric types of a schema. -/
inductive NumberKind where
  | int8 | uint8 | int16 | uint16 | int32 | uint32 | float | angle | fraction
  deriving DecidableEq

namespace NumberKind

/-- All numeric types. -/
def all : List NumberKind :=
  [.int8, .uint8, .int16, .uint16, .int32, .uint32, .float, .angle, .fraction]

/-- The name of a type in a schema. -/
def typeName : NumberKind → String
  | .int8 => "int8" | .uint8 => "uint8" | .int16 => "int16" | .uint16 => "uint16"
  | .int32 => "int32" | .uint32 => "uint32" | .float => "float" | .angle => "Angle"
  | .fraction => "Fraction"

/-- The type of a name. -/
def ofTypeName? (name : String) : Option NumberKind := all.find? (·.typeName = name)

/-- The name of a type among number types. -/
def name : NumberKind → String
  | .int8 => "Int8" | .uint8 => "UInt8" | .int16 => "Int16" | .uint16 => "UInt16"
  | .int32 => "Int32" | .uint32 => "UInt32" | .float => "Float" | .angle => "Angle"
  | .fraction => "Fraction"

/-- The primitive that stores a number. -/
def primitive : NumberKind → Primitive
  | .int8 => .i8 | .uint8 => .u8 | .int16 => .i16 | .uint16 => .u16
  | .int32 => .i32 | .uint32 => .u32 | .float | .angle | .fraction => .f32

end NumberKind

/-- The array of an enclosing struct that an index points into. -/
structure IndexTarget where
  struct : String
  member : String
  /-- The structs that have the array: the target struct and those that inherit from it. -/
  tags : List String
  deriving DecidableEq

/-- The kind of a field. -/
inductive FieldKind where
  | scalar (number : NumberKind) (count : Option Nat) (bounds : Bool)
      (minimum maximum : Option Binary64) (default : List Binary64) (defaultSign : Bool)
  | compound (math : MathType) (count : Option Nat) (normalize : Bool)
      (default : List Binary64) (defaultSign : Bool)
  | enum (name : String) (width : Nat) (shiftedByOne : Bool)
  | bitfield (name : String) (width : Nat)
  /-- A reference to a tag of one of the classes, or of any class if there are none. -/
  | dependency (classes : List String) (nonNull : Bool)
  /-- An array of structs. -/
  | reflexive (element : String) (minimum maximum : Nat) (stockMaximum : Option Nat)
  | blob (selector : BlobSelector)
  | index (target : Option IndexTarget)
  | tagId
  | tagString
  | fourCC
  | padding (size : Nat)
  deriving DecidableEq

namespace FieldKind

/-- The bytes that a field takes in both layouts. -/
def size : FieldKind → Nat
  | .scalar number count bounds .. =>
    Size.mul (Size.mul number.primitive.size (if bounds then 2 else 1)) (count.getD 1)
  | .compound math count .. => Size.mul (Size.mul math.component.size math.count) (count.getD 1)
  | .enum _ width _ | .bitfield _ width => width / 8
  | .dependency .. => 16
  | .reflexive .. => 12
  | .blob _ => 20
  | .index _ => 2
  | .tagId | .fourCC => 4
  | .tagString => 32
  | .padding size => size

/-- Whether the field is padding. -/
def isPadding : FieldKind → Bool
  | .padding _ => true
  | _ => false

/-- A type name, counted if there is a count. -/
def counted (base : String) : Option Nat → String
  | some n => s!"[{base}; {n}]"
  | none => base

/-- A short description of the kind. -/
def label : FieldKind → String
  | .scalar number count bounds .. =>
    counted (if bounds then s!"Bounds<{number.primitive.name}>" else number.primitive.name) count
  | .compound math count .. => counted math.name count
  | .enum name .. => s!"enum {name}"
  | .bitfield name _ => s!"bitfield {name}"
  | .dependency [] _ => "dependency *"
  | .dependency classes _ => "dependency " ++ String.intercalate "|" classes
  | .reflexive element .. => s!"array {element}"
  | .blob _ => "blob"
  | .index (some target) => s!"index {target.struct}::{target.member}"
  | .index none => "index"
  | .tagId => "tag id"
  | .tagString => "string"
  | .fourCC => "fourcc"
  | .padding size => s!"pad {Text.hex size}"

end FieldKind

end TagSchema
