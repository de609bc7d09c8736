import TagSchema.Bytes
import TagSchema.Decimal.Notation

/-!
# Words

A word is a number of one of ten primitive types. It is kept as its bits, so that reading, writing
and changing the byte order lose nothing, the payload of a NaN included. Conversion to and from
double-precision numbers is what arithmetic on words goes through.
-/

namespace TagSchema

/-- The primitive number types. -/
inductive Primitive where
  | u8 | i8 | u16 | i16 | u32 | i32 | u64 | i64 | f32 | f64
  deriving DecidableEq, Repr, Inhabited

namespace Primitive

/-- Bytes of a word. -/
def size : Primitive → Nat
  | .u8 | .i8 => 1
  | .u16 | .i16 => 2
  | .u32 | .i32 | .f32 => 4
  | .u64 | .i64 | .f64 => 8

/-- Whether words of the type are floating-point numbers. -/
def isFloat : Primitive → Bool
  | .f32 | .f64 => true
  | _ => false

/-- Whether words of the type are signed whole numbers. -/
def isSigned : Primitive → Bool
  | .i8 | .i16 | .i32 | .i64 => true
  | _ => false

/-- The name of the type. -/
def name : Primitive → String
  | .u8 => "u8" | .i8 => "i8" | .u16 => "u16" | .i16 => "i16" | .u32 => "u32"
  | .i32 => "i32" | .u64 => "u64" | .i64 => "i64" | .f32 => "f32" | .f64 => "f64"

/-- All types. -/
def all : List Primitive := [.u8, .i8, .u16, .i16, .u32, .i32, .u64, .i64, .f32, .f64]

/-- The type of a name. -/
def ofName? (name : String) : Option Primitive := all.find? (·.name = name)

/-- The unsigned type of the given width in bits: eight, sixteen or thirty-two. -/
def ofWidth (width : Nat) : Primitive :=
  if width = 8 then .u8 else if width = 16 then .u16 else .u32

/-- The bits of a word. -/
abbrev Word (type : Primitive) : Type := BitVec (8 * type.size)

end Primitive

/-- The order in which the bytes of a word are stored. -/
inductive ByteOrder where
  | big
  | little
  deriving DecidableEq, Repr, Inhabited

/-- The other order. -/
def ByteOrder.opposite : ByteOrder → ByteOrder
  | .big => .little
  | .little => .big

namespace Primitive

/-- The stored bytes of a word. -/
def encode (type : Primitive) (order : ByteOrder) (word : type.Word) : Bytes :=
  let little := Bytes.ofNatLittle type.size word.toNat
  match order with
  | .little => little
  | .big => little.reverse

/-- The word stored in the first bytes. -/
def decode (type : Primitive) (order : ByteOrder) (bytes : Bytes) : type.Word :=
  let stored := bytes.take type.size
  BitVec.ofNat _ (Bytes.toNatLittle (match order with | .little => stored | .big => stored.reverse))

/-- The whole number that a word of a whole type stands for. -/
def toInt (type : Primitive) (word : type.Word) : Int :=
  if type.isSigned then word.toInt else word.toNat

/-- A whole number as a double-precision one. -/
def floatOfInt (value : Int) : Float := Float.ofInt value

/-- The number that a word stands for, as a double-precision one. -/
def toFloat : (type : Primitive) → type.Word → Float
  | .f32, word => Float.ofBits (BinaryFormat.single.convert .double word.toNat).toUInt64
  | .f64, word => Float.ofBits word.toNat.toUInt64
  | type, word => floatOfInt (type.toInt word)

/-- A double-precision number without its fraction. -/
def truncate (negative : Bool) (significand : Nat) (exponent : Int) : Int :=
  let magnitude : Nat :=
    if 0 ≤ exponent then significand <<< exponent.toNat else significand >>> (-exponent).toNat
  if negative then -magnitude else magnitude

/-- The least and the greatest number of a whole type. -/
def range (type : Primitive) : Int × Int :=
  let count : Nat := 1 <<< (8 * type.size)
  if type.isSigned then (-(count / 2), count / 2 - 1) else (0, count - 1)

/-- The whole number of a type nearest to the truncated value; zero for NaN. -/
def saturate (type : Primitive) (value : Binary64) : Int :=
  let (least, greatest) := type.range
  match BinaryFormat.double.read value.bits.toNat with
  | .nan => 0
  | .infinite negative => if negative then least else greatest
  | .finite negative significand exponent _ =>
    max least (min greatest (truncate negative significand exponent))

/-- The word nearest to a double-precision number: rounded for floating point, truncated and kept in
range for whole numbers. -/
def ofFloat : (type : Primitive) → Float → type.Word
  | .f32, value => BitVec.ofNat _ (BinaryFormat.double.convert .single value.toBits.toNat)
  | .f64, value => BitVec.ofNat _ value.toBits.toNat
  | type, value => BitVec.ofInt _ (type.saturate (.ofFloat value))

/-- The spelling of a word. -/
def render (style : DecimalStyle) : (type : Primitive) → type.Word → String
  | .f32, word => style.render32 word.toNat
  | .f64, word => style.render64 ⟨word.toNat.toUInt64⟩
  | type, word => toString (type.toInt word)

/-- Whether two words stand for numbers equal up to the given distance; floating-point zero equals
its negative, and NaN equals nothing. -/
def sameWithin (type : Primitive) (distance : Option Float) (a b : type.Word) : Bool :=
  if type.isFloat then
    let x := type.toFloat a
    let y := type.toFloat b
    x == y || (match distance with | some d => (x - y).abs ≤ d | none => false)
  else a == b

end Primitive

end TagSchema
