import TagSchema.FixedText
import TagSchema.Tag.Error
import TagSchema.Word

/-!
# Layouts

A layout describes a run of bytes: words in a byte order, arrays, fixed text, padding, and one
layout after another. Reading and writing follow the description, and a layout of the opposite byte
order holds the same value.
-/

namespace TagSchema

/-- One of the two forms of tag data. -/
inductive Form where
  | file
  /-- The form in a bundle. -/
  | packed
  deriving DecidableEq

/-- The byte order of words in a form. -/
def Form.order : Form → ByteOrder
  | .file => .big
  | .packed => .little

/-- The description of a run of bytes. -/
inductive Layout where
  | word (order : ByteOrder) (type : Primitive)
  | array (count : Nat) (element : Layout)
  | text
  /-- Bytes that are always written as zero. -/
  | padding (count : Nat)
  | seq (first second : Layout)

namespace Layout

/-- The length of the run. -/
def size : Layout → Nat
  | .word _ type => type.size
  | .array count element => count * element.size
  | .text => 32
  | .padding count => count
  | .seq first second => first.size + second.size

/-- What a run with this layout holds. Padding holds nothing. -/
def Value : Layout → Type
  | .word _ type => type.Word
  | .array count element => Vector element.Value count
  | .text => FixedText
  | .padding _ => Unit
  | .seq first second => first.Value × second.Value

/-- The value held by the first bytes. -/
def decode : (layout : Layout) → Bytes → layout.Value
  | .word order type, bytes => type.decode order bytes
  | .array count element, bytes =>
    (Vector.ofFn fun i : Fin count => element.decode (bytes.drop (i * element.size)))
  | .text, bytes => FixedText.ofBytes bytes
  | .padding _, _ => ()
  | .seq first second, bytes => (first.decode bytes, second.decode (bytes.drop first.size))

/-- The bytes that hold a value. -/
def encode : (layout : Layout) → layout.Value → Bytes
  | .word order type, value => type.encode order value
  | .array _ element, (value : Vector element.Value _) => value.toList.flatMap element.encode
  | .text, (value : FixedText) => value.bytes
  | .padding count, _ => Bytes.zeros count
  | .seq first second, value => first.encode value.1 ++ second.encode value.2

/-- The value at the start of a buffer. -/
def read (layout : Layout) (bytes : Bytes) : Except TagError layout.Value :=
  if bytes.length < layout.size then .error (.outOfBounds (.buffer layout.size bytes.length))
  else .ok (layout.decode bytes)

/-- A buffer with the value written over its start. -/
def write (layout : Layout) (value : layout.Value) (out : Bytes) : Except TagError Bytes :=
  if out.length < layout.size then .error (.outOfBounds (.buffer layout.size out.length))
  else .ok (out.overwrite 0 (layout.encode value))

/-- The value of a run of zeros. -/
def zero (layout : Layout) : layout.Value := layout.decode (Bytes.zeros layout.size)

/-- The same layout with every word in the opposite byte order. -/
def opposite : Layout → Layout
  | .word order type => .word order.opposite type
  | .array count element => .array count element.opposite
  | .text => .text
  | .padding count => .padding count
  | .seq first second => .seq first.opposite second.opposite

/-- A value as one of the opposite layout. Every word keeps its bits. -/
def transpose : (layout : Layout) → layout.Value → layout.opposite.Value
  | .word _ _, value => value
  | .array _ element, (value : Vector element.Value _) => value.map element.transpose
  | .text, value => value
  | .padding _, _ => ()
  | .seq first second, value => (first.transpose value.1, second.transpose value.2)

/-- The words of a value as numbers, in their order. -/
def numbers : (layout : Layout) → layout.Value → List Nat
  | .word _ _, (value : BitVec _) => [value.toNat]
  | .array _ element, (value : Vector element.Value _) => value.toList.flatMap element.numbers
  | .text, _ => []
  | .padding _, _ => []
  | .seq first second, value => first.numbers value.1 ++ second.numbers value.2

/-! ### Handles -/

/-- A number of words of one kind. -/
def words (order : ByteOrder) (type : Primitive) (count : Nat) : Layout :=
  .array count (.word order type)

/-- The stored form of a dependency: class, pointer to the path, length of the path, identifier. -/
def dependency (order : ByteOrder) : Layout := words order .u32 4

/-- The stored form of an array: count, pointer, unused. -/
def reflexive (order : ByteOrder) : Layout := words order .u32 3

/-- The stored form of a blob: size, external flag, file offset, pointer, unused. -/
def blob (order : ByteOrder) : Layout := words order .u32 5

/-! ### Sizes -/

theorem size_opposite (layout : Layout) : layout.opposite.size = layout.size := by
  induction layout with
  | word => rfl
  | array count element ih => simp [opposite, size, ih]
  | text => rfl
  | padding => rfl
  | seq first second ih₁ ih₂ => simp [opposite, size, ih₁, ih₂]

end Layout

end TagSchema
