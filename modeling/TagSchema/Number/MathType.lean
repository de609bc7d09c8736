import TagSchema.Word

/-!
# Compound math types

Points, vectors, rotations, colours, planes and rectangles: runs of components of one primitive
type. Some of them have a unit-length part.
-/

namespace TagSchema

/-- A compound math type. -/
inductive MathType where
  | colorARGB | colorRGB | euler2D | euler3D | matrix | plane2D | plane3D | point2D | point2DInt
  | point3D | quaternion | rectangle2D | vector2D | vector3D
  deriving DecidableEq

namespace MathType

/-- All compound types. -/
def all : List MathType :=
  [.colorARGB, .colorRGB, .euler2D, .euler3D, .matrix, .plane2D, .plane3D, .point2D, .point2DInt,
    .point3D, .quaternion, .rectangle2D, .vector2D, .vector3D]

/-- The name of a type. -/
def name : MathType → String
  | .colorARGB => "ColorARGB" | .colorRGB => "ColorRGB" | .euler2D => "Euler2D"
  | .euler3D => "Euler3D" | .matrix => "Matrix" | .plane2D => "Plane2D" | .plane3D => "Plane3D"
  | .point2D => "Point2D" | .point2DInt => "Point2DInt" | .point3D => "Point3D"
  | .quaternion => "Quaternion" | .rectangle2D => "Rectangle2D" | .vector2D => "Vector2D"
  | .vector3D => "Vector3D"

/-- The type of a name. -/
def ofName? (name : String) : Option MathType := all.find? (·.name = name)

/-- The type of every component. -/
def component : MathType → Primitive
  | .point2DInt | .rectangle2D => .i16
  | _ => .f32

/-- The number of components. -/
def count : MathType → Nat
  | .euler2D | .point2D | .point2DInt | .vector2D => 2
  | .colorRGB | .euler3D | .plane2D | .point3D | .vector3D => 3
  | .colorARGB | .plane3D | .quaternion | .rectangle2D => 4
  | .matrix => 9

/-- Whether the type has a part of unit length. -/
def normalizable : MathType → Bool
  | .plane2D | .plane3D | .quaternion | .vector2D | .vector3D => true
  | _ => false

/-- How many leading components make up the part of unit length: all of them, but for the distance
of a plane. -/
def normalCount : MathType → Nat
  | .plane2D => 2
  | .plane3D => 3
  | type => type.count

/-- What values of the type are called in messages about their length. -/
def description : MathType → String
  | .vector2D => "2D vector"
  | .vector3D => "3D vector"
  | .quaternion => "quaternion"
  | .plane2D => "2D plane"
  | .plane3D => "3D plane"
  | type => type.name

/-- A value of the type. -/
abbrev Value (type : MathType) : Type := Vector type.component.Word type.count

end MathType

end TagSchema
