import TagSchema.Layout
import TagSchema.Number.MathType

/-!
# Numbers with structure

A numeric member is a scalar, a compound, a pair of bounds, or an array of any of these. One
description of the structure gives its stored form, its components in order, the editing of one
component, and comparison.
-/

namespace TagSchema

/-- The structure of a numeric value. -/
inductive NumberShape where
  | scalar (type : Primitive)
  | compound (type : MathType)
  /-- A lower and an upper bound. -/
  | bounds (of : NumberShape)
  | array (count : Nat) (of : NumberShape)
  deriving DecidableEq, Inhabited

namespace NumberShape

/-- A value of the given structure. -/
def Value : NumberShape → Type
  | .scalar type => type.Word
  | .compound type => type.Value
  | .bounds s => s.Value × s.Value
  | .array count s => Vector s.Value count

/-- The number of scalar components. -/
def count : NumberShape → Nat
  | .scalar _ => 1
  | .compound type => type.count
  | .bounds s => 2 * s.count
  | .array count s => count * s.count

/-- The primitive type of every component. -/
def component : NumberShape → Primitive
  | .scalar type => type
  | .compound type => type.component
  | .bounds s => s.component
  | .array _ s => s.component

/-! ### Stored form -/

/-- The layout of a value whose words have the given byte order. -/
def layout (order : ByteOrder) : NumberShape → Layout
  | .scalar type => .word order type
  | .compound type => .words order type.component type.count
  | .bounds s => .array 2 (s.layout order)
  | .array count s => .array count (s.layout order)

/-- A value as its layout holds it. -/
def store (order : ByteOrder) : (s : NumberShape) → s.Value → (s.layout order).Value
  | .scalar _, value => value
  | .compound _, value => value
  | .bounds s, (value : s.Value × s.Value) => #v[s.store order value.1, s.store order value.2]
  | .array _ s, (value : Vector s.Value _) => value.map (s.store order)

/-- The value that a layout holds. -/
def load (order : ByteOrder) : (s : NumberShape) → (s.layout order).Value → s.Value
  | .scalar _, value => value
  | .compound _, value => value
  | .bounds s, (value : Vector (s.layout order).Value 2) =>
    (s.load order value[0], s.load order value[1])
  | .array _ s, (value : Vector (s.layout order).Value _) => value.map (s.load order)

/-- The value with all bits zero. -/
def zero : (s : NumberShape) → s.Value
  | .scalar _ => (0 : BitVec _)
  | .compound type => Vector.replicate type.count 0
  | .bounds s => (s.zero, s.zero)
  | .array count s => Vector.replicate count s.zero

/-! ### Components -/

/-- The words of a value, in declaration order. -/
def words : (s : NumberShape) → s.Value → List s.component.Word
  | .scalar _, value => [value]
  | .compound _, value => Vector.toList value
  | .bounds s, value => s.words value.1 ++ s.words value.2
  | .array _ s, (value : Vector s.Value _) => value.toList.flatMap s.words

/-- The components of a value as double-precision numbers. -/
def components (s : NumberShape) (value : s.Value) : List Float :=
  (s.words value).map s.component.toFloat

/-- The part that has a component, and the component within it, for parts with the given numbers of
components. Each part that is passed over is taken off the index. -/
def locate : List Nat → Nat → Option (Nat × Nat)
  | [], _ => none
  | length :: rest, index =>
    if index < length then some (0, index)
    else (locate rest (index - length)).map fun (part, inner) => (part + 1, inner)

/-- The value with one component replaced by the word nearest to a number, if it has that
component. -/
def setComponent : (s : NumberShape) → Nat → Float → s.Value → Option s.Value
  | .scalar type, index, number, _ => if index = 0 then some (type.ofFloat number) else none
  | .compound type, index, number, (value : type.Value) =>
    if h : index < type.count then some (value.set index (type.component.ofFloat number) h)
    else none
  | .bounds s, index, number, value =>
    match locate [(s.components value.1).length, (s.components value.2).length] index with
    | some (0, inner) => (s.setComponent inner number value.1).map fun lower => (lower, value.2)
    | some (_, inner) => (s.setComponent inner number value.2).map fun upper => (value.1, upper)
    | none => none
  | .array count s, index, number, (value : Vector s.Value count) =>
    match locate (value.toList.map fun part => (s.components part).length) index with
    | some (part, inner) =>
      if h : part < count then
        (s.setComponent inner number value[part]).map fun edited => value.set part edited h
      else none
    | none => none

/-- The value with every word changed. -/
def mapWords : (s : NumberShape) → (s.component.Word → s.component.Word) → s.Value → s.Value
  | .scalar _, change, value => change value
  | .compound _, change, value => Vector.map change value
  | .bounds s, change, value => (s.mapWords change value.1, s.mapWords change value.2)
  | .array _ s, change, (value : Vector s.Value _) => value.map (s.mapWords change)

/-- The value whose components are nearest to the given numbers, one after another; zero where there
are too few of them. -/
def ofNumbers : (s : NumberShape) → List Float → s.Value
  | .scalar type, numbers => type.ofFloat (numbers.headD 0)
  | .compound type, numbers =>
    Vector.ofFn fun i : Fin type.count => type.component.ofFloat (numbers[i.val]?.getD 0)
  | .bounds s, numbers => (s.ofNumbers numbers, s.ofNumbers (numbers.drop s.count))
  | .array count s, numbers =>
    (Vector.ofFn fun i : Fin count => s.ofNumbers (numbers.drop (i * s.count)))

/-! ### Defaults -/

/-- Whether a number counts as not set: zero, or not positive where the sign counts. -/
def isUnset (sign : Bool) (number : Float) : Bool :=
  if sign then decide (number ≤ 0) else number == 0

/-- The value with defaults in the place of what is not set. The items of an array have a default
each; any other value is replaced as a whole when no component is set. -/
def withDefault (sign : Bool) : (s : NumberShape) → List Float → s.Value → s.Value
  | .array _ s, numbers, (value : Vector s.Value _) =>
    Vector.mapFinIdx value fun i item _ => s.withDefault sign (numbers.drop (i * s.count)) item
  | s, numbers, value =>
    if numbers.isEmpty || !(s.components value).all (isUnset sign) then value
    else s.ofNumbers numbers

/-! ### Comparison -/

/-- The largest difference that does not count when values are compared with precision. -/
def comparePrecision : Float := 0.000001

/-- Whether two values are equal component by component, or nearly so for floating-point components
when `precision` is set. -/
def sameAs (precision : Bool) (s : NumberShape) (a b : s.Value) : Bool :=
  ((s.words a).zip (s.words b)).all fun (x, y) =>
    s.component.sameWithin (if precision then some comparePrecision else none) x y

/-! ### Sizes -/

theorem size_layout (order : ByteOrder) (s : NumberShape) :
    (s.layout order).size = s.count * s.component.size := by
  induction s with
  | scalar => simp [layout, Layout.size, count, component]
  | compound => simp [layout, Layout.words, Layout.size, count, component]
  | bounds s ih => simp [layout, Layout.size, count, component, ih, Nat.mul_assoc]
  | array n s ih => simp [layout, Layout.size, count, component, ih, Nat.mul_assoc]

end NumberShape

namespace Primitive

/-- Whether one word stands for a smaller number than another. -/
def less (type : Primitive) (a b : type.Word) : Bool :=
  if type.isFloat then decide (type.toFloat a < type.toFloat b)
  else decide (type.toInt a < type.toInt b)

/-- Whether a word lies outside its limits. Mending moves it to the limit that it passes. -/
def fixRange (type : Primitive) (minimum maximum : Option type.Word) (fix : Bool)
    (word : type.Word) : Bool × type.Word :=
  match minimum.filter (type.less word), maximum.filter (type.less · word) with
  | some limit, _ => (true, if fix then limit else word)
  | none, some limit => (true, if fix then limit else word)
  | none, none => (false, word)

end Primitive

end TagSchema
