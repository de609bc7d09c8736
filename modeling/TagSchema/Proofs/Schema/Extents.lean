import Mathlib.Algebra.GroupWithZero.Nat
import Mathlib.Algebra.Order.Group.Nat
import Mathlib.Algebra.Order.BigOperators.Group.List
import TagSchema.Schema.Classify

/-!
# Sizes without bound

Sizes are words and wrap around, so laws about sums of sizes are about the words, or else about
structs that are not too large. Here the bytes of a field and of a struct are counted without bound.
Where a word can hold the count, the size that was computed is the count
(`FieldKind.size_eq_extent`).
-/

namespace TagSchema

namespace Size

/-- A sum that a word can hold is exact. -/
theorem add_of_lt {a b : Nat} (h : a + b < UInt64.size) : add a b = a + b := Nat.mod_eq_of_lt h

/-- It does not matter at which step a product wraps around. -/
theorem mul_mul (a b c : Nat) : mul (mul a b) c = a * b * c % UInt64.size := Nat.mod_mul_mod ..

end Size

namespace FieldKind

/-- The bytes that a field takes, counted without bound. -/
def extent : FieldKind → Nat
  | .scalar number count bounds .. =>
    number.primitive.size * (if bounds then 2 else 1) * count.getD 1
  | .compound math count .. => math.component.size * math.count * count.getD 1
  | kind => kind.size

/-- A size that a word can hold is exact. -/
theorem size_eq_extent {kind : FieldKind} (h : kind.extent < UInt64.size) :
    kind.size = kind.extent := by
  cases kind with
  | scalar | compound => exact (Size.mul_mul ..).trans (Nat.mod_eq_of_lt h)
  | _ => rfl

end FieldKind

namespace ClassifiedStruct

/-- The bytes that the fields of a struct take, counted without bound. -/
def extent (s : ClassifiedStruct) : Nat := (s.fields.map (·.kind.extent)).sum

/-- A word can hold the size of the struct, so no sum and no product on the way wraps around. A
build that checks for overflow accepts no other struct. -/
def InRange (s : ClassifiedStruct) : Prop := s.extent < UInt64.size

/-- No field is larger than its struct. -/
theorem InRange.field {s : ClassifiedStruct} (inRange : s.InRange) {field : ClassifiedField}
    (h : field ∈ s.fields) : field.kind.extent < UInt64.size := by
  have mem : field.kind.extent ∈ s.fields.map (·.kind.extent) :=
    List.mem_map_of_mem (f := (·.kind.extent)) h
  exact Nat.lt_of_le_of_lt (List.le_sum_of_mem mem) inRange

end ClassifiedStruct

end TagSchema
