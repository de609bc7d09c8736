import TagSchema.Bundle.Workload
import TagSchema.Containment
import TagSchema.Number.Normal

/-!
# Violations

What a build checks about the members of a struct before it writes them: each check finds at most
one violation.
-/

namespace TagSchema.Violation

/-- A number outside its limits. -/
def ofRange? (minimum maximum : Option Binary64) (value : Binary64) : Option Violation :=
  let x := value.toFloat
  match minimum.filter (x < ·.toFloat), maximum.filter (·.toFloat < x) with
  | some limit, _ => some (.belowMinimum limit value)
  | none, some limit => some (.aboveMaximum limit value)
  | none, none => none

/-- A value that an enum does not have, or one that it excludes. -/
def ofEnum? (count : Nat) (excluded : List Nat) (value : Nat) : Option Violation :=
  if count ≤ value then some (.enumOutOfRange value count)
  else if excluded.contains value then some (.enumExcluded value)
  else none

/-- A value that ought to have length one. -/
def ofNormal? (type : MathType) (value : type.Value) : Option Violation :=
  if type.isNormalized value then none
  else some (.notNormal type.description (type.describeNormal value))

/-- An index that passes the array it points into. -/
def ofIndex? (stack : ContainmentStack) (structs : List String) (member : String) (index : Nat) :
    Option Violation :=
  (stack.passedLength? structs member index).map fun length =>
    .invalidIndex structs.head? member index length

end TagSchema.Violation
