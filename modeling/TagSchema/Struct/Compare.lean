import TagSchema.Struct.Type

/-!
# Comparing values

Two values are compared member by member. A comparison stops at the first difference, or reports
every one. Members that only bundles have do not count.
-/

namespace TagSchema

/-- How values are compared. -/
structure CompareOptions where
  /-- Whether floating-point numbers may differ a little. -/
  precision : Bool := false
  ignoreVolatile : Bool := false
  /-- Whether to report every difference instead of stopping at the first. -/
  verbose : Bool := false

/-- A reported difference: of a member, or of one of its elements. -/
structure Difference where
  site : Site
  element : Option Nat
  /-- How deep the struct of the member is nested. -/
  depth : Nat

/-- The wording of a difference, indented by two blanks for each level. -/
def Difference.message (difference : Difference) : String :=
  let element := (difference.element.map fun index => s!" #{index}").getD ""
  String.join (List.replicate difference.depth "  ") ++ difference.site.render ++ element ++
    " is different"

/-- The outcome of a comparison. -/
structure Comparison where
  same : Bool
  log : List Difference

namespace Comparison

/-- No difference. -/
def equal : Comparison := { same := true, log := [] }

/-- A test that finds the given difference if it `differs`. -/
def test (options : CompareOptions) (differs : Bool) (difference : Difference) : Comparison :=
  if differs then { same := false, log := if options.verbose then [difference] else [] } else equal

/-- One comparison after another, unless the first one stops. -/
def andThen (options : CompareOptions) (first second : Comparison) : Comparison :=
  if first.same || options.verbose then
    { same := first.same && second.same, log := first.log ++ second.log }
  else first

/-- The comparison of two elements, reported after the differences inside them. -/
def ofElement (options : CompareOptions) (inner : Comparison) (difference : Difference) :
    Comparison :=
  inner.andThen options (test options (!inner.same) difference)

/-- The comparison of pairs of elements, the first at the given index. -/
def ofPairs {α : Type} (options : CompareOptions) (compare : α → α → Comparison)
    (difference : Nat → Difference) : Nat → List (α × α) → Comparison
  | _, [] => equal
  | index, (a, b) :: rest =>
    (ofElement options (compare a b) (difference index)).andThen options
      (ofPairs options compare difference (index + 1) rest)

end Comparison

/-- Whether two values of a member are the same. -/
def LeafType.same (precision : Bool) : (type : LeafType) → type.Value → type.Value → Bool
  | .plain (.number shape _), a, b => shape.sameAs precision a b
  | .plain type, a, b => type.equal a b
  | .dependency _ _, (a : Dependency), (b : Dependency) => decide (a = b)
  | .blob _, (a : Bytes), (b : Bytes) => decide (a = b)

/-- The comparison of the members of a struct at some depth. -/
def Members.compare (options : CompareOptions) (owner : String) (depth : Nat) :
    (members : Members) → members.Value → members.Value → Comparison
  | .nil, _, _ => .equal
  | .leaf traits type rest, a, b =>
    let others := rest.compare options owner depth a.2 b.2
    if traits.cacheOnly || (traits.volatile && options.ignoreVolatile) then others
    else
      (Comparison.test options (!type.same options.precision a.1 b.1)
        ⟨traits.site owner, none, depth⟩).andThen options others
  | .array traits _ name _ element rest, a, b =>
    let others := rest.compare options owner depth a.2 b.2
    if traits.cacheOnly then others
    else
      let site := traits.site owner
      let lengths := Comparison.test options (a.1.length ≠ b.1.length) ⟨site, none, depth⟩
      let elements := Comparison.ofPairs options (element.compare options name (depth + 1))
        (fun index => ⟨site, some index, depth⟩) 0 (a.1.zip b.1)
      (lengths.andThen options elements).andThen options others

/-- The comparison of two values. -/
def StructType.compare (type : StructType) (options : CompareOptions) (a b : type.Value) :
    Comparison :=
  type.members.compare options type.name 0 a b

end TagSchema
