import TagSchema.Decimal.Notation
import TagSchema.Text.Quoted

/-!
# Failures of a schema

What can be wrong with a schema. Each failure names the struct and the field that it was found in,
where there is one.
-/

namespace TagSchema

/-- What can be wrong with one field. -/
inductive FieldFault where
  | emptyPadding
  | noName
  | nameReused
  | nameOfAncestor
  | zeroCount
  | misplacedLimits
  | misplacedBounds
  | misplacedCount
  | misplacedNormalize
  | misplacedDefault
  | countedBounds
  | countedDefault
  | defaultCount (expected : Nat)
  | noElement
  | unknownDataFile (file : String)
  | unknownTitle
  | unfitTitle

/-- The wording of a fault. -/
def FieldFault.message : FieldFault → String
  | .emptyPadding => "padding needs a non-zero size"
  | .noName => "field has no name"
  | .nameReused => "member name is used more than once"
  | .nameOfAncestor => "member name is also used by an ancestor"
  | .zeroCount => "count must be at least 1"
  | .misplacedLimits => "minimum and maximum only apply to numbers and arrays"
  | .misplacedBounds => "bounds only apply to numbers"
  | .misplacedCount => "only numbers and math types can be counted"
  | .misplacedNormalize => "only vectors, quaternions and planes can be normalized"
  | .misplacedDefault => "only numbers and math types can have defaults"
  | .countedBounds => "bounds cannot be counted"
  | .countedDefault => "counted math types cannot have defaults"
  | .defaultCount expected => s!"default needs 1 or {expected} values"
  | .noElement => "array has no element struct"
  | .unknownDataFile file => s!"unknown external data file {file}"
  | .unknownTitle => "title names no field"
  | .unfitTitle => "title must be a string, dependency or enum"

/-- What can be wrong with a schema. -/
inductive SchemaError where
  /-- A file or directory could not be read, for the given reason. -/
  | unreadable (path reason : String)
  | unparsable (path : String)
  | duplicate (name : String)
  | widthOverflow (name : String) (count width : Nat)
  | invalidWidth (name : String) (width : Nat)
  | defaultOnCacheOnly (owner field : String)
  | unknownType (owner field typeName : String)
  | unknownParent (owner parent : String)
  | unknownStruct (owner field struct : String)
  | unknownClass (owner field tagClass : String)
  | unresolvedIndex (owner field target reflexive : String)
  | invalidField (owner field : String) (fault : FieldFault)
  /-- The structs of a cycle, from the first one visited on. -/
  | circularDependency (cycle : List String)

/-- The wording of a failure. -/
def SchemaError.message : SchemaError → String
  | .unreadable path reason => s!"failed to read {path}: {reason}"
  | .unparsable path => s!"failed to parse {path}: not a valid list of definitions"
  | .duplicate name => s!"{name} is defined more than once"
  | .widthOverflow name count width =>
    s!"{name} has {count} options which do not fit in {width} bits"
  | .invalidWidth name width => s!"{name} has an invalid width of {width} bits"
  | .defaultOnCacheOnly owner field => s!"{owner}::{field} has a default value but is cache only"
  | .unknownType owner field typeName => s!"{owner}::{field} has unknown type {typeName}"
  | .unknownParent owner parent => s!"{owner} inherits from unknown struct {parent}"
  | .unknownStruct owner field struct => s!"{owner}::{field} references unknown struct {struct}"
  | .unknownClass owner field tagClass => s!"{owner}::{field} allows unknown tag class {tagClass}"
  | .unresolvedIndex owner field target reflexive =>
    s!"{owner}::{field} indexes {target}::{reflexive} which is not an array"
  | .invalidField owner field fault => s!"{owner}::{field} is invalid: {fault.message}"
  | .circularDependency cycle => s!"circular dependency detected: {Text.quotedList cycle}"

/-- What caused a failure, outermost first. -/
def SchemaError.causes : SchemaError → List String
  | .unreadable _ reason => [reason]
  | _ => []

end TagSchema
