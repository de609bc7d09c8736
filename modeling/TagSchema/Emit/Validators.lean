import TagSchema.Emit.Snippet
import TagSchema.Emit.Writer

/-!
# Emitted validators

The code that looks for broken members, mends them, refactors references and compares values. A
traversal says whether it found anything: it stops at the first finding, or mends each one and goes
on.
-/

namespace TagSchema.Emit.Validators

/-- A test of a traversal. -/
structure Check where
  test : String
  /-- The items that the test is made for, and the name it has for one of them. -/
  items : Option (String × String) := none
  /-- What mends a finding, unless the test itself does. -/
  correction : Option String := none

namespace Check

/-- The test of one thing. -/
def once (test : String) : Check := { test }

/-- The test of each item. -/
def each (binding items test : String) : Check := { test, items := some (binding, items) }

/-- The steps of a check. -/
def steps (check : Check) : List Step :=
  let body :=
    braces s!"if {check.test}" (
      braces "if !fix" [.line "return true;"] "" ++
      (match check.correction with
        | some correction => [.line correction]
        | none => []) ++
      [.line "found = true;"]) ""
  match check.items with
  | some (binding, items) => braces s!"for {binding} in {items}" body ""
  | none => body

end Check

/-- The body of a traversal that makes the given checks. -/
def traversalBody (checks : List Check) : List Step :=
  if checks.isEmpty then [.line "false"]
  else .line "let mut found = false;" :: checks.flatMap Check.steps ++ [.line "found"]

/-- The checks of the elements of every array by a method of theirs. -/
def elementChecks (s : ClassifiedStruct) (call : String) : List Check :=
  s.arrays.map fun (array, _) =>
    .each "element" s!"&mut self.{array.identifier}" s!"element.{call}"

/-- A traversal that makes some checks of each member and then goes into every array. -/
def traversal (name : String) (checks : ClassifiedField → List Check) (s : ClassifiedStruct) :
    List Step :=
  method s!"pub fn {name}(&mut self, fix: bool) -> bool"
    (traversalBody (s.members.flatMap checks ++ elementChecks s s!"{name}(fix)"))

/-! ### Checks -/

/-- The checks that a number lies within its limits. -/
def rangeChecks (field : ClassifiedField) : List Check :=
  match field.kind with
  | .scalar number count bounds minimum maximum .. =>
    let limit (value : Option Binary64) : String :=
      match value with
      | some value => s!"Some({numberLiteral value number.primitive.isFloat})"
      | none => "None"
    let test (target : String) : String :=
      s!"fix_range({target}, {limit minimum}, {limit maximum}, fix)"
    let name := field.identifier
    if minimum.isNone && maximum.isNone then []
    else if bounds then
      [.once (test s!"&mut self.{name}.from"), .once (test s!"&mut self.{name}.to")]
    else if count.isSome then [.each "value" s!"&mut self.{name}" (test "value")]
    else [.once (test s!"&mut self.{name}")]
  | _ => []

/-- The check that a reference has an allowed class. -/
def referenceChecks (field : ClassifiedField) : List Check :=
  match field.kind with
  | .dependency classes _ =>
    if classes.isEmpty then []
    else [.once s!"fix_reference(&mut self.{field.identifier}, {classList classes}, fix)"]
  | _ => []

/-- The checks that a vector has length one. -/
def normalChecks (field : ClassifiedField) : List Check :=
  match field.kind with
  | .compound _ none true .. => [.once s!"fix_normal(&mut self.{field.identifier}, fix)"]
  | .compound _ (some _) true .. =>
    [.each "value" s!"&mut self.{field.identifier}" "fix_normal(value, fix)"]
  | _ => []

/-- The check that an enum has one of its values. -/
def enumChecks (field : ClassifiedField) : List Check :=
  match field.kind with
  | .enum name .. =>
    [{ test := s!"u32::from(self.{field.identifier}.0) >= {name}::COUNT"
       correction := some s!"self.{field.identifier} = {name}::default();" }]
  | _ => []

/-- The check that a reference has no upper-case path. -/
def uppercaseChecks (field : ClassifiedField) : List Check :=
  match field.kind with
  | .dependency .. => [.once s!"fix_uppercase(&mut self.{field.identifier}, fix)"]
  | _ => []

/-- The check that an index lies within the array that it points into. -/
def indexChecks (field : ClassifiedField) : List Check :=
  match field.kind with
  | .index (some target) =>
    [{ test := s!"index_out_of_range(&stack, self.{field.identifier}, {structTags target.tags}, " ++
        s!"{stringLiteral target.member}).is_some()"
       correction := some s!"self.{field.identifier} = NULL_INDEX;" }]
  | _ => []

/-- The traversal of the indices, with the frames of the structs on the way. -/
def indexTraversal (s : ClassifiedStruct) : List Step :=
  let checks := s.members.flatMap indexChecks ++
    elementChecks s "check_invalid_indices_in(&mut stack, fix)"
  method "pub fn check_invalid_indices(&mut self, fix: bool) -> bool"
    [.line "let mut stack = ContainmentStack::new();",
      .line "self.check_invalid_indices_in(&mut stack, fix)"] ++
  .blank ::
  method ("pub fn check_invalid_indices_in(&mut self, stack: &mut ContainmentStack, fix: bool)" ++
      " -> bool")
    (.line (enterFrame s (!checks.isEmpty)) :: traversalBody checks)

/-! ### Refactoring -/

/-- The method that points references at another tag. -/
def refactoring (s : ClassifiedStruct) : List Step :=
  let dependencies := s.members.filter fun field =>
    match field.kind with
    | .dependency .. => true
    | _ => false
  let body :=
    if dependencies.isEmpty && s.arrays.isEmpty then [.line "0"]
    else
      .line "let mut replaced = 0;" ::
      dependencies.flatMap (fun field =>
        braces (s!"if refactor_dependency(&mut self.{field.identifier}, " ++
          "from_path, from_class, to_path, to_class)") [.line "replaced += 1;"] "") ++
      s.arrays.flatMap (fun (array, _) =>
        braces s!"for element in &mut self.{array.identifier}"
          [.line ("replaced += " ++
            "element.refactor_reference(from_path, from_class, to_path, to_class);")] "") ++
      [.line "replaced"]
  longMethod "pub fn refactor_reference"
    ["&mut self", "from_path: &str", "from_class: TagClass", "to_path: &str", "to_class: TagClass"]
    "usize" body

/-! ### Comparison -/

/-- What happens when a test finds a difference: the comparison ends, or the difference is reported
and it goes on. -/
def difference (s : ClassifiedStruct) (field : ClassifiedField) (test element : String) :
    List Step :=
  braces s!"if {test}" (
    braces "if !verbose" [.line "return false;"] "" ++
    [.line s!"report_difference({siteArguments s field}, {element}, depth);",
      .line "same = false;"]) ""

/-- The comparison of one member. -/
def memberComparison (s : ClassifiedStruct) (field : ClassifiedField) : List Step :=
  let name := field.identifier
  let test (differs : String) : List Step :=
    let guard := if field.volatile then "!ignore_volatile && " else ""
    difference s field (guard ++ differs) "None"
  match field.kind with
  | .scalar .. | .compound .. => test s!"!self.{name}.same_as(&other.{name}, precision)"
  | .reflexive .. =>
    difference s field s!"self.{name}.len() != other.{name}.len()" "None" ++
    braces s!"for (i, (a, b)) in self.{name}.iter().zip(&other.{name}).enumerate()"
      (difference s field "!a.compare_at_depth(b, precision, ignore_volatile, verbose, depth + 1)"
        "Some(i)") ""
  | _ => test s!"self.{name} != other.{name}"

/-- The methods that compare two values. -/
def comparison (s : ClassifiedStruct) : List Step :=
  let fields := s.members.filter (!·.cacheOnly)
  [.line ("/// Field by field comparison. Cache-only fields are skipped, and volatile ones too " ++
      "with `ignore_volatile`."),
    .line ("/// Stops at the first difference unless `verbose`, which logs every difference " ++
      "instead.")] ++
  method ("pub fn compare(&self, other: &Self, precision: bool, ignore_volatile: bool, " ++
      "verbose: bool) -> bool")
    [.line "self.compare_at_depth(other, precision, ignore_volatile, verbose, 0)"] ++
  .blank ::
  longMethod "pub fn compare_at_depth"
    ["&self", "other: &Self", "precision: bool", "ignore_volatile: bool", "verbose: bool",
      "depth: usize"] "bool"
    (if fields.isEmpty then [.line "true"]
      else .line "let mut same = true;" :: fields.flatMap (memberComparison s) ++ [.line "same"])

/-- The validators of a struct. -/
def structBlock (s : ClassifiedStruct) : List Step :=
  .blank :: braces s!"impl {s.name}" (
    .line "/// Numbers outside their declared minimum and maximum; fixing clamps them." ::
    traversal "check_invalid_ranges" rangeChecks s ++
    .blank ::
    .line ("/// Indices past the end of the ancestor array they point into; fixing nulls them.") ::
    indexTraversal s ++
    .blank ::
    .line "/// Dependencies whose class is not allowed; fixing nulls them." ::
    traversal "check_invalid_references" referenceChecks s ++
    .blank ::
    traversal "check_nonnormal_vectors" normalChecks s ++
    .blank ::
    .line "/// Enum values past the last option; fixing resets them." ::
    traversal "check_broken_enums" enumChecks s ++
    .blank ::
    traversal "check_uppercase_references" uppercaseChecks s ++
    .blank ::
    .line "/// Point every matching dependency at another tag and return how many changed." ::
    refactoring s ++
    .blank ::
    comparison s) ""

/-- The validators of a schema. -/
def steps (schema : ClassifiedSchema) (options : Options) : List Step :=
  header options.runtimeCrate true ++ schema.structs.flatMap structBlock

end TagSchema.Emit.Validators
