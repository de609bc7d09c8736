import TagSchema.Containment
import TagSchema.Number.Normal
import TagSchema.Struct.FileForm

/-!
# Validators

A traversal makes a check of every member of a value, the elements of arrays included, and says
whether it found anything. It stops at the first finding, or mends each one and goes on.
-/

namespace TagSchema

/-- A check of members: whether it finds something, and the value, mended if `fix` is set. -/
abbrev LeafCheck :=
  (fix : Bool) → ContainmentStack → (type : LeafType) → type.Value → Bool × type.Value

/-! ### Traversals -/

/-- A check of the items of a list. -/
def checkAll {α : Type} (fix : Bool) (check : α → Bool × α) : List α → Bool × List α
  | [] => (false, [])
  | item :: rest =>
    let (found, item) := check item
    if found && !fix then (true, item :: rest)
    else
      let (foundLater, rest) := checkAll fix check rest
      (found || foundLater, item :: rest)

/-- A check of the members of a struct. The stack has the frame of the struct. -/
def Members.traverse (check : LeafCheck) (fix : Bool) (stack : ContainmentStack) :
    (members : Members) → members.Value → Bool × members.Value
  | .nil, value => (false, value)
  | .leaf _ type rest, value =>
    let (found, first) := check fix stack type value.1
    if found && !fix then (true, (first, value.2))
    else
      let (foundLater, others) := rest.traverse check fix stack value.2
      (found || foundLater, (first, others))
  | .array _ _ name _ element rest, value =>
    let (found, elements) := checkAll fix
      (fun item =>
        let frame : Frame := { struct := name, lengths := element.lengths item }
        element.traverse check fix (stack.enter frame) item) value.1
    if found && !fix then (true, (elements, value.2))
    else
      let (foundLater, others) := rest.traverse check fix stack value.2
      (found || foundLater, (elements, others))

/-- A check of a value. -/
def StructType.traverse (type : StructType) (check : LeafCheck) (fix : Bool) (value : type.Value) :
    Bool × type.Value :=
  let frame : Frame := { struct := type.name, lengths := type.members.lengths value }
  type.members.traverse check fix (ContainmentStack.enter {} frame) value

/-! ### Checks -/

namespace NumberShape

/-- Whether a word lies outside the limits of a type. Mending moves every word within them. -/
def fixRange (minimum maximum : Option Binary64) (fix : Bool) (shape : NumberShape)
    (value : shape.Value) : Bool × shape.Value :=
  let limit (x : Binary64) : shape.component.Word := shape.component.ofFloat x.toFloat
  let fixWord (word : shape.component.Word) : Bool × shape.component.Word :=
    shape.component.fixRange (minimum.map limit) (maximum.map limit) fix word
  ((shape.words value).any fun word => (fixWord word).1,
    shape.mapWords (fun word => (fixWord word).2) value)

/-- Whether a compound value is not of length one. Mending normalizes every one. -/
def fixNormal (fix : Bool) : (shape : NumberShape) → shape.Value → Bool × shape.Value
  | .compound type, value => type.fixNormal fix value
  | .array _ shape, (value : Vector shape.Value _) =>
    let fixed := value.map (shape.fixNormal fix)
    ((fixed.map (·.1)).any id, fixed.map (·.2))
  | .scalar _, value => (false, value)
  | .bounds _, value => (false, value)

end NumberShape

namespace LeafCheck

/-- Numbers outside their limits. Mending moves them to the limit that they pass. -/
def ranges : LeafCheck
  | fix, _, .plain (.number shape rule), value => shape.fixRange rule.minimum rule.maximum fix value
  | _, _, _, value => (false, value)

/-- Vectors, quaternions and planes that are not of length one. Mending normalizes them. -/
def normals : LeafCheck
  | fix, _, .plain (.number shape rule), value =>
    if rule.normalize then shape.fixNormal fix value else (false, value)
  | _, _, _, value => (false, value)

/-- Enums without an option. Mending sets them to the first one. -/
def enums : LeafCheck
  | fix, _, .plain (.enum type shiftedByOne), value =>
    let word : (Primitive.ofWidth type.width).Word := value
    if word.toNat < type.options.length then (false, value)
    else (true, if fix then (PlainType.enum type shiftedByOne).zero else value)
  | _, _, _, value => (false, value)

/-- Indices that pass the array they point into. Mending sets them to the null index. -/
def indices : LeafCheck
  | fix, stack, .plain (.index (some target)), value =>
    let word : Primitive.u16.Word := value
    if (stack.passedLength? target.tags target.member word.toNat).isSome then
      (true, if fix then nullIndex.toBitVec else value)
    else (false, value)
  | _, _, _, value => (false, value)

/-- References to a class that is not allowed. Mending leaves a null reference. -/
def references : LeafCheck
  | fix, _, .dependency classes _, value =>
    Dependency.fixReference (allowedClasses classes) fix value
  | _, _, _, value => (false, value)

/-- References with an upper-case path. Mending lowers the path. -/
def uppercase : LeafCheck
  | fix, _, .dependency _ _, value => Dependency.fixUppercase fix value
  | _, _, _, value => (false, value)

end LeafCheck

/-! ### Refactoring -/

/-- Replaces references in a list of items, and counts them. -/
def refactorAll {α : Type} (refactor : α → Nat × α) : List α → Nat × List α
  | [] => (0, [])
  | item :: rest =>
    let (count, item) := refactor item
    let (later, rest) := refactorAll refactor rest
    (count + later, item :: rest)

/-- Replaces a reference, and counts it. -/
def LeafType.refactor (source target : Dependency) : (type : LeafType) → type.Value →
    Nat × type.Value
  | .dependency _ _, value =>
    let (replaced, value) := Dependency.refactor source target value
    (if replaced then 1 else 0, value)
  | .plain _, value => (0, value)
  | .blob _, value => (0, value)

/-- Replaces every reference to one tag by a reference to another, and counts them. -/
def Members.refactor (source target : Dependency) : (members : Members) → members.Value →
    Nat × members.Value
  | .nil, value => (0, value)
  | .leaf _ type rest, value =>
    let (count, first) := type.refactor source target value.1
    let (later, others) := rest.refactor source target value.2
    (count + later, (first, others))
  | .array _ _ _ _ element rest, value =>
    let (count, elements) := refactorAll (element.refactor source target) value.1
    let (later, others) := rest.refactor source target value.2
    (count + later, (elements, others))

end TagSchema
