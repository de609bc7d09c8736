import TagSchema.Catalog.Types
import TagSchema.Struct.Edit

/-!
# Regular types

The laws of tag files and of bundles hold for types that are laid out as the schema promises: each
field at the end of the one before it, handles in the byte order in which pointers are written,
nothing hidden that would leave a trace, and defaults for whole members only. All types of the
catalog are of this kind, which is checked here once.
-/

namespace TagSchema

/-- Whether a member refers to a tag. -/
def LeafType.isDependency : LeafType → Bool
  | .dependency _ _ => true
  | .plain _ | .blob _ => false

/-- Whether a member, at any depth, refers to a tag. -/
def Members.holdDependency : Members → Bool
  | .nil => false
  | .leaf _ type rest => type.isDependency || rest.holdDependency
  | .array _ _ _ _ element rest => element.holdDependency || rest.holdDependency

namespace LeafType

/-- The path of a member that refers to a tag. -/
def paths : (type : LeafType) → type.Value → List String
  | .plain _, _ => []
  | .dependency _ _, (d : Dependency) => [d.path]
  | .blob _, _ => []

/-- What is no reference has no path. -/
theorem paths_eq_nil {type : LeafType} (h : type.isDependency = false) (value : type.Value) :
    type.paths value = [] := by
  cases type with
  | dependency => cases h
  | plain | blob => rfl

end LeafType

namespace Members

/-- The paths of all references, at every depth. -/
def paths : (members : Members) → members.Value → List String
  | .nil, _ => []
  | .leaf _ type rest, value => type.paths value.1 ++ rest.paths value.2
  | .array _ _ _ _ element rest, value => value.1.flatMap element.paths ++ rest.paths value.2

/-- Members without a reference among them, at every depth, have no path. -/
theorem paths_eq_nil {members : Members} (h : members.holdDependency = false)
    (value : members.Value) : members.paths value = [] := by
  induction members with
  | nil => rfl
  | leaf traits type rest ih =>
    rw [holdDependency, Bool.or_eq_false_iff] at h
    rw [paths, LeafType.paths_eq_nil h.1, ih h.2]
    rfl
  | array traits limits name title element rest ihElement ih =>
    rw [holdDependency, Bool.or_eq_false_iff] at h
    rw [paths, ih h.2, List.append_nil, List.flatMap_eq_nil_iff]
    exact fun item _ => ihElement h.1 item

end Members

/-- Only bundles have a field that is cache-only, so one that files have is not. -/
theorem FieldTraits.cacheOnly_eq_false {traits : FieldTraits}
    (h : traits.isAbsentFromFiles = false) : traits.cacheOnly = false := by
  rw [isAbsentFromFiles, Bool.or_eq_false_iff] at h
  exact h.1

/-- Whether members that tag files leave out hold no references, and the elements of arrays are of
a size that fits into a word. -/
def Members.isFileRegular : Members → Bool
  | .nil => true
  | .leaf traits type rest =>
    !(traits.isAbsentFromFiles && type.isDependency) && rest.isFileRegular
  | .array traits _ _ _ element rest =>
    !(traits.isAbsentFromFiles && element.holdDependency) &&
      decide ((element.layout .file).size < UInt32.size) &&
      element.isFileRegular && rest.isFileRegular

/-- Whether a member is stored in its struct as a whole. -/
def LeafType.isPlain : LeafType → Bool
  | .plain _ => true
  | .dependency _ _ | .blob _ => false

namespace Members

/-- Whether all members are stored in their struct as a whole. -/
def isFlat : Members → Bool
  | .nil => true
  | .leaf _ type rest => type.isPlain && rest.isFlat
  | .array .. => false

/-- Whether all that tag files leave out is plain, except for the arrays of the given names, which
only bundles have, and whose elements are flat and of the given size. Such arrays are not inside
other arrays. -/
def leavesOut (names : List String) (size : Nat) : Members → Bool
  | .nil => true
  | .leaf traits type rest =>
    (!traits.isAbsentFromFiles || type.isPlain) && rest.leavesOut names size
  | .array traits _ _ _ element rest =>
    (if traits.identifier ∈ names then
      traits.cacheOnly && element.isFlat && decide ((element.layout .file).size = size)
    else !traits.isAbsentFromFiles && element.leavesOut [] size) && rest.leavesOut names size

end Members

/-- Whether the bytes of a blob are found again where a build puts them. -/
def BlobSelector.isBuilt : BlobSelector → Bool
  | .pointer | .fileOffset => true
  | .external source => decide (source = .bitmaps ∨ source = .sounds)

/-- Whether a member with the given byte order can be patched and found again in a bundle. -/
def LeafType.isPackedRegular (order : ByteOrder) : LeafType → Bool
  | .plain _ => true
  | .dependency _ _ => decide (order = .little)
  | .blob selector => decide (order = .little) && selector.isBuilt

/-- A blob is regular if it is stored little-endian and where bundles can be built with it. -/
theorem LeafType.isPackedRegular_blob {order : ByteOrder} {selector : BlobSelector} :
    (blob selector).isPackedRegular order = true ↔ order = .little ∧ selector.isBuilt = true := by
  simp only [isPackedRegular, Bool.and_eq_true, decide_eq_true_eq]

/-- Whether every member is at the offset that its field declares, the first one at the given
offset, and its handle can be patched and found again in a bundle. -/
def Members.isPackedRegular (offset : Nat) : Members → Bool
  | .nil => true
  | .leaf traits type rest =>
    decide (traits.offset = offset) && type.isPackedRegular (traits.orderIn .packed) &&
      rest.isPackedRegular (offset + (type.layout (traits.orderIn .packed)).size)
  | .array traits _ _ _ element rest =>
    decide (traits.offset = offset) && decide (traits.orderIn .packed = .little) &&
      element.isPackedRegular 0 &&
      rest.isPackedRegular (offset + (Layout.reflexive (traits.orderIn .packed)).size)

namespace Members

variable {offset : Nat} {traits : FieldTraits} {rest : Members}

/-- A member is regular if it lies where those before it end. -/
theorem isPackedRegular_leaf {type : LeafType} :
    (leaf traits type rest).isPackedRegular offset = true ↔ traits.offset = offset ∧
      type.isPackedRegular (traits.orderIn .packed) = true ∧
      rest.isPackedRegular (offset + (type.layout (traits.orderIn .packed)).size) = true := by
  simp only [isPackedRegular, Bool.and_eq_true, decide_eq_true_eq, and_assoc]

theorem isPackedRegular_array {limits : ArrayLimits} {name : String} {title : Option String}
    {element : Members} :
    (array traits limits name title element rest).isPackedRegular offset = true ↔
      traits.offset = offset ∧ traits.orderIn .packed = .little ∧
      element.isPackedRegular 0 = true ∧
      rest.isPackedRegular (offset + (Layout.reflexive (traits.orderIn .packed)).size) = true := by
  simp only [isPackedRegular, Bool.and_eq_true, decide_eq_true_eq, and_assoc]

end Members

namespace LeafType

/-- The value that a member has for a default. -/
def default? : (type : LeafType) → Option type.Value
  | .plain (.number shape rule) =>
    if rule.default.isEmpty then none else some (shape.ofNumbers (rule.default.map (·.toFloat)))
  | _ => none

/-- Whether the member is a number of several items. -/
def isCounted : LeafType → Bool
  | .plain (.number (.array ..) _) => true
  | _ => false

end LeafType

/-- Whether no number comes in several items, whose defaults would be filled in one by one, and no
member that files leave out has a default. -/
def Members.isDefaultRegular : Members → Bool
  | .nil => true
  | .leaf traits type rest =>
    !type.isCounted && (!traits.isAbsentFromFiles || type.default?.isNone) && rest.isDefaultRegular
  | .array _ _ _ _ element rest => element.isDefaultRegular && rest.isDefaultRegular

namespace Catalog

/-- The catalog has sixteen types, and each of them is regular in every way. -/
theorem types_regular :
    types.length = 16 ∧ ∀ type ∈ types,
      type.members.isFileRegular = true ∧ type.members.isPackedRegular 0 = true ∧
      type.members.leavesOut (if type.name = "Unit" ∨ type.name = "Vehicle" then
        ["predicted_resources"] else []) 8 = true ∧ type.members.isDefaultRegular = true := by
  decide +kernel

theorem length_types : types.length = 16 := types_regular.1

theorem isFileRegular_of_mem {type : StructType} (h : type ∈ types) :
    type.members.isFileRegular = true := (types_regular.2 type h).1

theorem isPackedRegular_of_mem {type : StructType} (h : type ∈ types) :
    type.members.isPackedRegular 0 = true := (types_regular.2 type h).2.1

/-- Units and vehicles have predicted resources, of eight bytes each, in bundles only. -/
theorem leavesOut_of_mem {type : StructType} (h : type ∈ types) :
    type.members.leavesOut (if type.name = "Unit" ∨ type.name = "Vehicle" then
      ["predicted_resources"] else []) 8 = true := (types_regular.2 type h).2.2.1

theorem isDefaultRegular_of_mem {type : StructType} (h : type ∈ types) :
    type.members.isDefaultRegular = true := (types_regular.2 type h).2.2.2

end Catalog

/-! ### A value of the catalog -/

/-- The value that was never set, after some changes of its members. -/
def StructType.changed (type : StructType) (changes : List (String × Edit)) : type.Value :=
  changes.foldl (fun value (identifier, change) =>
    (type.members.edit identifier change value).toOption.getD value) type.members.zero

namespace Catalog

/-- The type of weapons. -/
def weapon : StructType := types.get ⟨10, by rw [length_types]; decide⟩

theorem weapon_mem : weapon ∈ types := List.get_mem types _

attribute [irreducible] weapon

/-- The type of vehicles. -/
def vehicle : StructType := types.get ⟨15, by rw [length_types]; decide⟩

theorem vehicle_mem : vehicle ∈ types := List.get_mem types _

attribute [irreducible] vehicle

/-- A weapon with a model, one magazine and one trigger. -/
def pistol : weapon.Value :=
  weapon.changed [("model", .setDependency (.toTag ⟨0x6D6F6465⟩ "weapons\\épée")),
    ("flags", .setWord 0xFFFF), ("magazines", .insert 0), ("triggers", .insert 0)]

end Catalog

end TagSchema
