import TagSchema.Proofs.Index.Building

/-!
# What validators accept and builds refuse

Validators and builds check some of the same constraints: indices, the classes of references and the
ranges of enums. A build that checks for errors judges all of them, at every depth. So a value in
which the validators find nothing is not refused for its indices or its classes. It can be refused
for an enum, since the numbers of some enums begin at one: a build adds one to their values before
it looks for an option, and a validator does not.
-/

namespace TagSchema

namespace Violation

/-- The violation is a reference to a class that is not allowed. -/
def IsClass : Violation → Prop
  | .disallowedClass .. => True
  | _ => False

/-- The violation is a value past the last option of an enum. -/
def IsEnumRange : Violation → Prop
  | .enumOutOfRange .. => True
  | _ => False

variable {violation : Violation}

theorem IsNumeric.not_isEnumRange (h : violation.IsNumeric) : ¬violation.IsEnumRange := by
  intro isEnumRange
  cases violation <;> trivial

theorem IsOfMember.not_isClass (h : violation.IsOfMember) : ¬violation.IsClass := by
  intro isClass
  cases violation <;> trivial

theorem isEnumRange_of_ofEnum? {count value : Nat} {excluded : List Nat} :
    (∀ violation ∈ ofEnum? count excluded value, ¬violation.IsEnumRange) ↔ value < count := by
  unfold ofEnum?
  split
  · rename_i past
    refine iff_of_false (fun none => none _ rfl trivial) (Nat.not_lt.mpr past)
  · rename_i within
    refine iff_of_true (fun violation found => ?_) (Nat.lt_of_not_le within)
    split at found <;> cases found
    exact id

end Violation

/-- A reference is refused for its class only if the validator finds it. -/
theorem Dependency.not_isClass_of_refusal? {classes : List TagClass} {nonNull : Bool}
    {d : Dependency} (accepted : (d.fixReference classes false).1 = false) {violation : Violation}
    (h : violation ∈ d.refusal? classes nonNull) : ¬violation.IsClass := by
  unfold refusal? at h
  split at h
  · split at h <;> cases h
    exact fun isClass => isClass
  · split at h
    · rename_i disallowed
      unfold fixReference at accepted
      split at accepted
      · rename_i allowed
        rw [← Bool.not_or, allowed] at disallowed
        cases disallowed
      · cases accepted
    · cases h

open LeafProperty

variable {stack : ContainmentStack}

/-! ### What validators find -/

namespace LeafProperty

/-- The value is not the last one of an enum whose numbers begin at one. -/
def notLast : LeafProperty
  | _, .plain (.enum type true), (value : (Primitive.ofWidth type.width).Word) =>
    enumNumber true value.toNat ≠ type.options.length
  | _, _, _ => True

end LeafProperty

instance LeafType.decidableNotLast : (stack : ContainmentStack) → (type : LeafType) →
    (value : type.Value) → Decidable (notLast stack type value)
  | _, .plain (.enum type true), (value : (Primitive.ofWidth type.width).Word) =>
    inferInstanceAs (Decidable (enumNumber true value.toNat ≠ type.options.length))
  | _, .plain (.enum _ false), _ | _, .plain (.number ..), _ | _, .plain (.bitfield _), _
  | _, .plain (.index _), _ | _, .plain .tagId, _ | _, .plain .tagString, _
  | _, .plain .fourCC, _ | _, .plain (.padding _), _ | _, .dependency .., _ | _, .blob _, _ =>
    .isTrue trivial

namespace LeafType

variable {type : LeafType} {value : type.Value}

/-- A member is without a bad class if the validator of references finds nothing in it. -/
theorem without_isClass (references : unfound .references stack type value) :
    without Violation.IsClass stack type value := by
  cases type with
  | plain type =>
    refine ⟨fun violation found => ?_, fun _ found => nomatch found⟩
    exact ((LeafType.plain type).isOfMember_of_violation? value found).not_isClass
  | dependency classes nonNull =>
    refine ⟨fun _ found => (nomatch found), fun violation refused => ?_⟩
    exact Dependency.not_isClass_of_refusal? references refused
  | blob selector => exact ⟨fun _ found => (nomatch found), fun _ found => (nomatch found)⟩

/-- If the validator of enums finds nothing in a member, its enum is in range unless it is the last
one of those that begin at one. -/
theorem passes_isEnumRange (enums : unfound .enums stack type value) :
    passes Violation.IsEnumRange stack type value ↔ notLast stack type value := by
  cases type with
  | plain type =>
    cases type with
    | number shape rule =>
      refine iff_of_true (fun violation found => ?_) trivial
      exact (rule.isNumeric_of_violation? shape value found).not_isEnumRange
    | enum type shifted =>
      refine Violation.isEnumRange_of_ofEnum?.trans ?_
      have inside : BitVec.toNat value < type.options.length := by
        by_contra outside
        simp [unfound, LeafCheck.enums, outside] at enums
      cases shifted with
      | false => exact iff_of_true inside trivial
      | true =>
        -- One more than a value that is inside is at most the number of options.
        have le : enumNumber true (BitVec.toNat value) ≤ type.options.length :=
          Nat.le_trans (Nat.mod_le _ _) inside
        exact ⟨Nat.ne_of_lt, Nat.lt_of_le_of_ne le⟩
    | index target =>
      refine iff_of_true (fun violation found => ?_) trivial
      cases target with
      | none => cases found
      | some target =>
        obtain ⟨length, -, rfl⟩ := Option.map_eq_some_iff.mp found
        exact id
    | bitfield | tagId | tagString | fourCC | padding =>
      exact iff_of_true (fun _ found => nomatch found) trivial
  | dependency | blob => exact iff_of_true (fun _ found => nomatch found) trivial

theorem granted_isEnumRange : granted Violation.IsEnumRange stack type value := by
  intro violation refused
  cases type with
  | plain | blob => cases refused
  | dependency classes nonNull =>
    obtain rfl | rfl := Dependency.refusal?_cases refused <;> exact id

end LeafType

/-! ### Enums whose numbers begin at one -/

/-- Whether the member is an enum whose numbers begin at one. -/
def LeafType.isShifted : LeafType → Bool
  | .plain (.enum _ shiftedByOne) => shiftedByOne
  | _ => false

/-- Whether a member, at any depth, is an enum whose numbers begin at one. -/
def Members.holdShifted : Members → Bool
  | .nil => false
  | .leaf _ type rest => type.isShifted || rest.holdShifted
  | .array _ _ _ _ element rest => element.holdShifted || rest.holdShifted

theorem LeafType.notLast_of_not_isShifted {type : LeafType} (h : type.isShifted = false)
    (value : type.Value) : notLast stack type value := by
  cases type with
  | plain type =>
    cases type with
    | enum type shifted =>
      obtain rfl : shifted = false := h
      trivial
    | number | bitfield | index | tagId | tagString | fourCC | padding => trivial
  | dependency | blob => trivial

theorem Members.every_notLast {members : Members} (h : members.holdShifted = false)
    (value : members.Value) : members.Every notLast notLast stack value := by
  induction members generalizing stack with
  | nil => trivial
  | leaf traits type rest ih =>
    rw [holdShifted, Bool.or_eq_false_iff] at h
    exact ⟨LeafType.notLast_of_not_isShifted h.1 value.1, ih h.2 value.2⟩
  | array traits limits name title element rest ihElement ih =>
    rw [holdShifted, Bool.or_eq_false_iff] at h
    exact ⟨fun item _ => ihElement h.1 item, ih h.2 value.2⟩

/-- Of the types of the catalog, only units and vehicles have such an enum. -/
theorem Catalog.holdShifted_types : ∀ type ∈ types,
    type.members.holdShifted = true → type.name = "Unit" ∨ type.name = "Vehicle" := by
  decide +kernel

/-- **Builds agree with validators on constraints, but for the last options of some enums.** Let the
validators of indices, references and enums find nothing in a value. A build of it that checks for
errors fails neither for an index nor for the class of a reference, and it fails for the range of an
enum only if the enum is one whose numbers begin at one and has its last option. A value with such
an enum cannot be built at all. Of the types of the catalog, only units and vehicles have values of
this kind. -/
theorem compileTag_accepted (type : StructType) (tag : Nat) {value : type.Value}
    (indices : (type.traverse .indices false value).1 = false)
    (references : (type.traverse .references false value).1 = false)
    (enums : (type.traverse .enums false value).1 = false)
    {w : Workload} (on : w.options.disableErrorChecking = false) :
    (∀ e w', outcome (type.compileTag tag value) w = (.error e, w') →
      ¬e.Blames Violation.IsIndex ∧ ¬e.Blames Violation.IsClass ∧
        (e.Blames Violation.IsEnumRange → ¬type.Every notLast value)) ∧
    (¬type.Every notLast value →
      ∃ e w', outcome (type.compileTag tag value) w = (.error e, w')) ∧
    (type ∈ Catalog.types → type.name ≠ "Unit" → type.name ≠ "Vehicle" →
      type.Every notLast value) := by
  rw [StructType.traverse_eq_false] at indices references enums
  -- What the validator of enums accepts differs from what compiling accepts by the last option of
  -- shifted enums only.
  have inRange : type.Every (without Violation.IsEnumRange) value ↔ type.Every notLast value := by
    constructor
    · intro h
      exact (StructType.every_both.mpr ⟨enums, h⟩).mono fun _ _ _ h =>
        (LeafType.passes_isEnumRange h.1).mp h.2.1
    · intro h
      exact (StructType.every_both.mpr ⟨enums, h⟩).mono fun _ _ _ h =>
        ⟨(LeafType.passes_isEnumRange h.1).mpr h.2, LeafType.granted_isEnumRange⟩
  refine ⟨fun e w' failed => ⟨?_, ?_, fun blamed fine => ?_⟩, fun last => ?_,
    fun mem notUnit notVehicle => ?_⟩
  · exact StructType.not_blames_of_without (fun _ => id) (fun _ => id) on failed
      (indices.mono fun _ _ _ => LeafType.without_isIndex.mpr)
  · exact StructType.not_blames_of_without (fun _ => id) (fun _ => id) on failed
      (references.mono fun _ _ _ => LeafType.without_isClass)
  · exact StructType.not_blames_of_without (fun _ => id) (fun _ => id) on failed
      (inRange.mpr fine) blamed
  · rcases ends : outcome (type.compileTag tag value) w with ⟨e | k, w'⟩
    · exact ⟨e, w', rfl⟩
    · exact absurd (inRange.mp (StructType.without_of_ok (fun _ => id) (fun _ => id) on ends)) last
  · refine Members.every_notLast ?_ value
    by_contra shifted
    obtain isUnit | isVehicle := Catalog.holdShifted_types type mem (by simpa using shifted)
    · exact notUnit isUnit
    · exact notVehicle isVehicle

namespace Catalog

/-- The type of units. -/
def unitType : StructType := types.get ⟨14, by rw [length_types]; decide⟩

attribute [irreducible] unitType

/-- A unit of the last team, which is otherwise as it must be. -/
def guard : unitType.Value :=
  unitType.changed [("default_team", .setWord 3), ("model", .setDependency (.nullOf ⟨0x6D6F6465⟩))]

end Catalog

open Catalog in
/-- The validators find nothing in the guard, but it cannot be built. If there is nothing else wrong
with its members, the range of an enum is to blame. -/
theorem compileTag_accepted_guard :
    (unitType.traverse .indices false guard).1 = false ∧
    (unitType.traverse .references false guard).1 = false ∧
    (unitType.traverse .enums false guard).1 = false ∧
    ∃ e w', outcome (unitType.compileTag 0 guard) { options := {} } = (.error e, w') ∧
      ¬e.Blames Violation.IsIndex ∧ ¬e.Blames Violation.IsClass ∧
      (unitType.Every (without fun violation => violation.IsOfMember ∧ ¬violation.IsEnumRange)
        guard → e.Blames Violation.IsEnumRange) := by
  obtain ⟨indices, references, enums, last⟩ :
      (unitType.traverse .indices false guard).1 = false ∧
      (unitType.traverse .references false guard).1 = false ∧
      (unitType.traverse .enums false guard).1 = false ∧
      ¬unitType.members.Every notLast any
        (ContainmentStack.enter {} (unitType.members.frame unitType.name guard)) guard := by
    decide +kernel
  -- The team is a member of the unit itself, so the build fails before it comes to any handle.
  have bad : ¬unitType.members.Every (passes Violation.IsEnumRange) any
      (ContainmentStack.enter {} (unitType.members.frame unitType.name guard)) guard := by
    intro passed
    have found := (StructType.traverse_eq_false _).mp enums
    have both := unitType.members.every_both.mpr ⟨found, passed⟩
    exact last (both.mono _ (fun _ _ _ h => (LeafType.passes_isEnumRange h.1).mp h.2)
      fun _ _ _ _ => trivial)
  have on : ({ options := {} } : Workload).options.disableErrorChecking = false := rfl
  obtain ⟨e, w', failed, ofMember⟩ := StructType.fails_of_own 0 on bad
  obtain ⟨blames, -⟩ := compileTag_accepted unitType 0 indices references enums on
  obtain ⟨notIndex, notClass, -⟩ := blames e w' failed
  refine ⟨indices, references, enums, e, w', failed, notIndex, notClass, fun clear => ?_⟩
  have others := StructType.not_blames_of_without (fun _ h => h.1) (fun _ h => h.1) on failed clear
  obtain ⟨site, violation, root, isOfMember⟩ := ofMember
  by_contra notRange
  refine others ⟨site, violation, root, isOfMember, fun isEnumRange => ?_⟩
  exact notRange ⟨site, violation, root, isEnumRange⟩

end TagSchema
