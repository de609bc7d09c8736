import TagSchema.Proofs.Mending.Structural
import TagSchema.Proofs.Number.UnitLength
import TagSchema.Proofs.Text.Lowercase

/-!
# Validators of references and vectors

The validator of upper-case references tests the characters of a path and mends them by the
lower-case map; that of vectors tests a length in double precision and mends it by a division in
single precision. In both of them the test and the correction are different notions, so not
everything that is mended is accepted. What is accepted then is said here, member by member.
-/

namespace TagSchema

open Text

/-! ### References -/

namespace Dependency

/-- A path is mended if it has an upper-case character, and else stays as it is. -/
theorem mends_fixUppercase :
    Mends (fun fix d => fixUppercase fix d) (fun d => (fixUppercase true d).2) := by
  refine .of_cases fun d => ?_
  by_cases upper : d.path.toList.any isUppercase = true
  · exact .inr ⟨_, fun fix => if_pos upper⟩
  · exact .inl fun fix => if_neg upper

theorem fixUppercase_found (d : Dependency) :
    (fixUppercase false d).1 = d.path.toList.any isUppercase := by
  rw [fixUppercase]
  cases d.path.toList.any isUppercase <;> rfl

/-- A mended path has an upper-case character exactly if the path has one without a lower-case
form. -/
theorem fixUppercase_mended (d : Dependency) :
    (fixUppercase false (fixUppercase true d).2).1 = d.path.toList.any isUnmapped := by
  rw [fixUppercase_found]
  by_cases upper : d.path.toList.any isUppercase = true
  · rw [fixUppercase, if_pos upper]
    exact any_isUppercase_lowercase d.path
  · rw [fixUppercase, if_neg upper, Bool.eq_false_iff.mpr upper]
    refine (List.any_eq_false.mpr fun c mem unmapped => upper ?_).symm
    exact List.any_eq_true.mpr ⟨c, mem, (Bool.and_eq_true_iff.mp unmapped).1⟩

end Dependency

/-! ### Vectors -/

namespace MathType

/-- A vector is mended if it is not of unit length, and else stays as it is. -/
theorem mends_fixNormal (type : MathType) :
    Mends type.fixNormal fun value => (type.fixNormal true value).2 := by
  refine .of_cases fun value => ?_
  by_cases unit : type.isNormalized value = true
  · exact .inl fun fix => if_pos unit
  · exact .inr ⟨type.normalized value, fun fix => if_neg unit⟩

/-- The vector is of unit length, or is so once it is normalized. -/
def ReachesUnit (type : MathType) (value : type.Value) : Prop :=
  type.isNormalized value = true ∨ type.isNormalized (type.normalized value) = true

instance {type : MathType} {value : type.Value} : Decidable (type.ReachesUnit value) := by
  unfold ReachesUnit; infer_instance

theorem fixNormal_eq_false {type : MathType} {value : type.Value} :
    (type.fixNormal false value).1 = false ↔ type.isNormalized value = true := by
  by_cases unit : type.isNormalized value = true
  · exact iff_of_true (congrArg Prod.fst (if_pos unit)) unit
  · have found : (type.fixNormal false value).1 = true := congrArg Prod.fst (if_neg unit)
    exact iff_of_false (by rw [found]; decide) unit

/-- A mended vector is accepted exactly if it has become one of unit length. -/
theorem fixNormal_mended {type : MathType} {value : type.Value} :
    (type.fixNormal false (type.fixNormal true value).2).1 = false ↔ type.ReachesUnit value := by
  rw [fixNormal_eq_false]
  by_cases unit : type.isNormalized value = true
  · have kept : (type.fixNormal true value).2 = value := congrArg Prod.snd (if_pos unit)
    rw [kept]
    exact iff_of_true unit (.inl unit)
  · have mended : (type.fixNormal true value).2 = type.normalized value :=
      congrArg Prod.snd (if_neg unit)
    rw [mended]
    exact (or_iff_right unit).symm

end MathType

namespace NumberShape

variable {p q : (type : MathType) → type.Value → Prop}

/-- So are the vectors of an array, one by one. -/
theorem mends_fixNormal (shape : NumberShape) :
    Mends (fun fix value => shape.fixNormal fix value) fun value =>
      (shape.fixNormal true value).2 := by
  induction shape with
  | scalar | bounds => exact .of_cases fun value => .inl fun fix => rfl
  | compound type => exact type.mends_fixNormal
  | array count shape ih =>
    have mended : (fun value : Vector shape.Value count =>
          (value.map (shape.fixNormal true)).map (·.2)) =
        Vector.map fun item => (shape.fixNormal true item).2 := funext fun _ => Vector.map_map ..
    have vector := ih.vector count
    rw [← mended] at vector
    exact vector

/-- The compounds of a number have a property. -/
def AllCompounds (p : (type : MathType) → type.Value → Prop) : (shape : NumberShape) →
    shape.Value → Prop
  | .compound type, value => p type value
  | .array count shape, (value : Vector shape.Value count) =>
    ∀ i : Fin count, shape.AllCompounds p value[i]
  | _, _ => True

instance decidableAllCompounds [decide : ∀ type value, Decidable (p type value)] :
    (shape : NumberShape) → (value : shape.Value) → Decidable (shape.AllCompounds p value)
  | .scalar _, _ | .bounds _, _ => instDecidableTrue
  | .compound type, value => decide type value
  | .array count shape, (value : Vector shape.Value count) =>
    have (i : Fin count) : Decidable (shape.AllCompounds p value[i]) :=
      decidableAllCompounds shape value[i]
    inferInstanceAs (Decidable (∀ i : Fin count, shape.AllCompounds p value[i]))

/-- A property may be exchanged for a weaker one, which need only hold of vectors that have a part
of unit length. -/
theorem AllCompounds.mono {shape : NumberShape} (normalizable : shape.isNormalizable = true)
    (h : ∀ type : MathType, type.normalizable = true → ∀ value, p type value → q type value)
    {value : shape.Value} (all : shape.AllCompounds p value) : shape.AllCompounds q value := by
  induction shape with
  | scalar | bounds => trivial
  | compound type => exact h type normalizable value all
  | array count shape ih => exact fun i => ih normalizable (all i)

/-- A mended number is accepted exactly if all of its vectors have become ones of unit length. -/
theorem fixNormal_mended {shape : NumberShape} {value : shape.Value} :
    (shape.fixNormal false (shape.fixNormal true value).2).1 = false ↔
      shape.AllCompounds MathType.ReachesUnit value := by
  induction shape with
  | scalar | bounds => exact iff_of_true rfl trivial
  | compound type => exact MathType.fixNormal_mended
  | array count shape ih =>
    let vector : Vector shape.Value count := value
    let mended := (vector.map (shape.fixNormal true)).map (·.2)
    have nothing : ((mended.map (shape.fixNormal false)).map (·.1)).any id = false ↔
        ∀ i : Fin count, shape.AllCompounds MathType.ReachesUnit vector[i] := by
      rw [Vector.any_eq_false, Fin.forall_iff]
      refine forall₂_congr fun i hi => ?_
      simp only [mended, Vector.getElem_map, id, Bool.not_eq_true]
      exact ih
    exact nothing

end NumberShape

/-! ### Checks -/

namespace LeafType

variable {p q : (type : MathType) → type.Value → Prop}

/-- The compounds of a number that have to be of length one have a property. -/
def AllNormals (p : (type : MathType) → type.Value → Prop) : (type : LeafType) →
    type.Value → Prop
  | .plain (.number shape rule), value => rule.normalize = true → shape.AllCompounds p value
  | _, _ => True

instance decidableAllNormals [∀ type value, Decidable (p type value)] :
    (type : LeafType) → (value : type.Value) → Decidable (type.AllNormals p value)
  | .plain (.number shape rule), value =>
    have := NumberShape.decidableAllCompounds (p := p) shape value
    inferInstanceAs (Decidable (rule.normalize = true → shape.AllCompounds p value))
  | .plain (.enum ..), _ | .plain (.bitfield _), _ | .plain (.index _), _ | .plain .tagId, _
  | .plain .tagString, _ | .plain .fourCC, _ | .plain (.padding _), _ | .dependency .., _
  | .blob _, _ => instDecidableTrue

/-- A rule that asks for unit length is for vectors only, so the same holds of a member. -/
theorem AllNormals.mono {type : LeafType} (mendable : type.isMendable = true)
    (h : ∀ kind : MathType, kind.normalizable = true → ∀ value, p kind value → q kind value)
    {value : type.Value} (all : type.AllNormals p value) : type.AllNormals q value := by
  cases type with
  | plain type =>
    cases type with
    | number shape rule =>
      intro wanted
      rw [isMendable, wanted] at mendable
      exact (all wanted).mono (Bool.and_eq_true_iff.mp mendable).2 h
    | _ => trivial
  | _ => trivial

/-- Whether the path of a reference can be written without upper-case characters. -/
def isLowerable : (type : LeafType) → type.Value → Bool
  | .dependency _ _, value => !(Dependency.path value).toList.any isUnmapped
  | _, _ => true

end LeafType

namespace LeafCheck

variable {stack : ContainmentStack} {type : LeafType}

theorem isExact_uppercase : uppercase.IsExact := by
  intro stack type
  cases type with
  | dependency classes nonNull => exact Dependency.mends_fixUppercase
  | _ => exact .of_cases fun value => .inl fun fix => rfl

/-- Numbers that need not be of unit length are left alone by the check, and so is all that is no
number. -/
theorem isExact_normals : normals.IsExact := by
  intro stack type
  cases type with
  | plain type =>
    cases type with
    | number shape rule =>
      by_cases wanted : rule.normalize = true
      · exact shape.mends_fixNormal.congr fun fix value => if_pos wanted
      · exact .of_cases fun value => .inl fun fix => if_neg wanted
    | _ => exact .of_cases fun value => .inl fun fix => rfl
  | _ => exact .of_cases fun value => .inl fun fix => rfl

/-- A mended reference is accepted exactly if its path can be written without upper-case
characters. -/
theorem uppercase_mended (value : type.Value) :
    (uppercase false stack type (uppercase.mend stack type value)).1 = false ↔
      type.isLowerable value = true := by
  cases type with
  | dependency classes nonNull =>
    have mended : (uppercase false stack (.dependency classes nonNull)
        (uppercase.mend stack (.dependency classes nonNull) value)).1 =
        (Dependency.path value).toList.any isUnmapped := Dependency.fixUppercase_mended value
    rw [mended]
    exact (Bool.not_eq_true' _).symm.to_iff
  | _ => exact iff_of_true rfl rfl

/-- A mended number is accepted exactly if its compounds have become ones of unit length, or need
not. -/
theorem normals_mended (value : type.Value) :
    (normals false stack type (normals.mend stack type value)).1 = false ↔
      type.AllNormals MathType.ReachesUnit value := by
  cases type with
  | plain type =>
    cases type with
    | number shape rule =>
      by_cases wanted : rule.normalize = true
      · have normal fix (value : shape.Value) :
            normals fix stack (.plain (.number shape rule)) value = shape.fixNormal fix value :=
          if_pos wanted
        have mended : normals.mend stack (.plain (.number shape rule)) value =
            (shape.fixNormal true value).2 := congrArg Prod.snd (normal true value)
        rw [mended, normal]
        exact NumberShape.fixNormal_mended.trans ⟨fun all _ => all, fun all => all wanted⟩
      · have kept : (normals false stack (.plain (.number shape rule))
            (normals.mend stack (.plain (.number shape rule)) value)).1 = false :=
          congrArg Prod.fst (if_neg wanted)
        exact iff_of_true kept fun wanted' => absurd wanted' wanted
    | _ => exact iff_of_true rfl trivial
  | _ => exact iff_of_true rfl trivial

end LeafCheck

/-! ### Values -/

namespace StructType

variable {type : StructType} {value : type.Value} {p q : (type : MathType) → type.Value → Prop}

/-- No path of a value has an upper-case character without a lower-case form. -/
def IsLowerable (type : StructType) (value : type.Value) : Prop :=
  type.Every (fun _ leaf value => leaf.isLowerable value = true) value

/-- All compounds of a value that have to be of length one have a property. -/
def AllNormals (type : StructType) (p : (type : MathType) → type.Value → Prop)
    (value : type.Value) : Prop :=
  type.Every (fun _ leaf value => leaf.AllNormals p value) value

instance : Decidable (type.IsLowerable value) := by unfold IsLowerable; infer_instance

instance [∀ type value, Decidable (p type value)] : Decidable (type.AllNormals p value) := by
  unfold AllNormals; infer_instance

/-- The validator of upper-case references accepts exactly the values without upper-case characters
that it cannot mend. -/
theorem uppercase_mended_iff :
    (type.traverse .uppercase false (type.traverse .uppercase true value).2).1 = false ↔
      type.IsLowerable value := by
  rw [(type.mends_traverse LeafCheck.isExact_uppercase).mended, traverse_mapLeaves_eq_false]
  exact every_congr fun _ _ value => LeafCheck.uppercase_mended value

/-- The validator of vectors accepts exactly the values of which all vectors are of unit length once
they are normalized. -/
theorem normals_mended_iff :
    (type.traverse .normals false (type.traverse .normals true value).2).1 = false ↔
      type.AllNormals MathType.ReachesUnit value := by
  rw [(type.mends_traverse LeafCheck.isExact_normals).mended, traverse_mapLeaves_eq_false]
  exact every_congr fun _ _ value => LeafCheck.normals_mended value

/-- And so it holds of a value. -/
theorem AllNormals.mono (mendable : ∀ leaf ∈ type.members.leaves, leaf.isMendable = true)
    (h : ∀ kind : MathType, kind.normalizable = true → ∀ value, p kind value → q kind value)
    (all : type.AllNormals p value) : type.AllNormals q value := by
  have every : type.Every (fun _ leaf _ => leaf.isMendable = true) value :=
    type.members.every_of_leaves (fun leaf mem _ _ => mendable leaf mem) value
  exact (every_both.mpr ⟨every, all⟩).mono fun _ _ value both => both.2.mono both.1 h

end StructType

/-- **Validators of references and vectors converge** on the values that they can mend. What the
first has mended it accepts, if no path has an upper-case character without a lower-case form. What
the second has mended it accepts, if every vector that has to be of length one is so once it is
normalized. Vectors of which the squared length is accurate are, and it is accurate at least where
it is a normal number. Nothing else is accepted (`uppercase_mended_iff`, `normals_mended_iff`). -/
theorem reference_and_vector_validators_converge {type : StructType} (known : type ∈ Catalog.types)
    (value : type.Value) :
    (type.IsLowerable value →
      (type.traverse .uppercase false (type.traverse .uppercase true value).2).1 = false) ∧
    (type.AllNormals MathType.ReachesUnit value →
      (type.traverse .normals false (type.traverse .normals true value).2).1 = false) ∧
    (type.AllNormals MathType.IsAccurate value → type.AllNormals MathType.ReachesUnit value) ∧
    (type.AllNormals (fun kind vector => kind.hasLength vector = true) value →
      type.AllNormals MathType.IsAccurate value) := by
  have mendable := List.all_eq_true.mp (Catalog.isMendable_types type known)
  refine ⟨StructType.uppercase_mended_iff.mpr, StructType.normals_mended_iff.mpr, ?accurate,
    ?normal⟩
  case accurate =>
    exact .mono mendable fun kind normalizable vector accurate =>
      .inr (kind.isNormalized_normalized normalizable accurate)
  case normal =>
    exact .mono mendable fun kind normalizable vector length =>
      kind.isAccurate_of_hasLength normalizable length

namespace Catalog

/-- A vehicle with a reference in upper case and an axis that is too long. -/
def untidy : vehicle.Value :=
  vehicle.changed [("model", .setDependency (.toTag .null "Vehicles\\Warthog")),
    ("wheel_axis", .setComponent 0 3), ("wheel_axis", .setComponent 1 4)]

/-- A vehicle with an axis in the plane. -/
def turning (x y : Float) : vehicle.Value :=
  vehicle.changed [("wheel_axis", .setComponent 0 x), ("wheel_axis", .setComponent 1 y)]

/-- A vehicle with an axis of length `2 ^ -64`. The square of that is no normal number, and yet has
all of its bits. -/
def faint : vehicle.Value := turning 5.421010862427522e-20 0

/-- Both validators find something in the first vehicle, and the second one in the other too. All of
it can be mended. -/
theorem mendable_found :
    (vehicle.IsLowerable untidy ∧ (vehicle.traverse .uppercase false untidy).1 = true) ∧
    (vehicle.AllNormals (fun kind vector => kind.hasLength vector = true) untidy ∧
      (vehicle.traverse .normals false untidy).1 = true) ∧
    ¬vehicle.AllNormals (fun kind vector => kind.hasLength vector = true) faint ∧
    vehicle.AllNormals MathType.ReachesUnit faint ∧
    (vehicle.traverse .normals false faint).1 = true := by
  decide +kernel

end Catalog

open Catalog in
theorem reference_and_vector_validators_converge_untidy :
    vehicle ∈ types ∧
    (vehicle.IsLowerable untidy ∧ (vehicle.traverse .uppercase false untidy).1 = true ∧
      (vehicle.traverse .uppercase false (vehicle.traverse .uppercase true untidy).2).1 =
        false) ∧
    (vehicle.AllNormals (fun kind vector => kind.hasLength vector = true) untidy ∧
      (vehicle.traverse .normals false untidy).1 = true ∧
      (vehicle.traverse .normals false (vehicle.traverse .normals true untidy).2).1 = false) ∧
    ¬vehicle.AllNormals (fun kind vector => kind.hasLength vector = true) faint ∧
    (vehicle.traverse .normals false faint).1 = true ∧
    (vehicle.traverse .normals false (vehicle.traverse .normals true faint).2).1 = false := by
  obtain ⟨⟨lowerable, upper⟩, ⟨lengths, long⟩, short, reaches, found⟩ := mendable_found
  obtain ⟨uppercase, normals, reach, accurate⟩ :=
    reference_and_vector_validators_converge vehicle_mem untidy
  obtain ⟨-, normals', -⟩ := reference_and_vector_validators_converge vehicle_mem faint
  exact ⟨vehicle_mem, ⟨lowerable, upper, uppercase lowerable⟩,
    ⟨lengths, long, normals (reach (accurate lengths))⟩, short, found, normals' reaches⟩

/-- Whether the components of the part of unit length are finite. -/
def MathType.isFinite (type : MathType) (value : type.Value) : Bool :=
  (type.normalPart value).all fun word => (type.single word).isFinite

namespace Catalog

/-- A vehicle with a reference. -/
def referring (path : String) : vehicle.Value :=
  vehicle.changed [("model", .setDependency (.toTag .null path))]

/-- What is found again after mending: an upper-case character without a lower-case form, an axis
of length zero, which normalizing leaves as it is, and axes of which the squared length is too large
for single precision, or so small that it loses its last bits. -/
theorem found_after_mending :
    vehicle ∈ types ∧
    (vehicle.traverse .uppercase false (vehicle.traverse .uppercase true (referring "𝐀")).2).1 =
      true ∧
    ∀ axis ∈ [(0, 0), (3e19, 4e19), (3.2e-23, 0)],
      vehicle.AllNormals (fun kind vector => kind.isFinite vector = true)
        (turning axis.1 axis.2) ∧
      (vehicle.traverse .normals false
        (vehicle.traverse .normals true (turning axis.1 axis.2)).2).1 = true := by
  refine ⟨vehicle_mem, ?_⟩
  decide +kernel

end Catalog

end TagSchema
