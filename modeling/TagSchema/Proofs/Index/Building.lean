import TagSchema.Proofs.Bundle.Constraints
import TagSchema.Proofs.Index.Traversal
import TagSchema.Proofs.Regular

/-!
# Builds stop at the bad indices

A build finds something wrong with the index of a member exactly if the validator does: both look
for the array in the stack of the structs around the member. So a build judges whether there is an
index that the validator finds, and these are the bad ones.
-/

namespace TagSchema

/-- The violation is an index that passes its array. -/
def Violation.IsIndex : Violation → Prop
  | .invalidIndex .. => True
  | _ => False

namespace Violation

variable {violation : Violation}

theorem IsNumeric.not_isIndex (h : violation.IsNumeric) : ¬violation.IsIndex := by
  intro isIndex
  cases violation <;> trivial

theorem IsEnum.not_isIndex (h : violation.IsEnum) : ¬violation.IsIndex := by
  intro isIndex
  cases violation <;> trivial

end Violation

open LeafProperty

/-- A member is without a bad index exactly if the validator of indices finds nothing in it. -/
theorem LeafType.without_isIndex {stack : ContainmentStack} {type : LeafType} {value : type.Value} :
    without Violation.IsIndex stack type value ↔ unfound .indices stack type value := by
  -- Only an index can be one that is out of range; for all other members both sides hold.
  cases type with
  | plain type =>
    have granted : granted Violation.IsIndex stack (.plain type) value :=
      fun _ found => nomatch found
    refine (and_iff_left granted).trans ?_
    cases type with
    | number shape rule =>
      refine iff_of_true (fun violation found => ?_) rfl
      exact (rule.isNumeric_of_violation? shape value found).not_isIndex
    | enum type shifted =>
      refine iff_of_true (fun violation found => ?_) ?_
      · exact (Violation.isEnum_of_ofEnum? found).not_isIndex
      · rfl
    | index target =>
      cases target with
      | none => exact iff_of_true (fun _ found => nomatch found) rfl
      | some target =>
        have verdict : ∀ index : Primitive.u16.Word,
            (∀ violation ∈ Violation.ofIndex? stack target.tags target.member index.toNat,
              ¬violation.IsIndex) ↔
            (if (stack.passedLength? target.tags target.member index.toNat).isSome then
              (true, index) else (false, index)).1 = false := by
          intro index
          rw [Violation.ofIndex?]
          cases stack.passedLength? target.tags target.member index.toNat with
          | none => exact iff_of_true (fun _ found => nomatch found) rfl
          | some length => exact iff_of_false (fun fine => fine _ rfl trivial) Bool.noConfusion
        exact verdict value
    | bitfield | tagId | tagString | fourCC | padding =>
      exact iff_of_true (fun _ found => nomatch found) rfl
  | dependency classes nonNull =>
    refine iff_of_true ⟨fun _ found => (nomatch found), fun violation refused => ?_⟩ rfl
    obtain rfl | rfl := Dependency.refusal?_cases refused <;> exact id
  | blob selector =>
    exact iff_of_true ⟨fun _ found => (nomatch found), fun _ found => (nomatch found)⟩ rfl

namespace StructType

variable {type : StructType}

/-- Building a value of the catalog judges its indices. -/
theorem judges_compileTag (mem : type ∈ Catalog.types) (tag : Nat) (value : type.Value) :
    Judges Violation.IsIndex (type.badIndices value = []) (type.compileTag tag value) := by
  refine (type.judges_without (fun _ => id) (fun _ => id) value).congr ?_
  have walk : type.traverse .indices false value = _ := type.members.traverse_indices []
    (ContainmentStack.holds_root (type.members.frame type.name value))
    (Catalog.isRouted_of_mem mem) false value
  have found : (type.traverse .indices false value).1 = false ↔ type.badIndices value = [] := by
    rw [walk, badIndices, List.filter_eq_nil_iff, List.any_eq_false]
    rfl
  rw [← found, traverse_eq_false]
  constructor
  · exact fun h => h.mono fun _ _ _ => LeafType.without_isIndex.mp
  · exact fun h => h.mono fun _ _ _ => LeafType.without_isIndex.mpr

end StructType

/-- The validator and the compiler agree on indices. The validator finds something exactly if there
is a bad index; told to mend, it sets just the bad indices to the null index. A build that checks
for errors fails if there is a bad index, and never blames an index otherwise. -/
theorem indices_agree {type : StructType} (mem : type ∈ Catalog.types) (value : type.Value) :
    type.traverse .indices false value = (!(type.badIndices value).isEmpty, value) ∧
    type.traverse .indices true value =
      (!(type.badIndices value).isEmpty, type.nullBadIndices value) ∧
    type.members.indices [] (type.nullBadIndices value) =
      ((type.members.indices [] value).map fun (place, index) =>
        (place, if type.isBad value place index then nullIndex.toBitVec else index)) ∧
    ∀ (w : Workload) (tag : Nat), w.options.disableErrorChecking = false →
      (type.badIndices value ≠ [] →
        ∃ failure, (outcome (type.compileTag tag value) w).1 = .error failure) ∧
      ∀ failure, (outcome (type.compileTag tag value) w).1 = .error failure →
        failure.Blames Violation.IsIndex → type.badIndices value ≠ [] := by
  have found : ((type.members.indices [] value).any fun entry =>
      type.isBad value entry.1 entry.2) = !(type.badIndices value).isEmpty := by
    rw [StructType.badIndices, Bool.eq_iff_iff]
    simp
  have walk := fun fix => type.members.traverse_indices [] (ContainmentStack.holds_root
    (type.members.frame type.name value)) (Catalog.isRouted_of_mem mem) fix value
  refine ⟨found ▸ walk false, found ▸ walk true, type.members.indices_mapIndices _ [] value,
    fun w tag on => ⟨fun bad => ?_, fun failure failed blames => ?_⟩⟩
  · obtain ⟨-, verdict⟩ := type.judges_compileTag mem tag value w on
    cases result : (outcome (type.compileTag tag value) w).1 with
    | ok k =>
      rw [result] at verdict
      exact absurd verdict bad
    | error failure => exact ⟨failure, rfl⟩
  · obtain ⟨-, verdict⟩ := type.judges_compileTag mem tag value w on
    rw [failed] at verdict
    exact verdict blames

namespace Catalog

/-- A weapon with a trigger but no magazine. -/
def unloaded : weapon.Value := weapon.changed [("triggers", .insert 0)]

theorem badIndices_unloaded :
    weapon.badIndices unloaded = [(⟨[("triggers", 0)], "magazine"⟩, 0)] := by
  decide +kernel

end Catalog

open Catalog in
theorem indices_agree_unloaded :
    weapon.traverse .indices false unloaded = (true, unloaded) ∧
    weapon.traverse .indices true unloaded = (true, weapon.nullBadIndices unloaded) ∧
    ∃ failure, (outcome (weapon.compileTag 0 unloaded) { options := {} }).1 = .error failure := by
  have bad := badIndices_unloaded
  obtain ⟨finds, mends, -, builds⟩ := indices_agree weapon_mem unloaded
  rw [bad] at finds mends builds
  exact ⟨finds, mends, (builds { options := {} } 0 rfl).1 (List.cons_ne_nil _ _)⟩

end TagSchema
