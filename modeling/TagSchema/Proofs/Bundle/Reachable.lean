import TagSchema.Proofs.Bundle.Growth
import TagSchema.Proofs.Bundle.Layout

/-!
# Workloads of a build

The workloads that a build can come to: a new one, and whatever it becomes when tags are registered,
get base structs and are built, in any order and whether that succeeds or not.
-/

namespace TagSchema.Workload

/-- The workloads that a build can come to. -/
inductive Reachable : Workload → Prop
  | new (options : BuildOptions) : Reachable { options }
  | register {w : Workload} (path : String) (tagClass : TagClass) (reachable : Reachable w) :
      Reachable (outcome (register path tagClass) w).2
  | setBaseStruct {w : Workload} (tag struct : Nat) (reachable : Reachable w) :
      Reachable (outcome (setBaseStruct tag struct) w).2
  | compileTag {w : Workload} {type : StructType} (mem : type ∈ Catalog.types) (tag : Nat)
      (value : type.Value) (reachable : Reachable w) :
      Reachable (outcome (type.compileTag tag value) w).2

theorem sound_of_structs_eq {w w' : Workload} (sound : w.Sound) (h : w'.structs = w.structs) :
    w'.Sound := by
  unfold Sound
  rw [h]
  exact sound

theorem structs_setBaseStruct (tag struct : Nat) (w : Workload) :
    (outcome (setBaseStruct tag struct) w).2.structs = w.structs := by
  cases found : w.tags[tag]? with
  | none => rw [outcome_setBaseStruct_none found]
  | some registered => rw [outcome_setBaseStruct found]

/-- The pointers of a build are sound. -/
theorem Reachable.sound {w : Workload} (reachable : Reachable w) : w.Sound := by
  induction reachable with
  | new options => exact fun s hs => nomatch hs
  | register path tagClass _ ih => exact sound_of_structs_eq ih rfl
  | setBaseStruct tag struct _ ih =>
    exact sound_of_structs_eq ih (structs_setBaseStruct tag struct _)
  | compileTag mem tag value _ ih =>
    exact (StructType.extends_compileTag tag value (Catalog.isPackedRegular_of_mem mem) _).sound ih

theorem outcome_registerEach (references : List (String × TagClass)) (w : Workload) :
    outcome (registerEach references) w =
      (.ok (), { w with tags := registerAll w.tags references }) := by
  have tags := (TagTable.Faithful.ofTags w.tags).toList_tags_foldl_insert references
  exact congrArg (fun tags => (Except.ok (), { w with tags })) tags

/-- Registering many tags at once comes to what registering one after another does. -/
theorem Reachable.registerEach {w : Workload} (references : List (String × TagClass))
    (reachable : Reachable w) : Reachable (outcome (registerEach references) w).2 := by
  induction references generalizing w with
  | nil =>
    rw [outcome_registerEach]
    exact reachable
  | cons reference rest ih =>
    have later := ih (reachable.register reference.1 reference.2)
    rw [outcome_registerEach] at later ⊢
    exact later

end TagSchema.Workload

namespace TagSchema.Catalog

/-- A new build, without checks, with a tag for a weapon. -/
def armory : Workload :=
  (outcome (Workload.register "weapons\\pistol" ⟨0x77656170⟩)
    { options := { disableErrorChecking := true } }).2

theorem armory_reachable : armory.Reachable := .register _ _ (.new _)

/-- The pistol is built as the first struct, in little space. -/
theorem pistol_compiles :
    let result := outcome (weapon.compileTag 0 pistol) armory
    result.1.toOption = some 0 ∧ result.2.tags.length ≤ 65536 ∧
      Bundle.baseAddress.toNat + Bundle.extent result.2.structs < UInt32.size := by
  decide +kernel

theorem pistol_compiles_eq_ok :
    (outcome (weapon.compileTag 0 pistol) armory).1 = .ok 0 :=
  Except.eq_ok_of_toOption pistol_compiles.1

end TagSchema.Catalog
