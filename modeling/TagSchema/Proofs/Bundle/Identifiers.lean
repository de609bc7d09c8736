import TagSchema.Proofs.Bundle.Reachable
import TagSchema.Proofs.Bundle.Registry
import TagSchema.Proofs.Tag.Id

/-!
# What identifiers name

A reference is stored as an identifier, which keeps sixteen bits of the index of the tag. However a
build goes on, its bundle finds the tag behind the identifier as long as the index has no more bits
than that. Beyond, the identifier is still not the null one, but names an earlier tag.
-/

namespace TagSchema

open Workload

variable {w w' later : Workload}

namespace Workload

/-- The references to the registered tags, in the order of registration. -/
def references (w : Workload) : List (String × TagClass) := w.tags.map RegisteredTag.reference

/-- What a workload can become, whether what is done with it succeeds or not. -/
inductive Continued (w : Workload) : Workload → Prop
  | refl : Continued w w
  | register {later : Workload} (path : String) (tagClass : TagClass)
      (continued : Continued w later) : Continued w (outcome (register path tagClass) later).2
  | setBaseStruct {later : Workload} (tag struct : Nat) (continued : Continued w later) :
      Continued w (outcome (setBaseStruct tag struct) later).2
  | compileTag {later : Workload} {type : StructType} (mem : type ∈ Catalog.types) (tag : Nat)
      (value : type.Value) (continued : Continued w later) :
      Continued w (outcome (type.compileTag tag value) later).2

/-- Base structs do not matter for references. -/
theorem references_setBaseStruct (tag struct : Nat) (w : Workload) :
    (outcome (setBaseStruct tag struct) w).2.references = w.references := by
  cases found : w.tags[tag]? with
  | none => rw [outcome_setBaseStruct_none found]
  | some registered =>
    obtain ⟨inside, rfl⟩ := List.getElem?_eq_some_iff.mp found
    rw [outcome_setBaseStruct found, references, List.map_set]
    refine (congrArg (List.set _ tag) ?_).trans (List.set_getElem_self (by simpa using inside))
    rw [List.getElem_map]
    rfl

/-- No reference is registered twice. -/
theorem Reachable.nodup_references (reachable : w.Reachable) : w.references.Nodup := by
  induction reachable with
  | new options => exact List.nodup_nil
  | @register w path tagClass _ ih =>
    have grown : Extends 0 w _ := .register path tagClass w
    exact grown.distinct ih
  | setBaseStruct tag struct _ ih => rwa [references_setBaseStruct]
  | @compileTag w type mem tag value _ ih =>
    exact (type.extends_compileTag tag value (Catalog.isPackedRegular_of_mem mem) w).distinct ih

/-- However a workload goes on, its references keep their indices, and none is registered twice. -/
theorem Continued.references (continued : Continued w later) :
    w.references <+: later.references ∧ (w.references.Nodup → later.references.Nodup) := by
  induction continued with
  | refl => exact ⟨List.prefix_refl _, id⟩
  | @register later path tagClass _ ih =>
    have grown : Extends 0 later _ := .register path tagClass later
    exact ⟨ih.1.trans (grown.tags.map _), grown.distinct ∘ ih.2⟩
  | setBaseStruct tag struct _ ih => rwa [references_setBaseStruct]
  | @compileTag later type mem tag value _ ih =>
    have grown := type.extends_compileTag tag value (Catalog.isPackedRegular_of_mem mem) later
    exact ⟨ih.1.trans (grown.tags.map _), grown.distinct ∘ ih.2⟩

/-- A dependency that is not null is registered, and its handle has the identifier of the index. -/
theorem compileDependency_eq_ok {tag struct offset : Nat} {site : Site} {classes : List TagClass}
    {nonNull : Bool} {d : Dependency} {handle : DependencyHandle} (path : d.isNull = false)
    (ends : outcome (compileDependency tag struct offset site classes nonNull d) w =
      (.ok handle, w')) :
    handle.id = .ofIndex (tagIndex w'.tags d.path d.tagClass) ∧
      w'.tags = (registerIn w.tags d.path d.tagClass).1 := by
  unfold compileDependency at ends
  simp only [path, Bool.false_eq_true, if_false] at ends
  split at ends
  · obtain ⟨_, _, failed, -⟩ := outcome_bind_eq_ok ends
    cases failed
  rw [outcome_bind_ok (outcome_register _ _ w)] at ends
  obtain ⟨_, noted, added, ends⟩ := outcome_bind_eq_ok ends
  obtain ⟨rfl, same⟩ := outcome_pure_eq_ok ends
  -- Noting the dependency in the struct leaves the tags alone.
  have tags : w'.tags = (registerIn w.tags d.path d.tagClass).1 := by
    obtain ⟨failure, failed⟩ | ⟨s, s', found, -⟩ := outcome_updateStruct_cases struct _ _
    · cases added.symm.trans failed
    · cases added.symm.trans (outcome_addDependency _ _ found)
      rw [same]
      rfl
  refine ⟨?_, tags⟩
  rw [tags, tagIndex_eq (List.prefix_refl _)]

theorem extends_compileDependency {tag struct offset : Nat} {site : Site} {classes : List TagClass}
    {nonNull : Bool} {d : Dependency} {handle : DependencyHandle}
    (ends : outcome (compileDependency tag struct offset site classes nonNull d) w =
      (.ok handle, w')) : Extends 0 w w' := by
  have := @Extends.compileDependency 0 struct w offset tag site classes nonNull d (Nat.zero_le _)
  rwa [ends] at this

end Workload

namespace Bundle

variable {bundle : Bundle} {read : Nat}

theorem tags_ofWorkload (finished : Bundle.ofWorkload w read = .ok bundle) :
    bundle.tags = w.tags := by
  unfold ofWorkload at finished
  split at finished
  · obtain ⟨memory, -, finished⟩ := Except.bind_eq_ok finished
    split at finished
    · cases finished
      rfl
    · cases finished
  · cases finished

/-- A workload with sound pointers becomes a bundle for each tag that has a base struct. -/
theorem exists_ofWorkload (sound : w.Sound) {base : Nat}
    (based : (w.tags[read]?).bind (·.baseStruct) = some base) (inside : base < w.structs.length) :
    ∃ bundle, Bundle.ofWorkload w read = .ok bundle := by
  have begins := List.getElem?_eq_getElem (by rwa [length_offsets 0 w.structs])
  unfold ofWorkload
  rw [based]
  dsimp only
  rw [layOut_eq_ok sound, begins]
  exact ⟨_, rfl⟩

/-- Looking up the identifier of an index finds what sixteen bits of the index lead to. -/
theorem lookup_ofIndex (finished : Bundle.ofWorkload w read = .ok bundle) (index : Nat)
    (reference : String × TagClass) :
    bundle.lookup (.ofIndex index) = .ok reference ↔
      w.references[index % 65536]? = some reference := by
  rw [lookup, TagId.index?_ofIndex_mod, Option.bind_some, tags_ofWorkload finished, references,
    List.getElem?_map]
  cases w.tags[index % 65536]? with
  | none => simp
  | some tag => simp [RegisteredTag.reference]

end Bundle

/-- In the bundle of what a workload becomes, the identifier of a registered reference finds the
reference as long as its index has sixteen bits. -/
theorem lookup_reference_iff (distinct : w.references.Nodup) {reference : String × TagClass}
    (registered : reference ∈ w.references) (continued : Continued w later) {read : Nat}
    {bundle : Bundle} (finished : Bundle.ofWorkload later read = .ok bundle) :
    bundle.lookup (.ofIndex (tagIndex w.tags reference.1 reference.2)) = .ok reference ↔
      tagIndex w.tags reference.1 reference.2 < 65536 := by
  obtain ⟨kept, keepsDistinct⟩ := continued.references
  rw [Bundle.lookup_ofIndex finished, tagIndex_eq_idxOf]
  change later.references[w.references.idxOf reference % 65536]? = _ ↔
    w.references.idxOf reference < 65536
  have inside := List.idxOf_lt_length_of_mem registered
  have here : later.references[w.references.idxOf reference]? = some reference :=
    (List.prefix_iff_getElem?.mp kept _ inside).trans
      ((List.getElem?_eq_getElem inside).symm.trans (List.getElem?_idxOf registered))
  constructor
  · intro found
    have same := (List.getElem?_inj (Nat.lt_of_lt_of_le inside kept.length_le)
      (keepsDistinct distinct)).mp (here.trans found.symm)
    omega
  · intro few
    rwa [Nat.mod_eq_of_lt few]

/-- A dependency that may be of any class is compiled on behalf of any struct of the pool. -/
theorem exists_compileDependency {struct : Nat} (h : struct < w.structs.length) (tag offset : Nat)
    (site : Site) (nonNull : Bool) {d : Dependency} (path : d.isNull = false) :
    ∃ handle w', outcome (compileDependency tag struct offset site [] nonNull d) w =
      (.ok handle, w') := by
  unfold compileDependency
  simp only [path, Bool.false_eq_true, if_false, List.isEmpty_nil, Bool.not_true, Bool.false_and]
  have added := outcome_addDependency offset (registerIn w.tags d.path d.tagClass).2
    (w := { w with tags := (registerIn w.tags d.path d.tagClass).1 })
    (List.getElem?_eq_getElem h)
  rw [outcome_bind_ok (outcome_register _ _ w), outcome_bind_ok added]
  exact ⟨_, _, rfl⟩

/-- The handle of a reference has the identifier of the index under which it is registered. -/
theorem references_compileDependency (reachable : w.Reachable) {tag struct offset : Nat}
    {site : Site} {classes : List TagClass} {nonNull : Bool} {d : Dependency}
    {handle : DependencyHandle} (path : d.isNull = false)
    (compiled : outcome (compileDependency tag struct offset site classes nonNull d) w =
      (.ok handle, w')) :
    handle.id = .ofIndex (tagIndex w'.tags d.path d.tagClass) ∧ w'.references.Nodup ∧
      (d.path, d.tagClass) ∈ w'.references := by
  obtain ⟨id, tags⟩ := compileDependency_eq_ok path compiled
  refine ⟨id, (extends_compileDependency compiled).distinct reachable.nodup_references, ?_⟩
  rw [references, tags]
  exact mem_registerAll.mpr (.inr (List.mem_singleton_self (d.path, d.tagClass)))

/-- Compiling a dependency that is not null gives an identifier that is not null. In every bundle
finished later the identifier finds some registered tag, which is the one referred to as long as
there were fewer than 65536 tags before it. -/
theorem lookup_compileDependency (reachable : w.Reachable) {tag struct offset : Nat} {site : Site}
    {classes : List TagClass} {nonNull : Bool} {d : Dependency} {handle : DependencyHandle}
    (path : d.isNull = false)
    (compiled : outcome (compileDependency tag struct offset site classes nonNull d) w =
      (.ok handle, w')) :
    handle.id.isNull = false ∧
    ∀ later, Continued w' later → ∀ read bundle, Bundle.ofWorkload later read = .ok bundle →
      (∃ reference ∈ w'.references, bundle.lookup handle.id = .ok reference) ∧
      (bundle.lookup handle.id = .ok (d.path, d.tagClass) ↔
        tagIndex w'.tags d.path d.tagClass < 65536) := by
  obtain ⟨id, distinct, registered⟩ := references_compileDependency reachable path compiled
  refine ⟨id ▸ TagId.isNull_ofIndex _, fun later continued read bundle finished => ⟨?_, ?_⟩⟩
  · have inside : tagIndex w'.tags d.path d.tagClass % 65536 < w'.references.length := by
      refine Nat.lt_of_le_of_lt (Nat.mod_le _ _) ?_
      rw [tagIndex_eq_idxOf]
      exact List.idxOf_lt_length_of_mem registered
    refine ⟨_, List.getElem_mem inside, ?_⟩
    rw [id, Bundle.lookup_ofIndex finished]
    exact List.prefix_iff_getElem?.mp continued.references.1 _ inside
  · rw [id]
    exact lookup_reference_iff distinct registered continued finished

/-! ### A crowded registry -/

namespace Catalog

/-- The workload after a pistol has been built as the base struct of the first tag. -/
def equip (w : Workload) : Workload :=
  (outcome (setBaseStruct 0 0) (outcome (weapon.compileTag 0 pistol) w).2).2

theorem continued_equip (w : Workload) : Continued w (equip w) :=
  .setBaseStruct 0 0 (.compileTag weapon_mem 0 pistol .refl)

theorem equip_reachable (reachable : w.Reachable) : (equip w).Reachable :=
  .setBaseStruct 0 0 (.compileTag weapon_mem 0 pistol reachable)

/-- Whether or not the pistol could be built, the first tag has a base struct. -/
theorem equip_based (h : 0 < w.tags.length) : 0 < (equip w).structs.length ∧
    ((equip w).tags[0]?).bind (·.baseStruct) = some 0 := by
  have regular := isPackedRegular_of_mem weapon_mem
  have tags := (weapon.extends_compileTag 0 pistol regular w).tags
  have first : 0 < (outcome (weapon.compileTag 0 pistol) w).2.tags.length :=
    Nat.lt_of_lt_of_le h tags.length_le
  rw [equip, outcome_setBaseStruct (List.getElem?_eq_getElem first)]
  refine ⟨Nat.zero_lt_of_lt (weapon.room_compileTag 0 pistol regular w).lt_length, ?_⟩
  rw [List.getElem?_set_self first]
  rfl

/-- Any dependency can be compiled then, and the workload finished. -/
theorem equip_ready (reachable : w.Reachable) (h : 0 < w.tags.length) {d : Dependency}
    (path : d.isNull = false) : ∃ handle w' bundle,
      outcome (compileDependency 0 0 0 ⟨"Weapon", "model"⟩ [] false d) (equip w) =
        (.ok handle, w') ∧ Bundle.ofWorkload w' 0 = .ok bundle := by
  obtain ⟨pool, based⟩ := equip_based h
  obtain ⟨handle, w', compiled⟩ :=
    exists_compileDependency pool 0 0 ⟨"Weapon", "model"⟩ false path
  have grown := extends_compileDependency compiled
  have sound : w'.Sound :=
    grown.sound (equip_reachable reachable).sound
  have based' : (w'.tags[0]?).bind (·.baseStruct) = some 0 := by
    obtain ⟨tag, first, _⟩ := Option.bind_eq_some_iff.mp based
    obtain ⟨more, tags⟩ := grown.tags
    rw [← tags, List.getElem?_append_left (List.getElem?_eq_some_iff.mp first).1, based]
  have pool' : 0 < w'.structs.length := by
    obtain ⟨s, found, -⟩ := grown.lengths 0 _ (List.getElem?_eq_getElem pool)
    exact (List.getElem?_eq_some_iff.mp found).1
  obtain ⟨bundle, finished⟩ := Bundle.exists_ofWorkload sound based' pool'
  exact ⟨handle, w', bundle, compiled, finished⟩

/-- A reference to the pistol itself. -/
def holster : Dependency := .toTag ⟨0x77656170⟩ "weapons\\pistol"

end Catalog

open Catalog in
theorem lookup_compileDependency_holster : ∃ handle w' bundle,
    (equip armory).Reachable ∧
    outcome (compileDependency 0 0 0 ⟨"Weapon", "model"⟩ [] false holster) (equip armory) =
      (.ok handle, w') ∧ Bundle.ofWorkload w' 0 = .ok bundle ∧ handle.id.isNull = false ∧
      bundle.lookup handle.id = .ok (holster.path, holster.tagClass) := by
  have path : holster.isNull = false := by decide
  have reachable := equip_reachable armory_reachable
  obtain ⟨handle, w', bundle, compiled, finished⟩ :=
    equip_ready armory_reachable (by decide) path
  obtain ⟨notNull, finds⟩ := lookup_compileDependency reachable path compiled
  refine ⟨handle, w', bundle, reachable, compiled, finished, notNull, ?_⟩
  refine (finds w' .refl 0 bundle finished).2.mpr ?_
  -- The pistol is the first tag of the armory.
  obtain ⟨more, kept⟩ : armory.references <+: w'.references :=
    (continued_equip armory).references.1.trans ((extends_compileDependency compiled).tags.map _)
  have first : armory.references = [(holster.path, holster.tagClass)] := rfl
  rw [tagIndex_eq_idxOf, ← references, ← kept, first, List.singleton_append, List.idxOf_cons_self]
  decide

namespace Catalog

/-- A number of references. -/
def fillers (count : Nat) : List (String × TagClass) :=
  (List.range count).map fun i => ("filler", ⟨UInt32.ofNat i⟩)

/-- A reference that is registered after them. -/
def late : Dependency := .toTag ⟨0x65716970⟩ "powerups\\magazine"

/-- The armory with all these references. -/
def crowd (count : Nat) : Workload :=
  (outcome (registerEach (fillers count ++ [(late.path, late.tagClass)])) armory).2

theorem crowd_reachable (count : Nat) : (crowd count).Reachable :=
  .registerEach _ armory_reachable

variable {count : Nat}

theorem nodup_fillers (h : count ≤ UInt32.size) : (fillers count).Nodup := by
  refine List.Nodup.map_on (fun i hi j hj same => ?_) List.nodup_range
  have codes := congrArg (fun reference => reference.2.code.toNat) same
  simp only [UInt32.toNat_ofNat'] at codes
  rwa [Nat.mod_eq_of_lt (Nat.lt_of_lt_of_le (List.mem_range.mp hi) h),
    Nat.mod_eq_of_lt (Nat.lt_of_lt_of_le (List.mem_range.mp hj) h)] at codes

/-- The index of the last reference is no less than the number of those before it. -/
theorem le_tagIndex_late (h : count ≤ UInt32.size)
    (kept : (crowd count).references <+: w.references) :
    count ≤ tagIndex w.tags late.path late.tagClass := by
  let before := registerAll armory.tags (fillers count)
  -- Neither the armory nor the fillers have the late tag: its path is none of theirs.
  have missing : (late.path, late.tagClass) ∉ before.map RegisteredTag.reference := by
    intro mem
    obtain old | filler := mem_registerAll.mp mem
    · revert old
      decide
    · obtain ⟨i, -, same⟩ := List.mem_map.mp filler
      have : "filler" ≠ late.path := by decide
      exact this (congrArg Prod.fst same)
  have crowded : (crowd count).references = before.map RegisteredTag.reference ++
      [(late.path, late.tagClass)] := by
    rw [crowd, outcome_registerEach, references, registerAll, List.foldl_append]
    exact (map_reference_registerIn before (late.path, late.tagClass)).trans (if_neg missing)
  -- The fillers are distinct, so each of them takes a position of its own.
  have many : (fillers count).length ≤ (before.map RegisteredTag.reference).length :=
    ((nodup_fillers h).subperm fun _ h => mem_registerAll.mpr (.inr h)).length_le
  obtain ⟨more, kept⟩ := kept
  rw [tagIndex_eq_idxOf, ← references, ← kept, crowded, List.append_assoc,
    List.idxOf_append_of_notMem missing]
  rw [fillers, List.length_map, List.length_range] at many
  exact Nat.le_trans many (Nat.le_add_right _ _)

/-- In a crowd the identifier of the last reference does not find it. -/
theorem lookup_late (many : 65536 ≤ count) (few : count ≤ UInt32.size) : ∃ handle w' bundle,
    outcome (compileDependency 0 0 0 ⟨"Weapon", "model"⟩ [] false late) (equip (crowd count)) =
      (.ok handle, w') ∧ Bundle.ofWorkload w' 0 = .ok bundle ∧
      bundle.lookup handle.id ≠ .ok (late.path, late.tagClass) := by
  have path : late.isNull = false := by decide
  have first : 0 < (crowd count).tags.length := by
    rw [crowd, outcome_registerEach]
    exact Nat.lt_of_lt_of_le (by decide) (prefix_registerAll armory.tags _).length_le
  obtain ⟨handle, w', bundle, compiled, finished⟩ :=
    equip_ready (crowd_reachable count) first path
  refine ⟨handle, w', bundle, compiled, finished, fun found => ?_⟩
  obtain ⟨id, distinct, registered⟩ := references_compileDependency
    (equip_reachable (crowd_reachable count)) path compiled
  rw [id, lookup_reference_iff distinct registered .refl finished] at found
  have kept : (crowd count).references <+: w'.references :=
    (continued_equip (crowd count)).references.1.trans
      ((extends_compileDependency compiled).tags.map _)
  exact absurd found (Nat.not_lt.mpr (Nat.le_trans many (le_tagIndex_late few kept)))

end Catalog

open Catalog in
/-- After 65536 other tags, the identifier of a reference finds another tag. -/
theorem lookup_compileDependency_late : (equip (crowd 65536)).Reachable ∧ late.isNull = false ∧
    ∃ handle w' bundle,
      outcome (compileDependency 0 0 0 ⟨"Weapon", "model"⟩ [] false late) (equip (crowd 65536)) =
        (.ok handle, w') ∧ Bundle.ofWorkload w' 0 = .ok bundle ∧
        bundle.lookup handle.id ≠ .ok (late.path, late.tagClass) :=
  ⟨equip_reachable (crowd_reachable 65536), by decide, lookup_late (Nat.le_refl 65536) (by decide)⟩

end TagSchema
