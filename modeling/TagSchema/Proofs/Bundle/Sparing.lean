import Mathlib.Logic.Relation
import TagSchema.Proofs.Bundle.Reachable

/-!
# Builds that spare some bytes

A build is a run of steps: tags, raw data and structs are added, bytes are written, places get
pointers, and whole structs are built, in any order and whether that succeeds or not. Bytes that no
step touches are the same in the end, and no new pointer has its slot there.
-/

namespace TagSchema

/-- A struct at a later time: it is as long as before, the spared bytes are the same, and the slots
of the pointers that have been added do not reach into them. -/
structure PoolStruct.Spares (spared : Nat → Prop) (old new : PoolStruct) : Prop where
  length : new.data.length = old.data.length
  bytes : ∀ i, spared i → new.data[i]? = old.data[i]?
  pointers : ∃ added, new.pointers = old.pointers ++ added ∧
    ∀ p ∈ added, ∀ i, spared i → i < p.offset ∨ p.offset + 4 ≤ i

namespace PoolStruct.Spares

variable {spared : Nat → Prop} {s s' s'' : PoolStruct}

/-- A struct that stays as it is spares everything. -/
theorem refl (spared : Nat → Prop) (s : PoolStruct) : s.Spares spared s where
  length := rfl
  bytes _ _ := rfl
  pointers := ⟨[], (List.append_nil _).symm, fun _ hp => nomatch hp⟩

/-- What is spared by two changes is spared by both together. -/
theorem trans (h : s.Spares spared s') (h' : s'.Spares spared s'') : s.Spares spared s'' where
  length := h'.length.trans h.length
  bytes i here := (h'.bytes i here).trans (h.bytes i here)
  pointers := by
    obtain ⟨added, grown, apart⟩ := h.pointers
    obtain ⟨added', grown', apart'⟩ := h'.pointers
    refine ⟨added ++ added', ?_, List.forall_mem_append.mpr ⟨apart, apart'⟩⟩
    rw [grown', grown, List.append_assoc]

theorem mono {spared' : Nat → Prop} (fewer : ∀ i, spared' i → spared i) (h : s.Spares spared s') :
    s.Spares spared' s' where
  length := h.length
  bytes i here := h.bytes i (fewer i here)
  pointers := by
    obtain ⟨added, grown, apart⟩ := h.pointers
    exact ⟨added, grown, fun p hp i here => apart p hp i (fewer i here)⟩

/-- A pointer spares the positions that it does not cover. -/
theorem joined {pointers : List StructPointer} (dependencies : List StructDependency)
    (apart : ∀ p ∈ pointers, ∀ i, spared i → i < p.offset ∨ p.offset + 4 ≤ i) :
    s.Spares spared (s.joined pointers dependencies) where
  length := rfl
  bytes _ _ := rfl
  pointers := ⟨pointers, rfl, apart⟩

/-- Bytes spare the positions that they are not written to. -/
theorem written {offset : Nat} {bytes : Bytes} (inside : offset + bytes.length ≤ s.data.length)
    (apart : ∀ i, spared i → i < offset ∨ offset + bytes.length ≤ i) :
    s.Spares spared (s.written offset bytes) where
  length := Bytes.length_overwrite _ _ _ inside
  bytes i here := Bytes.getElem?_overwrite_of_apart _ _ inside (apart i here)
  pointers := ⟨[], (List.append_nil _).symm, fun _ hp => nomatch hp⟩

/-- A window of spared bytes. -/
theorem slice? (h : s.Spares spared s') {offset size : Nat}
    (window : ∀ i, offset ≤ i → i < offset + size → spared i) :
    s'.data.slice? offset size = s.data.slice? offset size :=
  Bytes.slice?_congr h.length fun i above below => h.bytes i (window i above below)

end PoolStruct.Spares

namespace Workload

/-! ### Steps -/

/-- One step of a build, whether it succeeds or not. It does not write what is spared, which is
given by structs and positions in them, and a pointer that it adds has its slot in its struct, apart
from what is spared, and leads to a struct of the pool. -/
inductive Step (spared : Nat → Nat → Prop) (w : Workload) : Workload → Prop
  | register (path : String) (tagClass : TagClass) :
      Step spared w (outcome (register path tagClass) w).2
  | setBaseStruct (tag struct : Nat) : Step spared w (outcome (setBaseStruct tag struct) w).2
  | report (severity : Severity) (tag : Option Nat) (message : String) :
      Step spared w (outcome (report severity tag message) w).2
  | addRawData (data : Bytes) : Step spared w (outcome (addRawData data) w).2
  | addStruct (data : Bytes) : Step spared w (outcome (addStruct data) w).2
  | addDependency (struct offset tag : Nat) :
      Step spared w (outcome (addDependency struct offset tag) w).2
  | addPointer {struct offset target : Nat} (room : w.Room struct (offset + 4))
      (leads : target < w.structs.length)
      (apart : ∀ i, spared struct i → i < offset ∨ offset + 4 ≤ i) :
      Step spared w (outcome (addPointer struct offset target) w).2
  | overwrite {struct offset : Nat} {bytes : Bytes}
      (apart : ∀ i, spared struct i → i < offset ∨ offset + bytes.length ≤ i) :
      Step spared w (outcome (overwrite struct offset bytes) w).2
  | compileTag {type : StructType} (mem : type ∈ Catalog.types) (tag : Nat) (value : type.Value) :
      Step spared w (outcome (type.compileTag tag value) w).2

/-- A build that goes on for some steps. -/
abbrev Runs (spared : Nat → Nat → Prop) : Workload → Workload → Prop :=
  Relation.ReflTransGen (Step spared)

/-! ### What steps spare -/

/-- A workload at a later time: its structs have kept what is spared, its raw data is there, and its
pointers are sound if they were. -/
structure Spares (spared : Nat → Nat → Prop) (old new : Workload) : Prop where
  structs : ∀ (i : Nat) s, old.structs[i]? = some s →
    ∃ s', new.structs[i]? = some s' ∧ s.Spares (spared i) s'
  rawData : old.rawData <+: new.rawData
  sound : old.Sound → new.Sound

namespace Spares

variable {spared : Nat → Nat → Prop} {w w' w'' : Workload} {struct : Nat} {s s' : PoolStruct}

/-- What is spared by two runs is spared by both together. -/
theorem trans (h : Spares spared w w') (h' : Spares spared w' w'') : Spares spared w w'' where
  structs i s found := by
    obtain ⟨s', found', spares⟩ := h.structs i s found
    obtain ⟨s'', found'', spares'⟩ := h'.structs i s' found'
    exact ⟨s'', found'', spares.trans spares'⟩
  rawData := h.rawData.trans h'.rawData
  sound := h'.sound ∘ h.sound

theorem mono {spared' : Nat → Nat → Prop} (fewer : ∀ i position, spared' i position →
    spared i position) (h : Spares spared w w') : Spares spared' w w' where
  structs i s found := by
    obtain ⟨s', found', spares⟩ := h.structs i s found
    exact ⟨s', found', spares.mono (fewer i)⟩
  rawData := h.rawData
  sound := h.sound

/-- What leaves all structs alone spares everything. -/
theorem of_extends (h : Extends w.structs.length w w') : Spares spared w w' where
  structs i s found :=
    ⟨s, h.kept i (List.getElem?_eq_some_iff.mp found).1 s found, .refl _ s⟩
  rawData := h.rawData
  sound := h.sound

theorem refl (spared : Nat → Nat → Prop) (w : Workload) : Spares spared w w :=
  .of_extends (.refl _ w)

/-- A change to one struct spares of the workload what it spares of the struct. -/
theorem setStruct (found : w.structs[struct]? = some s) (spares : s.Spares (spared struct) s')
    (pointers : ∀ pointer ∈ s'.pointers, pointer ∈ s.pointers ∨
      pointer.offset + 4 ≤ s.data.length ∧ pointer.target < w.structs.length) :
    Spares spared w (w.withStructs (w.structs.set struct s')) where
  structs i t h := by
    by_cases same : struct = i
    · subst same
      cases found.symm.trans h
      exact ⟨s', List.getElem?_set_self (List.getElem?_eq_some_iff.mp found).1, spares⟩
    · exact ⟨t, (List.getElem?_set_ne same).trans h, .refl _ t⟩
  rawData := List.prefix_refl _
  sound := (Extends.setStruct found (Nat.zero_le _) spares.length pointers).sound

end Spares

variable {spared : Nat → Nat → Prop} {w w' : Workload}

/-- A base struct is not part of the raw data. -/
theorem rawData_setBaseStruct (tag struct : Nat) (w : Workload) :
    (outcome (setBaseStruct tag struct) w).2.rawData = w.rawData := by
  cases found : w.tags[tag]? with
  | none => rw [outcome_setBaseStruct_none found]
  | some registered => rw [outcome_setBaseStruct found]

/-- Every step spares what it is to spare. -/
theorem Step.spares (step : Step spared w w') : Spares spared w w' := by
  -- Most steps only add to the workload; the last three but one change a struct that is there
  -- already.
  cases step with
  | register path tagClass => exact .of_extends (.register path tagClass w)
  | setBaseStruct tag struct =>
    have structs := structs_setBaseStruct tag struct w
    exact ⟨fun i s found => ⟨s, by rw [structs, found], .refl _ s⟩,
      (rawData_setBaseStruct tag struct w).symm ▸ List.prefix_refl _,
      fun sound => sound_of_structs_eq sound structs⟩
  | report severity tag message => exact .of_extends (.report [⟨severity, tag, message⟩] w)
  | addRawData data => exact .of_extends (.addRawData _ data w)
  | addStruct data => exact .of_extends (.addStruct _ data w)
  | addDependency struct offset tag =>
    obtain ⟨failure, failed⟩ | ⟨s, s', found, -⟩ := outcome_updateStruct_cases struct _ w
    · exact (congrArg Prod.snd failed) ▸ .refl _ w
    · rw [outcome_addDependency _ _ found]
      exact .setStruct found (.joined _ fun _ hp => nomatch hp)
        fun p hp => .inl (by simpa [PoolStruct.joined] using hp)
  | @addPointer struct offset target room leads apart =>
    obtain ⟨s, found, fits⟩ := room
    rw [outcome_addPointer _ _ found]
    refine .setStruct found (.joined _ fun p hp => ?_) fun p hp => ?_
    · obtain rfl := List.mem_singleton.mp hp
      exact apart
    · refine (List.mem_append.mp hp).imp_right fun new => ?_
      obtain rfl := List.mem_singleton.mp new
      exact ⟨fits, leads⟩
  | @overwrite struct offset bytes apart =>
    obtain ⟨failure, failed⟩ | ⟨s, s', found, changed⟩ := outcome_updateStruct_cases struct _ w
    · exact (congrArg Prod.snd failed) ▸ .refl _ w
    · split at changed
      · rename_i fits
        rw [outcome_overwrite found fits]
        exact .setStruct found (.written fits apart) fun _ => .inl
      · cases changed
  | @compileTag type mem tag value =>
    exact .of_extends (type.extends_compileTag tag value (Catalog.isPackedRegular_of_mem mem) w)

/-- So does every run. -/
theorem Runs.spares (run : Runs spared w w') : Spares spared w w' := by
  induction run with
  | refl => exact .refl spared w
  | tail _ step ih => exact ih.trans step.spares

/-- The pointers of a new build are sound all along. -/
theorem Runs.sound {options : BuildOptions} (run : Runs spared { options } w) : w.Sound :=
  run.spares.sound fun _ hs => nomatch hs

/-! ### Actions of several steps -/

/-- A run of two actions takes the steps of the first, and then, if it succeeds, those of the
second. -/
theorem Runs.bind {α β : Type} {m : Building α} {f : α → Building β}
    (first : Runs spared w (outcome m w).2)
    (next : ∀ a w', outcome m w = (.ok a, w') → Runs spared w' (outcome (f a) w').2) :
    Runs spared w (outcome (m >>= f) w).2 := by
  rw [outcome_bind]
  rcases ends : outcome m w with ⟨failure | a, w'⟩
  · rw [ends] at first
    exact first
  · rw [ends] at first
    exact first.trans (next a w' ends)

/-- Building a blob is a run. Nothing is written, but the slot has to be apart for its pointer. -/
theorem Runs.compileBlob {struct offset : Nat} (selector : BlobSelector) (data : Bytes)
    (room : w.Room struct (offset + 20))
    (apart : ∀ i, spared struct i → i < offset ∨ offset + 20 ≤ i) :
    Runs spared w (outcome (compileBlob struct offset selector data) w).2 := by
  unfold Workload.compileBlob
  refine .bind .refl fun size w₁ counted => ?_
  obtain rfl : w = w₁ := congrArg Prod.snd counted
  split
  · exact .refl
  -- Whatever the selector is, raw data is added in the same way.
  have raw : Runs spared w (outcome (addRawData data >>= fun fileOffset =>
      (pure { size, fileOffset } : Building BlobHandle)) w).2 :=
    .bind (.single (.addRawData data)) fun _ _ _ => .refl
  cases selector with
  | pointer =>
    refine .bind (.single (.addStruct data)) fun blob w₁ ends => ?_
    cases (outcome_addStruct data w).symm.trans ends
    have room := (Extends.addStruct 0 data w).room room
    refine .bind (.single (.addPointer (room.mono ?_) (by simp [withStructs]) fun i here => ?_))
      fun _ _ _ => .refl
    · simp only [blobPointerOffset]
      omega
    · have := apart i here
      simp only [blobPointerOffset]
      omega
  | fileOffset => exact raw
  | external source => exact raw

end Workload

end TagSchema
