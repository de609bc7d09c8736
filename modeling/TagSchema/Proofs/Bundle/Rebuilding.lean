import TagSchema.Proofs.Bundle.Growth
import TagSchema.Proofs.Bundle.Keeping

/-!
# What bundles keep can be built again

A build that succeeds with a value also succeeds with what bundles keep of it, in any workload with
the same options and no more raw data, as long as its paths are in lower case.
-/

namespace TagSchema

namespace Workload

variable {α β γ δ : Type} {struct struct' offset offset' tag tag' size : Nat} {site site' : Site}
  {w w' v v' : Workload}

/-- A workload with the same options as another one and no more raw data. -/
structure Mirrors (v w : Workload) : Prop where
  options : v.options = w.options
  rawData : v.rawData.length ≤ w.rawData.length

/-- Whenever one action succeeds, so does another one where a struct has a size; structs keep at
least the sizes that they have. -/
def Repeats (struct size : Nat) (m : Building α) (m' : Building β) : Prop :=
  ∀ ⦃w w' a v⦄, outcome m w = (.ok a, w') → v.Mirrors w → v.Room struct size →
    ∃ b v', outcome m' v = (.ok b, v') ∧ v'.Mirrors w' ∧
      ∀ struct size, v.Room struct size → v'.Room struct size

/-- A struct of the same length can take the place of another one. -/
theorem Room.set {s s' : PoolStruct} (found : w.structs[struct']? = some s)
    (length : s'.data.length = s.data.length) (room : w.Room struct size) :
    (w.withStructs (w.structs.set struct' s')).Room struct size := by
  obtain ⟨t, there, fits⟩ := room
  by_cases same : struct' = struct
  · subst same
    cases found.symm.trans there
    exact ⟨s', List.getElem?_set_self (List.getElem?_eq_some_iff.mp found).1, length ▸ fits⟩
  · exact ⟨t, (List.getElem?_set_ne same).trans there, fits⟩

namespace Repeats

variable {m : Building α} {m' : Building β}

/-- What does nothing repeats what does nothing. -/
theorem pure (a : α) (b : β) : Repeats struct size (Pure.pure a) (Pure.pure b) := by
  intro w w' _ v ends mirrors _
  obtain ⟨-, rfl⟩ := outcome_pure_eq_ok ends
  exact ⟨b, v, rfl, mirrors, fun _ _ room => room⟩

/-- Actions are repeated one after the other: the first of them leaves the room that the second
needs. -/
theorem bind {f : α → Building γ} {g : β → Building δ} (first : Repeats struct size m m')
    (next : ∀ a b, Repeats struct size (f a) (g b)) :
    Repeats struct size (m >>= f) (m' >>= g) := by
  intro w w' c v ends mirrors room
  obtain ⟨a, w₁, ends₁, ends₂⟩ := outcome_bind_eq_ok ends
  obtain ⟨b, v₁, done₁, mirrors₁, kept₁⟩ := first ends₁ mirrors room
  obtain ⟨d, v₂, done₂, mirrors₂, kept₂⟩ := next a b ends₂ mirrors₁ (kept₁ _ _ room)
  exact ⟨d, v₂, (outcome_bind_ok done₁).trans done₂, mirrors₂,
    fun i n h => kept₂ i n (kept₁ i n h)⟩

/-- An action that cannot succeed is repeated by any other one. -/
theorem of_error (h : ∀ w, ∃ failure w', outcome m w = (.error failure, w')) :
    Repeats struct size m m' := by
  intro w w' a v ends
  obtain ⟨failure, w₁, failed⟩ := h w
  cases failed.symm.trans ends

/-- Success does not depend on what errors are wrapped in. -/
theorem adapt {wrap wrap' : TagError → TagError} (h : Repeats struct size m m') :
    Repeats struct size (ExceptT.adapt wrap m) (ExceptT.adapt wrap' m') := by
  intro w w' a v ends mirrors room
  obtain ⟨b, v', done, rest⟩ := h (outcome_adapt_eq_ok ends) mirrors room
  exact ⟨b, v', outcome_adapt_ok done, rest⟩

/-- More room does no harm. -/
theorem mono {size' : Nat} (h : Repeats struct size m m') (le : size ≤ size') :
    Repeats struct size' m m' :=
  fun _ _ _ _ ends mirrors room => h ends mirrors (room.mono le)

/-! ### Single steps -/

/-- Changes that keep the length of a struct. -/
theorem updateStruct {change change' : PoolStruct → Except TagError PoolStruct}
    (possible : ∀ s, size ≤ s.data.length →
      ∃ s', change' s = .ok s' ∧ s'.data.length = s.data.length) :
    Repeats struct size (updateStruct struct' change) (updateStruct struct change') := by
  intro w w' a v ends mirrors room
  obtain ⟨s, found, fits⟩ := room
  obtain ⟨s', changed, length⟩ := possible s fits
  refine ⟨(), _, outcome_updateStruct found changed, ?_, fun _ _ => Room.set found length⟩
  obtain ⟨failure, failed⟩ | ⟨t, t', there, changed'⟩ := outcome_updateStruct_cases struct' change w
  · cases failed.symm.trans ends
  · rw [outcome_updateStruct there changed'] at ends
    cases ends
    exact ⟨mirrors.options, mirrors.rawData⟩

theorem addPointer (struct offset target : Nat) {target' : Nat} :
    Repeats struct size (addPointer struct' offset' target') (addPointer struct offset target) :=
  updateStruct fun _ _ => ⟨_, rfl, rfl⟩

theorem addDependency :
    Repeats struct size (addDependency struct' offset' tag') (addDependency struct offset tag) :=
  updateStruct fun _ _ => ⟨_, rfl, rfl⟩

/-- Bytes of the same length find room wherever these do. -/
theorem overwrite {bytes bytes' : Bytes} :
    Repeats struct (offset + bytes.length) (overwrite struct' offset' bytes')
      (overwrite struct offset bytes) :=
  updateStruct fun _ fits => ⟨_, if_pos fits, Bytes.length_overwrite _ _ _ fits⟩

/-- A tag can always be registered. -/
theorem register {path path' : String} {tagClass tagClass' : TagClass} :
    Repeats struct size (register path' tagClass') (register path tagClass) := by
  intro w w' a v ends mirrors room
  cases ends
  exact ⟨_, _, outcome_register path tagClass v, ⟨mirrors.options, mirrors.rawData⟩, fun _ _ h => h⟩

/-- There is no more raw data than in the workload that is mirrored, so there is room for more where
there was. -/
theorem addRawData {data : Bytes} :
    Repeats struct size (addRawData data) (addRawData data) := by
  intro w w' a v ends mirrors room
  by_cases full : UInt32.size ≤ w.rawData.length
  · rw [outcome_addRawData_full full] at ends
    cases ends
  rw [outcome_addRawData (Nat.not_le.mp full)] at ends
  cases ends
  -- The offset of the new data fits in the smaller workload if it does in the larger one.
  refine ⟨_, _, outcome_addRawData (Nat.lt_of_le_of_lt mirrors.rawData (Nat.not_le.mp full)),
    ⟨mirrors.options, ?_⟩, fun _ _ h => h⟩
  simpa only [List.length_append] using Nat.add_le_add_right mirrors.rawData data.length

theorem check {violation? : Option Violation} :
    Repeats struct size (check tag' site' violation?) (check tag site violation?) := by
  cases violation? with
  | none => exact pure () ()
  | some violation => exact of_error fun w => ⟨_, _, outcome_check_some tag' site' violation w⟩

/-- The number of elements is judged by the options alone, which are the same. -/
theorem checkCount {minimum maximum length : Nat} {stockMaximum : Option Nat} :
    Repeats struct size (checkCount tag' site' minimum maximum stockMaximum length)
      (checkCount tag site minimum maximum stockMaximum length) := by
  intro w w' a v ends mirrors room
  obtain ⟨result, reports, there, within⟩ :=
    outcome_checkCount tag' site' minimum maximum stockMaximum length w
  obtain ⟨result', reports', here, within'⟩ :=
    outcome_checkCount tag site minimum maximum stockMaximum length v
  cases there.symm.trans ends
  obtain rfl := within'.mpr (within.mp rfl)
  exact ⟨(), _, here, ⟨mirrors.options, mirrors.rawData⟩, fun _ _ h => h⟩

theorem countWord {what : String} {length : Nat} :
    Repeats struct size (liftM (TagSchema.countWord what length) : Building UInt32)
      (liftM (TagSchema.countWord what length) : Building UInt32) := by
  intro w w' a v ends mirrors room
  obtain rfl : w = w' := congrArg Prod.snd ends
  have counted : TagSchema.countWord what length = .ok a := congrArg Prod.fst ends
  exact ⟨a, v, congrArg (·, v) counted, mirrors, fun _ _ h => h⟩

/-! ### Handles -/

/-- A reference that was read back has the class of the first one, and is null exactly if that was,
so it is refused for no other reason. -/
theorem dependency {classes : List TagClass} {nonNull : Bool} {default : Option TagClass}
    {d : Dependency} {tags : List RegisteredTag} (lower : Text.lowercase d.path = d.path) :
    Repeats struct size (compileDependency tag' struct' offset' site' classes nonNull d)
      (compileDependency tag struct offset site classes nonNull (d.packedKept tags default)) := by
  have same := Dependency.isNull_packedKept tags default lower
  unfold compileDependency
  by_cases null : d.isNull
  · rw [if_pos null, if_pos (same.trans null)]
    cases nonNull with
    | false => exact pure _ _
    | true => exact of_error fun w => ⟨_, _, outcome_bind_error (outcome_fail tag' site' _ w)⟩
  · rw [if_neg null, if_neg fun h => null (same.symm.trans h)]
    have tagClass : (d.packedKept tags default).tagClass = d.tagClass := by
      rw [Dependency.packedKept_of_path null]
    rw [tagClass]
    by_cases disallowed : (!classes.isEmpty && !classes.contains d.tagClass) = true
    · simp only [if_pos disallowed]
      exact of_error fun w => ⟨_, _, outcome_bind_error (outcome_fail tag' site' _ w)⟩
    · simp only [if_neg disallowed]
      exact bind register fun _ _ => bind addDependency fun _ _ => pure _ _

/-- A struct can always be added. -/
theorem addStruct {data data' : Bytes} :
    Repeats struct size (addStruct data') (addStruct data) := by
  intro w w' a v ends mirrors room
  cases ends
  exact ⟨_, _, outcome_addStruct data v, ⟨mirrors.options, mirrors.rawData⟩,
    fun _ _ => (Extends.addStruct 0 data v).room⟩

/-- The same data is compiled again, since nothing about it depends on where it goes. -/
theorem blob {selector : BlobSelector} {data : Bytes} :
    Repeats struct size (compileBlob struct' offset' selector data)
      (compileBlob struct offset selector data) := by
  unfold compileBlob
  refine bind countWord fun _ _ => ?_
  split
  · exact pure _ _
  cases selector with
  | pointer => exact bind addStruct fun _ _ => bind (addPointer ..) fun _ _ => pure _ _
  | fileOffset => exact bind addRawData fun _ _ => pure _ _
  | external source => exact bind addRawData fun _ _ => pure _ _

/-- Elements are repeated one by one in their places. -/
theorem elements (site : Site) (index : Nat) {compile compile' : Nat → α → Building Unit}
    {kept : α → α} {elementSize : Nat} {items : List α}
    (each : ∀ item ∈ items, ∀ place, Repeats struct (place + elementSize) (compile' place item)
      (compile place (kept item))) :
    Repeats struct ((index + items.length) * elementSize)
      (compileElements site' elementSize compile' index items)
      (compileElements site elementSize compile index (items.map kept)) := by
  induction items generalizing index with
  | nil => exact pure () ()
  | cons item rest ih =>
    obtain ⟨own, others⟩ := List.forall_mem_cons.mp each
    have here : index * elementSize + elementSize ≤
        (index + (item :: rest).length) * elementSize := by
      rw [← Nat.succ_mul]
      exact Nat.mul_le_mul_right _ (by rw [List.length_cons]; omega)
    have more := ih (index + 1) others
    rw [Nat.add_right_comm, Nat.add_assoc, ← List.length_cons (a := item)] at more
    exact bind ((own _).adapt.mono here) fun _ _ => more

/-- An array is repeated if each of its elements is, in the new struct that it gets. -/
theorem array {compile compile' : Nat → Nat → α → Building Unit} {kept : α → α}
    {elementSize : Nat} {items : List α} (field : site'.field = site.field)
    (each : ∀ item ∈ items, ∀ array array' place, Repeats array (place + elementSize)
      (compile' array' place item) (compile array place (kept item))) :
    Repeats struct size (compileArray struct' offset' site' elementSize compile' items)
      (compileArray struct offset site elementSize compile (items.map kept)) := by
  unfold compileArray
  rw [List.length_map, field]
  refine bind countWord fun _ count => ?_
  by_cases empty : items = []
  · subst empty
    exact pure _ _
  rw [if_pos (by simpa using empty), if_pos (by simpa using empty)]
  intro w w' a v ends mirrors room
  rw [outcome_bind_ok (outcome_addStruct _ w)] at ends
  obtain ⟨_, w₁, pointed, ends⟩ := outcome_bind_eq_ok ends
  obtain ⟨_, w₂, filled, last⟩ := outcome_bind_eq_ok ends
  obtain ⟨-, rfl⟩ := outcome_pure_eq_ok last
  -- The new struct has room for the elements.
  let unfilled : PoolStruct := ⟨Bytes.zeros (items.length * elementSize), [], []⟩
  have added := Extends.addStruct 0 unfilled.data v
  obtain ⟨_, v₁, done₁, mirrors₁, kept₁⟩ := addPointer struct (offset + arrayPointerOffset)
    v.structs.length (v := v.withStructs (v.structs ++ [unfilled])) pointed
    ⟨mirrors.options, mirrors.rawData⟩ (added.room room)
  have fresh : v₁.Room v.structs.length ((0 + items.length) * elementSize) :=
    kept₁ _ _ ⟨unfilled, List.getElem?_concat_length, by simp [unfilled]⟩
  obtain ⟨_, v₂, done₂, mirrors₂, kept₂⟩ := elements site 0
    (fun item mem => each item mem v.structs.length w.structs.length) filled mirrors₁ fresh
  refine ⟨{ count }, v₂, ?_, mirrors₂, fun i n h => kept₂ i n (kept₁ i n (added.room h))⟩
  rw [outcome_bind_ok (outcome_addStruct _ v), outcome_bind_ok done₁, outcome_bind_ok done₂]
  rfl

/-- What is laid out is as long as before, so it can be written where there is room. -/
theorem compileAt {layout : Layout} {check check' : Building Unit}
    {handles handles' : Building layout.Value}
    (checked : Repeats struct (offset + layout.size) check' check)
    (handled : Repeats struct (offset + layout.size) handles' handles) :
    Repeats struct (offset + layout.size) (compileAt layout struct' offset' check' handles')
      (compileAt layout struct offset check handles) := by
  have filled : Repeats struct (offset + layout.size)
      (handles' >>= fun stored => Workload.overwrite struct' offset' (layout.encode stored))
      (handles >>= fun stored => Workload.overwrite struct offset (layout.encode stored)) :=
    bind handled fun _ stored => overwrite.mono (Nat.le_of_eq (by rw [Layout.length_encode]))
  intro w w' a v ends mirrors room
  unfold TagSchema.compileAt at ends ⊢
  rw [outcome_bind_ok (outcome_get w)] at ends
  rw [outcome_bind_ok (outcome_get v), mirrors.options]
  -- Both builds check or neither does, since their options are the same.
  cases off : w.options.disableErrorChecking with
  | true =>
    rw [off] at ends
    exact filled ends mirrors room
  | false =>
    rw [off] at ends
    exact bind checked (fun _ _ => filled) ends mirrors room

end Repeats

end Workload

/-! ### Structs -/

open Workload

variable {tags : List RegisteredTag} {tag tag' struct struct' place place' size : Nat}

/-- What is wrong with a member is wrong with what a bundle keeps of it. -/
theorem LeafType.violation?_packedKept (stack : ContainmentStack) (type : LeafType)
    (value : type.Value) :
    type.violation? stack (type.packedKept tags value) = type.violation? stack value := by
  cases type with
  | plain type => cases type <;> rfl
  | dependency | blob => rfl

/-- Keeping what bundles keep does not change the lengths of arrays. -/
theorem Members.lengths_packedKept (members : Members) (value : members.Value) :
    members.lengths (members.packedKept tags value) = members.lengths value := by
  induction members with
  | nil => rfl
  | leaf traits type rest ih => exact ih value.2
  | array traits limits name title element rest ihElement ih =>
    exact congrArg₂ (fun length others => (traits.identifier, length) :: others)
      (List.length_map _) (ih value.2)

/-- Nor what a struct shows to those that are inside it. -/
theorem Members.frame_packedKept (members : Members) (name : String) (value : members.Value) :
    members.frame name (members.packedKept tags value) = members.frame name value :=
  congrArg (Frame.mk name) (members.lengths_packedKept value)

/-- So no check finds anything that it did not find before. -/
theorem Members.repeats_check {owner : String} {stack : ContainmentStack} (members : Members)
    (value : members.Value) :
    Repeats struct size (members.check tag' owner stack value)
      (members.check tag owner stack (members.packedKept tags value)) := by
  induction members with
  | nil => exact .pure () ()
  | leaf traits type rest ih =>
    refine .bind ?_ fun _ _ => ih value.2
    change Repeats struct size _
      (Workload.check _ _ (type.violation? stack (type.packedKept tags _)))
    rw [type.violation?_packedKept]
    exact .check
  | array traits limits name title element rest ihElement ih => exact ih value.2

/-- A member that was read back from a bundle compiles wherever the member itself did. -/
theorem LeafType.repeats_compile {order : ByteOrder} {site : Site} (type : LeafType)
    {value : type.Value} (lower : ∀ path ∈ type.paths value, Text.lowercase path = path) :
    Repeats struct size (type.compile tag' struct' place' order site value)
      (type.compile tag struct place order site (type.packedKept tags value)) := by
  cases type with
  | plain type => exact .pure _ _
  | dependency classes nonNull =>
    exact .bind (.dependency (lower _ (List.mem_singleton_self _))) fun _ _ => .pure _ _
  | blob selector => exact .bind .blob fun _ _ => .pure _ _

/-- Building the handles of members is repeated with what bundles keep of them. -/
theorem Members.repeats_compile {owner : String} {stack : ContainmentStack} (members : Members)
    {value : members.Value} (lower : ∀ path ∈ members.paths value, Text.lowercase path = path) :
    Repeats struct size (members.compile tag' owner stack struct' place' value)
      (members.compile tag owner stack struct place (members.packedKept tags value)) := by
  induction members generalizing owner stack struct struct' place place' size with
  | nil => exact .pure _ _
  | leaf traits type rest ih =>
    obtain ⟨own, others⟩ := List.forall_mem_append.mp lower
    exact .bind (type.repeats_compile own) fun _ _ => .bind (ih others) fun _ _ => .pure _ _
  | array traits limits name title element rest ihElement ih =>
    obtain ⟨own, others⟩ := List.forall_mem_append.mp lower
    have counts : (Members.packedKept tags (.array traits limits name title element rest)
        value).1.length = value.1.length := List.length_map _
    unfold compile
    rw [counts]
    refine .bind .checkCount fun _ _ => .bind (.array rfl fun item mem array array' position => ?_)
      fun _ _ => .bind (ih others) fun _ _ => .pure _ _
    rw [element.frame_packedKept]
    exact .compileAt (element.repeats_check item)
      (ihElement (List.forall_mem_flatMap.mp own item mem))

/-- A build of a struct that succeeds is repeated with what bundles keep of it. -/
theorem StructType.compileTag_packedKept (tag : Nat) (tags : List RegisteredTag) {type : StructType}
    {value : type.Value} {w w' v : Workload} {k : Nat}
    (ends : outcome (type.compileTag tag' value) w = (.ok k, w')) (mirrors : v.Mirrors w)
    (lower : ∀ path ∈ type.members.paths value, Text.lowercase path = path) :
    ∃ k' v', outcome (type.compileTag tag (type.members.packedKept tags value)) v =
      (.ok k', v') := by
  unfold compileTag at ends ⊢
  rw [outcome_bind_ok (outcome_addStruct _ w)] at ends
  obtain ⟨_, w₁, compiled, -⟩ := outcome_bind_eq_ok ends
  -- Both builds start with a struct of zeros, and fill it in step with each other.
  let unfilled : PoolStruct := ⟨Bytes.zeros (type.size .packed), [], []⟩
  have room : (v.withStructs (v.structs ++ [unfilled])).Room v.structs.length
      (0 + (type.layout .packed).size) :=
    ⟨unfilled, List.getElem?_concat_length, by simp [unfilled, StructType.size]⟩
  have repeats : Repeats v.structs.length (0 + (type.layout .packed).size)
      (type.compile tag' {} w.structs.length 0 value)
      (type.compile tag {} v.structs.length 0 (type.members.packedKept tags value)) := by
    unfold compile
    rw [type.members.frame_packedKept]
    exact .compileAt (type.members.repeats_check value) (type.members.repeats_compile lower)
  obtain ⟨_, v₁, done, -, -⟩ := repeats (v := v.withStructs (v.structs ++ [unfilled])) compiled
    ⟨mirrors.options, mirrors.rawData⟩ room
  refine ⟨v.structs.length, v₁, ?_⟩
  rw [outcome_bind_ok (outcome_addStruct _ v), outcome_bind_ok done]
  rfl

end TagSchema
