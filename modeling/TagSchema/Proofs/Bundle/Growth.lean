import TagSchema.Proofs.Bundle.Registry
import TagSchema.Proofs.Bundle.Steps
import TagSchema.Proofs.LayoutCodec
import TagSchema.Proofs.Regular
import TagSchema.Struct.PackedForm

/-!
# A build only grows

Whatever a build does, and also when it fails half way, the structs that were there before keep
their place and their length, those below a bound keep all they have, and tags, raw data and
diagnostics are only added to. Pointers stay sound: each lies inside its struct and leads to a
struct of the pool.
-/

namespace TagSchema

namespace Workload

/-- Every pointer lies inside its struct and leads to a struct. -/
def Sound (w : Workload) : Prop :=
  ∀ s ∈ w.structs, ∀ pointer ∈ s.pointers,
    pointer.offset + 4 ≤ s.data.length ∧ pointer.target < w.structs.length

/-- One workload after another: what is below the bound is as before, everything else has grown. -/
structure Extends (bound : Nat) (old new : Workload) : Prop where
  options : new.options = old.options
  kept : ∀ i < bound, ∀ s, old.structs[i]? = some s → new.structs[i]? = some s
  lengths : ∀ (i : Nat) s, old.structs[i]? = some s →
    ∃ s', new.structs[i]? = some s' ∧ s'.data.length = s.data.length
  tags : old.tags <+: new.tags
  distinct : (old.tags.map RegisteredTag.reference).Nodup →
    (new.tags.map RegisteredTag.reference).Nodup
  rawData : old.rawData <+: new.rawData
  diagnostics : old.diagnostics <+: new.diagnostics
  sound : old.Sound → new.Sound

/-- The pool has a struct of at least the given length. -/
def Room (w : Workload) (struct size : Nat) : Prop :=
  ∃ s, w.structs[struct]? = some s ∧ size ≤ s.data.length

variable {bound struct size : Nat} {w w' : Workload} {α β : Type}

/-- Where there is room there is a struct. -/
theorem Room.lt_length (room : w.Room struct size) : struct < w.structs.length := by
  obtain ⟨s, found, -⟩ := room
  exact (List.getElem?_eq_some_iff.mp found).1

theorem Room.mono {size' : Nat} (room : w.Room struct size) (h : size' ≤ size) :
    w.Room struct size' := by
  obtain ⟨s, found, fits⟩ := room
  exact ⟨s, found, Nat.le_trans h fits⟩

namespace Extends

/-- Nothing is an extension of itself by nothing. -/
theorem refl (bound : Nat) (w : Workload) : Extends bound w w where
  options := rfl
  kept _ _ _ found := found
  lengths _ s found := ⟨s, found, rfl⟩
  tags := List.prefix_refl _
  distinct := id
  rawData := List.prefix_refl _
  diagnostics := List.prefix_refl _
  sound := id

/-- What is below the bound stays as it is through both steps, and what has grown keeps growing. -/
theorem trans {w₁ w₂ w₃ : Workload} (h₁ : Extends bound w₁ w₂) (h₂ : Extends bound w₂ w₃) :
    Extends bound w₁ w₃ where
  options := h₂.options.trans h₁.options
  kept i below s found := h₂.kept i below s (h₁.kept i below s found)
  lengths i s found := by
    obtain ⟨s', found', same⟩ := h₁.lengths i s found
    obtain ⟨s'', found'', same'⟩ := h₂.lengths i s' found'
    exact ⟨s'', found'', same'.trans same⟩
  tags := h₁.tags.trans h₂.tags
  distinct := h₂.distinct ∘ h₁.distinct
  rawData := h₁.rawData.trans h₂.rawData
  diagnostics := h₁.diagnostics.trans h₂.diagnostics
  sound := h₂.sound ∘ h₁.sound

/-- Room that there was is still there, since no struct changes its length. -/
theorem room (h : Extends bound w w') (room : w.Room struct size) : w'.Room struct size := by
  obtain ⟨s, found, fits⟩ := room
  obtain ⟨s', found', same⟩ := h.lengths struct s found
  exact ⟨s', found', same ▸ fits⟩

/-- What two actions do after one another. -/
theorem bind {m : Building α} {f : α → Building β}
    (first : Extends bound w (outcome m w).2)
    (next : ∀ a w', outcome m w = (.ok a, w') → Extends bound w' (outcome (f a) w').2) :
    Extends bound w (outcome (m >>= f) w).2 := by
  rw [outcome_bind]
  rcases ends : outcome m w with ⟨failure | a, w'⟩
  · rw [ends] at first
    exact first
  · rw [ends] at first
    exact first.trans (next a w' ends)

/-- What follows an action whose outcome is known. -/
theorem after {m : Building α} {f : α → Building β} {a : α} (ends : outcome m w = (.ok a, w'))
    (first : Extends bound w w') (next : Extends bound w' (outcome (f a) w').2) :
    Extends bound w (outcome (m >>= f) w).2 := by
  rw [outcome_bind_ok ends]
  exact first.trans next

/-- Failing in context does no more. -/
theorem adapt {wrap : TagError → TagError} {m : Building α}
    (h : Extends bound w (outcome m w).2) :
    Extends bound w (outcome (ExceptT.adapt wrap m) w).2 := h

/-! ### Single steps -/

theorem addStruct (bound : Nat) (data : Bytes) (w : Workload) :
    Extends bound w (w.withStructs (w.structs ++ [PoolStruct.mk data [] []])) where
  options := rfl
  kept i _ s found := List.getElem?_append_left (List.getElem?_eq_some_iff.mp found).1 ▸ found
  lengths i s found :=
    ⟨s, List.getElem?_append_left (List.getElem?_eq_some_iff.mp found).1 ▸ found, rfl⟩
  tags := List.prefix_refl _
  distinct := id
  rawData := List.prefix_refl _
  diagnostics := List.prefix_refl _
  sound sound s hs pointer hpointer := by
    simp only [withStructs, List.length_append, List.length_singleton]
    obtain old | new := List.mem_append.mp hs
    · obtain ⟨inside, target⟩ := sound s old pointer hpointer
      exact ⟨inside, Nat.lt_succ_of_lt target⟩
    · obtain rfl := List.mem_singleton.mp new
      cases hpointer

/-- A struct that is not below the bound may change its bytes and get sound pointers. -/
theorem setStruct {s s' : PoolStruct} (found : w.structs[struct]? = some s) (above : bound ≤ struct)
    (length : s'.data.length = s.data.length)
    (pointers : ∀ pointer ∈ s'.pointers, pointer ∈ s.pointers ∨
      pointer.offset + 4 ≤ s.data.length ∧ pointer.target < w.structs.length) :
    Extends bound w (w.withStructs (w.structs.set struct s')) where
  options := rfl
  kept i below t h := (List.getElem?_set_ne (by omega)).trans h
  lengths i t h := by
    by_cases same : struct = i
    · subst same
      cases found.symm.trans h
      exact ⟨s', List.getElem?_set_self (List.getElem?_eq_some_iff.mp found).1, length⟩
    · exact ⟨t, (List.getElem?_set_ne same).trans h, rfl⟩
  tags := List.prefix_refl _
  distinct := id
  rawData := List.prefix_refl _
  diagnostics := List.prefix_refl _
  sound sound t ht pointer hpointer := by
    simp only [withStructs, List.length_set]
    -- Of the pointers only those of the changed struct are new, and they are within it.
    obtain old | rfl := List.mem_or_eq_of_mem_set ht
    · exact sound t old pointer hpointer
    · rw [length]
      exact (pointers pointer hpointer).elim (sound s (List.mem_of_getElem? found) pointer) id

/-- Diagnostics come behind the ones that there are. -/
theorem report (reports : List Diagnostic) (w : Workload) : Extends bound w (w.reported reports) :=
  { refl bound w with diagnostics := List.prefix_append _ _ }

/-- A tag that is registered comes behind the others, or is one of them already. -/
theorem register (path : String) (tagClass : TagClass) (w : Workload) :
    Extends bound w { w with tags := (registerIn w.tags path tagClass).1 } :=
  { refl bound w with
    tags := prefix_registerIn w.tags path tagClass
    distinct := @nodup_registerAll w.tags [(path, tagClass)] }

/-- A pointer keeps the workload sound if it lies inside its struct and leads to one. -/
theorem addPointer (offset target : Nat) (room : w.Room struct size) (above : bound ≤ struct)
    (inside : offset + 4 ≤ size) (valid : target < w.structs.length) :
    Extends bound w (outcome (Workload.addPointer struct offset target) w).2 := by
  obtain ⟨s, found, fits⟩ := room
  rw [outcome_addPointer _ _ found]
  refine setStruct found above rfl fun pointer hpointer => ?_
  refine (List.mem_append.mp hpointer).imp_right fun new => ?_
  obtain rfl := List.mem_singleton.mp new
  exact ⟨Nat.le_trans inside fits, valid⟩

/-- A reference leaves the bytes and the pointers as they are. -/
theorem addDependency {offset tag : Nat} (above : bound ≤ struct) :
    Extends bound w (outcome (Workload.addDependency struct offset tag) w).2 := by
  obtain ⟨failure, h⟩ | ⟨s, s', found, -⟩ := outcome_updateStruct_cases struct _ w
  · exact (congrArg Prod.snd h) ▸ refl bound w
  · rw [outcome_addDependency _ _ found]
    exact setStruct found above rfl fun pointer hpointer =>
      .inl (by simpa [PoolStruct.joined] using hpointer)

/-- Bytes that are written leave the length of the struct and its pointers as they are; where there
is no room for them nothing happens. -/
theorem overwrite {offset : Nat} {bytes : Bytes} (above : bound ≤ struct) :
    Extends bound w (outcome (Workload.overwrite struct offset bytes) w).2 := by
  obtain ⟨failure, h⟩ | ⟨s, s', found, changed⟩ := outcome_updateStruct_cases struct _ w
  · exact (congrArg Prod.snd h) ▸ refl bound w
  · split at changed
    · rename_i fits
      rw [outcome_overwrite found fits]
      exact setStruct found above (Bytes.length_overwrite _ _ _ fits) fun _ => .inl
    · cases changed

/-- Raw data comes behind what there is, unless there is too much of it. -/
theorem addRawData (bound : Nat) (data : Bytes) (w : Workload) :
    Extends bound w (outcome (Workload.addRawData data) w).2 := by
  by_cases room : w.rawData.length < UInt32.size
  · rw [outcome_addRawData room]
    exact { refl bound w with rawData := List.prefix_append _ _ }
  · rw [outcome_addRawData_full (Nat.not_lt.mp room)]
    exact refl bound w

/-- A check adds a diagnostic at most. -/
theorem check (tag : Nat) (site : Site) (violation? : Option Violation) (w : Workload) :
    Extends bound w (outcome (Workload.check tag site violation?) w).2 := by
  cases violation? with
  | none => exact refl bound w
  | some violation => exact report _ w

theorem checkCount (bound tag : Nat) (site : Site) (minimum maximum : Nat)
    (stockMaximum : Option Nat) (length : Nat) (w : Workload) :
    Extends bound w
      (outcome (Workload.checkCount tag site minimum maximum stockMaximum length) w).2 := by
  obtain ⟨result, reports, h, -⟩ :=
    outcome_checkCount tag site minimum maximum stockMaximum length w
  rw [h]
  exact report reports w

/-! ### Handles -/

/-- A reference registers its tag, joins its struct, and reports what it is not allowed to be. -/
theorem compileDependency {offset tag : Nat} {site : Site} {classes : List TagClass}
    {nonNull : Bool} {d : Dependency} (above : bound ≤ struct) :
    Extends bound w
      (outcome (Workload.compileDependency tag struct offset site classes nonNull d) w).2 := by
  unfold Workload.compileDependency
  by_cases null : d.isNull
  · simp only [if_pos null]
    cases nonNull with
    | false => exact refl bound w
    | true => exact bind (report _ w) fun _ _ h => nomatch h
  · simp only [if_neg null]
    split
    · exact bind (report _ w) fun _ _ h => nomatch h
    · refine bind (register d.path d.tagClass w) fun index w' _ => ?_
      exact bind (addDependency above) fun _ w'' _ => refl bound w''

theorem countWord (what : String) (length : Nat) (w : Workload) :
    Extends bound w (outcome (liftM (TagSchema.countWord what length) : Building UInt32) w).2 :=
  refl bound w

/-- A blob becomes a struct with a pointer to it, or raw data, and neither touches what is below the
bound. -/
theorem compileBlob {offset : Nat} {selector : BlobSelector} {data : Bytes}
    (room : w.Room struct size) (above : bound ≤ struct) (inside : offset + 20 ≤ size) :
    Extends bound w (outcome (Workload.compileBlob struct offset selector data) w).2 := by
  unfold Workload.compileBlob
  refine bind (countWord "blob" data.length w) fun count w' counted => ?_
  obtain rfl : w = w' := congrArg Prod.snd counted
  split
  · exact refl bound w
  · have raw := bind (β := BlobHandle) (addRawData bound data w)
      (f := fun fileOffset => pure { size := count, fileOffset }) fun _ w' _ => refl bound w'
    cases selector with
    | pointer =>
      have added := addStruct bound data w
      refine after (outcome_addStruct data w) added ?_
      exact bind (addPointer _ _ (added.room room) above (by simp only [blobPointerOffset]; omega)
        (by simp [withStructs])) fun _ w' _ => refl bound w'
    | fileOffset => exact raw
    | external source => exact raw

/-- Elements are compiled in their places, one behind the other, so there is room for each if there
is for all. -/
theorem compileElements {compile : Nat → α → Building Unit} {array : Nat} (site : Site)
    {elementSize index : Nat} {elements : List α}
    (room : w.Room array ((index + elements.length) * elementSize))
    (single : ∀ offset element w, w.Room array (offset + elementSize) →
      Extends bound w (outcome (compile offset element) w).2) :
    Extends bound w (outcome (Workload.compileElements site elementSize compile index elements)
      w).2 := by
  induction elements generalizing index w with
  | nil => exact refl bound w
  | cons element rest ih =>
    -- There is room for all that are left, so for the first of them.
    have here : w.Room array (index * elementSize + elementSize) := room.mono (by
      rw [← Nat.succ_mul]
      exact Nat.mul_le_mul_right _ (by rw [List.length_cons]; omega))
    refine bind (adapt (single _ element w here)) fun _ w' ends => ih ?_
    have grown : Extends bound w w' := by
      have := single _ element w here
      rwa [show outcome (compile (index * elementSize) element) w = (.ok _, w') from
        outcome_adapt_eq_ok ends] at this
    rw [Nat.add_right_comm, Nat.add_assoc, ← List.length_cons (a := element)]
    exact grown.room room

/-- The elements of an array go into a struct of their own, which is above any bound that the owner
is above. -/
theorem compileArray {offset : Nat} (site : Site) (elementSize : Nat)
    (compile : Nat → Nat → α → Building Unit) (elements : List α) (room : w.Room struct size)
    (above : bound ≤ struct)
    (inside : offset + 12 ≤ size)
    (single : ∀ array position element w, bound ≤ array → w.Room array (position + elementSize) →
      Extends bound w (outcome (compile array position element) w).2) :
    Extends bound w (outcome (Workload.compileArray struct offset site elementSize compile elements)
      w).2 := by
  unfold Workload.compileArray
  refine bind (countWord site.field elements.length w) fun count w' counted => ?_
  obtain rfl : w = w' := congrArg Prod.snd counted
  split
  · have added := addStruct bound (Bytes.zeros (elements.length * elementSize)) w
    refine after (outcome_addStruct _ w) added ?_
    have pointed := addPointer (offset + arrayPointerOffset) w.structs.length (added.room room)
      above (by simp only [arrayPointerOffset]; omega) (by simp [withStructs])
    refine bind pointed fun _ w₂ ends => ?_
    rw [ends] at pointed
    -- The elements are compiled into a struct of their own behind all others.
    have fresh : w₂.Room w.structs.length ((0 + elements.length) * elementSize) :=
      pointed.room ⟨_, List.getElem?_concat_length, by simp⟩
    have arrayAbove : bound ≤ w.structs.length := Nat.le_trans above (Nat.le_of_lt room.lt_length)
    have filled := compileElements site fresh fun position element w₃ =>
      single _ position element w₃ arrayAbove
    exact bind filled fun _ w₃ _ => refl bound w₃
  · exact refl bound w

/-! ### Structs -/

/-- What is laid out is checked, then its handles are made, and then it is written into its
place. -/
theorem compileAt {layout : Layout} {offset : Nat} {check : Building Unit}
    {handles : Building layout.Value} (above : bound ≤ struct)
    (checked : Extends bound w (outcome check w).2)
    (handled : ∀ w', Extends bound w w' → Extends bound w' (outcome handles w').2) :
    Extends bound w (outcome (TagSchema.compileAt layout struct offset check handles) w).2 := by
  unfold TagSchema.compileAt
  refine bind (refl bound w) fun current w' h => ?_
  cases h
  split
  · refine bind checked fun _ w₁ ends => ?_
    rw [ends] at checked
    exact bind (handled w₁ checked) fun stored w₂ _ => overwrite above
  · exact bind (handled w (refl bound w)) fun stored w₂ _ => overwrite above

end Extends

end Workload

open Workload

variable {bound struct tag : Nat} {w : Workload}

/-- Checks of members, at every depth, change nothing but the diagnostics. -/
theorem Members.extends_check (owner : String) (stack : ContainmentStack) (members : Members)
    (value : members.Value) (w : Workload) :
    Extends bound w (outcome (members.check tag owner stack value) w).2 := by
  induction members generalizing w with
  | nil => exact .refl bound w
  | leaf traits type rest ih => exact .bind (.check _ _ _ w) fun _ w' _ => ih value.2 w'
  | array traits limits name title element rest ihElement ih => exact ih value.2 w

/-- A member that is no array is compiled inside its struct, in the room that its layout takes. -/
theorem LeafType.extends_compile (type : LeafType) (tag offset : Nat) (order : ByteOrder)
    (site : Site) (value : type.Value) (room : w.Room struct (offset + (type.layout order).size))
    (above : bound ≤ struct) :
    Extends bound w (outcome (type.compile tag struct offset order site value) w).2 := by
  cases type with
  | plain type => exact .refl bound w
  | dependency classes nonNull =>
    exact .bind (.compileDependency above) fun _ w' _ => .refl bound w'
  | blob selector =>
    exact .bind (.compileBlob room above (Nat.le_refl _)) fun _ w' _ => .refl bound w'

/-- Building the handles of members at a place with room for them. -/
theorem Members.extends_compile {owner : String} {stack : ContainmentStack} {place offset : Nat}
    (members : Members) (value : members.Value) (regular : members.isPackedRegular offset = true)
    (room : w.Room struct (place + offset + (members.layout .packed).size))
    (above : bound ≤ struct) :
    Extends bound w (outcome (members.compile tag owner stack struct place value) w).2 := by
  induction members generalizing w owner stack struct place offset with
  | nil => exact .refl bound w
  | leaf traits type rest ih =>
    obtain ⟨rfl, -, regular⟩ := isPackedRegular_leaf.mp regular
    have first := type.extends_compile tag (place + traits.offset) (traits.orderIn .packed)
      (traits.site owner) value.1 (room.mono (by simp only [layout, Layout.size]; omega)) above
    refine .bind first fun stored w₁ ends => ?_
    rw [ends] at first
    refine .bind (ih value.2 regular ((first.room room).mono ?_) above) fun _ w₂ _ => .refl bound w₂
    simp only [layout, Layout.size]
    omega
  | array traits limits name title element rest ihElement ih =>
    obtain ⟨rfl, -, elementRegular, regular⟩ := isPackedRegular_array.mp regular
    have counted := Extends.checkCount bound tag (traits.site owner) limits.minimum
      limits.maximum limits.stockMaximum value.1.length w
    refine .bind counted fun _ w₁ ends => ?_
    rw [ends] at counted
    -- Elements are built in a struct of their own, which is above the bound like all new ones.
    have handle : w₁.Room struct (place + traits.offset + 12) := (counted.room room).mono (by
      simp only [layout, Layout.size, Layout.reflexive, Layout.words, Primitive.size]
      omega)
    have built := Extends.compileArray (traits.site owner) (element.layout .packed).size
      (fun array position item =>
        TagSchema.compileAt (element.layout .packed) array position
          (element.check tag name (stack.enter (element.frame name item)) item)
          (element.compile tag name (stack.enter (element.frame name item)) array position item))
      value.1 handle above (Nat.le_refl _) fun array position item w₂ above room => by
        refine .compileAt above (element.extends_check _ _ _ w₂) fun w₃ grown => ?_
        exact ihElement item elementRegular (grown.room room) above
    refine .bind built fun handle w₂ ends => ?_
    rw [ends] at built
    refine .bind (ih value.2 regular ((built.room (counted.room room)).mono ?_) above)
      fun _ w₃ _ => .refl bound w₃
    simp only [layout, Layout.size]
    omega

/-- Whether it succeeds or not, building a struct starts by adding one to the pool. -/
theorem StructType.extends_addStruct_compileTag {type : StructType} (tag : Nat) (value : type.Value)
    (regular : type.members.isPackedRegular 0 = true) (w : Workload) :
    Extends w.structs.length
      (w.withStructs (w.structs ++ [PoolStruct.mk (Bytes.zeros (type.size .packed)) [] []]))
      (outcome (type.compileTag tag value) w).2 := by
  rw [compileTag, outcome_bind_ok (outcome_addStruct _ w)]
  refine .bind ?_ fun _ w' _ => .refl _ w'
  have room : (w.withStructs
      (w.structs ++ [PoolStruct.mk (Bytes.zeros (type.size .packed)) [] []])).Room
      w.structs.length (0 + 0 + (type.layout .packed).size) :=
    ⟨_, List.getElem?_concat_length, by simp [StructType.size]⟩
  refine .compileAt (Nat.le_refl _) (type.members.extends_check _ _ _ _) fun w' grown => ?_
  exact type.members.extends_compile value regular (grown.room room) (Nat.le_refl _)

/-- Building a struct leaves everything before it alone, whether it succeeds or not. -/
theorem StructType.extends_compileTag {type : StructType} (tag : Nat) (value : type.Value)
    (regular : type.members.isPackedRegular 0 = true) (w : Workload) :
    Extends w.structs.length w (outcome (type.compileTag tag value) w).2 :=
  (Extends.addStruct _ _ w).trans (type.extends_addStruct_compileTag tag value regular w)

/-- The pool has the struct that was to be built, whether that succeeded or not. -/
theorem StructType.room_compileTag {type : StructType} (tag : Nat) (value : type.Value)
    (regular : type.members.isPackedRegular 0 = true) (w : Workload) :
    (outcome (type.compileTag tag value) w).2.Room w.structs.length (type.size .packed) :=
  (type.extends_addStruct_compileTag tag value regular w).room
    ⟨_, List.getElem?_concat_length, by simp⟩

end TagSchema
