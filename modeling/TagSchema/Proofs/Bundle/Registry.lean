import Mathlib.Data.List.Nodup
import Mathlib.Data.List.Perm.Subperm
import TagSchema.Bundle.TagTable

/-!
# Registered tags

A build registers a tag for every reference that it makes, once. A tag keeps the index under which
it is registered, and what is registered in the end has been there or is referred to. Registering
many tags by means of a table comes to the same (`Faithful.toList_tags_foldl_insert`).
-/

namespace TagSchema

/-- The index under which a tag is registered. -/
def tagIndex (tags : List RegisteredTag) (path : String) (tagClass : TagClass) : Nat :=
  tags.findIdx fun tag => decide (tag.path = path ∧ tag.tagClass = tagClass)

/-- The tags after some references have been registered. -/
def registerAll (tags : List RegisteredTag) (references : List (String × TagClass)) :
    List RegisteredTag :=
  references.foldl (fun tags reference => (Workload.registerIn tags reference.1 reference.2).1) tags

namespace Workload

/-- Registering a tag leaves the tags before it as they are. -/
theorem prefix_registerIn (tags : List RegisteredTag) (path : String) (tagClass : TagClass) :
    tags <+: (registerIn tags path tagClass).1 := by
  unfold registerIn
  split
  · exact List.prefix_refl _
  · exact List.prefix_append _ _

/-- So does registering several. -/
theorem prefix_registerAll (tags : List RegisteredTag) (references : List (String × TagClass)) :
    tags <+: registerAll tags references := by
  induction references generalizing tags with
  | nil => exact List.prefix_refl _
  | cons reference rest ih => exact (prefix_registerIn tags _ _).trans (ih _)

/-- A tag keeps the index under which it is registered. -/
theorem tagIndex_eq {tags later : List RegisteredTag} {path : String} {tagClass : TagClass}
    (h : (registerIn tags path tagClass).1 <+: later) :
    tagIndex later path tagClass = (registerIn tags path tagClass).2 := by
  unfold registerIn at h ⊢
  split at h
  · rename_i index found
    obtain ⟨added, rfl⟩ := h
    obtain ⟨here, inside⟩ := List.findIdx?_eq_some_iff_findIdx_eq.mp found
    simp only
    rw [tagIndex, List.findIdx_append, if_pos (inside ▸ here), inside]
  · rename_i missing
    obtain ⟨added, rfl⟩ := h
    have outside := List.findIdx?_eq_none_iff_findIdx_eq.mp missing
    simp only
    rw [tagIndex, List.append_assoc, List.findIdx_append, if_neg (by omega), List.singleton_append,
      List.findIdx_cons]
    simp

/-- A tag that is registered has a position among the tags. -/
theorem registerIn_lt (tags : List RegisteredTag) (path : String) (tagClass : TagClass) :
    (registerIn tags path tagClass).2 < (registerIn tags path tagClass).1.length := by
  unfold registerIn
  split
  · rename_i index found
    exact (List.findIdx?_eq_some_iff_findIdx_eq.mp found).1
  · simp

end Workload

/-- Every one of some references is registered. -/
def Registered (tags : List RegisteredTag) (references : List (String × TagClass)) : Prop :=
  ∀ reference ∈ references, tagIndex tags reference.1 reference.2 < tags.length

/-- References stay registered. -/
theorem registered_of_registerAll {tags later : List RegisteredTag}
    {references : List (String × TagClass)} (h : registerAll tags references <+: later) :
    Registered later references := by
  induction references generalizing tags with
  | nil => exact fun _ h => nomatch h
  | cons first rest ih =>
    refine List.forall_mem_cons.mpr ⟨?_, ih h⟩
    have here := (Workload.prefix_registerAll _ rest).trans h
    rw [Workload.tagIndex_eq here]
    exact Nat.lt_of_lt_of_le (Workload.registerIn_lt ..) here.length_le

/-- Tags that come from registering references have them all. -/
theorem registered_of_eq {tags later : List RegisteredTag} {references : List (String × TagClass)}
    (h : later = registerAll tags references) : Registered later references := by
  subst h
  exact registered_of_registerAll (List.prefix_refl _)

/-- Behind the index of a registered reference is its tag. -/
theorem Registered.getElem? {tags : List RegisteredTag} {references : List (String × TagClass)}
    (h : Registered tags references) {path : String} {tagClass : TagClass}
    (mem : (path, tagClass) ∈ references) :
    ∃ tag, tags[tagIndex tags path tagClass]? = some tag ∧ tag.path = path ∧
      tag.tagClass = tagClass := by
  have inside := h _ mem
  refine ⟨_, List.getElem?_eq_getElem inside, ?_⟩
  exact of_decide_eq_true (List.findIdx_getElem (w := inside))

/-! ### Registries compared -/

/-- What a reference to the tag says. -/
def RegisteredTag.reference (tag : RegisteredTag) : String × TagClass := (tag.path, tag.tagClass)

/-- The position of a tag is the first one where its path and its class are. -/
theorem tagIndex_eq_idxOf (tags : List RegisteredTag) (path : String) (tagClass : TagClass) :
    tagIndex tags path tagClass = (tags.map RegisteredTag.reference).idxOf (path, tagClass) := by
  rw [tagIndex, List.idxOf, List.findIdx_map]
  congr 1
  funext tag
  rw [Bool.eq_iff_iff]
  simp [RegisteredTag.reference]

namespace Workload

/-- A tag is added unless there is a reference to it already. -/
theorem fst_registerIn (tags : List RegisteredTag) (reference : String × TagClass) :
    (registerIn tags reference.1 reference.2).1 =
      if reference ∈ tags.map RegisteredTag.reference then tags
      else tags ++ [{ path := reference.1, tagClass := reference.2 }] := by
  unfold registerIn
  split
  · rename_i index found
    obtain ⟨inside, rfl⟩ := List.findIdx?_eq_some_iff_findIdx_eq.mp found
    have here := of_decide_eq_true (List.findIdx_getElem (w := inside))
    rw [if_pos (List.mem_map.mpr ⟨_, List.getElem_mem inside, Prod.ext here.1 here.2⟩)]
  · rename_i missing
    rw [if_neg]
    intro mem
    obtain ⟨tag, there, rfl⟩ := List.mem_map.mp mem
    exact of_decide_eq_false (List.findIdx?_eq_none_iff.mp missing tag there) ⟨rfl, rfl⟩

/-- A reference is added unless it is there already. -/
theorem map_reference_registerIn (tags : List RegisteredTag) (reference : String × TagClass) :
    (registerIn tags reference.1 reference.2).1.map RegisteredTag.reference =
      if reference ∈ tags.map RegisteredTag.reference then tags.map RegisteredTag.reference
      else tags.map RegisteredTag.reference ++ [reference] := by
  rw [fst_registerIn, apply_ite (List.map RegisteredTag.reference), List.map_append]
  rfl

/-- What is registered in the end has been there or is referred to. -/
theorem mem_registerAll {tags : List RegisteredTag} {references : List (String × TagClass)}
    {reference : String × TagClass} :
    reference ∈ (registerAll tags references).map RegisteredTag.reference ↔
      reference ∈ tags.map RegisteredTag.reference ∨ reference ∈ references := by
  induction references generalizing tags with
  | nil => simp [registerAll]
  | cons first rest ih =>
    -- A reference that is known already adds nothing.
    change reference ∈ (registerAll (registerIn tags first.1 first.2).1 rest).map _ ↔ _
    rw [ih, map_reference_registerIn]
    split
    · rename_i known
      have absorbed : reference ∈ tags.map RegisteredTag.reference ∨ reference = first ↔
          reference ∈ tags.map RegisteredTag.reference := or_iff_left_of_imp fun h => h ▸ known
      rw [List.mem_cons, ← or_assoc, absorbed]
    · rw [List.mem_append, List.mem_singleton, List.mem_cons, or_assoc]

/-- No tag is registered twice. -/
theorem nodup_registerAll {tags : List RegisteredTag} {references : List (String × TagClass)}
    (nodup : (tags.map RegisteredTag.reference).Nodup) :
    ((registerAll tags references).map RegisteredTag.reference).Nodup := by
  induction references generalizing tags with
  | nil => exact nodup
  | cons first rest ih =>
    refine ih ?_
    rw [map_reference_registerIn]
    split
    · exact nodup
    · rename_i missing
      exact List.nodup_append.mpr ⟨nodup, List.nodup_singleton _, by simpa using missing⟩

/-- What is registered depends on the paths and classes that there are, not on what else is known of
the tags. -/
theorem map_reference_registerAll_congr {tags tags' : List RegisteredTag}
    {references : List (String × TagClass)}
    (same : tags.map RegisteredTag.reference = tags'.map RegisteredTag.reference) :
    (registerAll tags references).map RegisteredTag.reference =
      (registerAll tags' references).map RegisteredTag.reference := by
  induction references generalizing tags tags' with
  | nil => exact same
  | cons first rest ih =>
    refine ih ?_
    rw [map_reference_registerIn, map_reference_registerIn, same]

/-- The fewer tags there are to begin with, the fewer there are in the end. -/
theorem length_registerAll_le {tags tags' : List RegisteredTag}
    {references : List (String × TagClass)} (nodup : (tags.map RegisteredTag.reference).Nodup)
    (subset : tags.map RegisteredTag.reference ⊆ tags'.map RegisteredTag.reference) :
    (registerAll tags references).length ≤ (registerAll tags' references).length := by
  have contained : (registerAll tags references).map RegisteredTag.reference ⊆
      (registerAll tags' references).map RegisteredTag.reference := fun reference mem =>
    mem_registerAll.mpr ((mem_registerAll.mp mem).imp_left fun h => subset h)
  have shorter := ((nodup_registerAll nodup).subperm contained).length_le
  rwa [List.length_map, List.length_map] at shorter

end Workload

/-! ### Many tags at once -/

namespace TagTable

variable {table : TagTable} {buckets : Array (List (String × TagClass))}

@[simp] theorem size_note (reference : String × TagClass) :
    (note buckets reference).size = buckets.size :=
  Array.size_modify

/-- The bucket of a reference gets what is noted. -/
theorem mem_note {reference noted : String × TagClass} (h : slot noted < buckets.size) :
    reference ∈ (note buckets noted).getD (slot reference) [] ↔
      reference ∈ buckets.getD (slot reference) [] ∨ reference = noted := by
  rw [note, Array.getD_eq_getD_getElem?, Array.getD_eq_getD_getElem?, Array.getElem?_modify]
  by_cases same : slot noted = slot reference
  · rw [if_pos same, Array.getElem?_eq_getElem (same ▸ h)]
    simp [or_comm]
  · rw [if_neg same]
    refine (or_iff_left ?_).symm
    rintro rfl
    exact same rfl

theorem slot_lt (reference : String × TagClass) : slot reference < size :=
  Nat.mod_lt _ (by decide)

/-- The buckets have the references to the tags, each in its own. -/
structure Faithful (table : TagTable) : Prop where
  size_buckets : table.buckets.size = size
  mem : ∀ reference, reference ∈ table.buckets.getD (slot reference) [] ↔
    reference ∈ table.tags.toList.map RegisteredTag.reference

/-- An index that is built from the tags finds what a search through them finds. -/
theorem Faithful.ofTags (tags : List RegisteredTag) : (ofTags tags).Faithful := by
  suffices h : ∀ (buckets : Array (List (String × TagClass))), buckets.size = size →
      let noted := tags.foldl (fun buckets tag => note buckets tag.reference) buckets
      noted.size = size ∧ ∀ reference, reference ∈ noted.getD (slot reference) [] ↔
        reference ∈ buckets.getD (slot reference) [] ∨
          reference ∈ tags.map RegisteredTag.reference by
    obtain ⟨sizes, mem⟩ := h (Array.replicate size []) Array.size_replicate
    refine ⟨sizes, fun reference => (mem reference).trans ?_⟩
    simp [TagTable.ofTags, Array.getD_eq_getD_getElem?, slot_lt]
  induction tags with
  | nil => exact fun buckets sizes => ⟨sizes, by simp⟩
  | cons tag rest ih =>
    intro buckets sizes
    obtain ⟨sizes', mem⟩ := ih (note buckets tag.reference) ((size_note _).trans sizes)
    refine ⟨sizes', fun reference => (mem reference).trans ?_⟩
    rw [mem_note (sizes ▸ slot_lt _), List.map_cons, List.mem_cons, or_assoc]

/-- Inserting into a table registers the tag. -/
theorem Faithful.insert (faithful : table.Faithful) (reference : String × TagClass) :
    (table.insert reference).Faithful ∧ (table.insert reference).tags.toList =
      (Workload.registerIn table.tags.toList reference.1 reference.2).1 := by
  obtain ⟨tags, buckets⟩ := table
  obtain ⟨sizes, mem⟩ := faithful
  rw [Workload.fst_registerIn, TagTable.insert]
  simp only [mem]
  split
  · exact ⟨⟨sizes, mem⟩, rfl⟩
  · refine ⟨⟨(size_note reference).trans sizes, fun other => ?_⟩, Array.toList_push⟩
    change other ∈ (note buckets reference).getD (slot other) [] ↔ _
    rw [mem_note (sizes ▸ slot_lt reference), mem other]
    simp [RegisteredTag.reference]

/-- Inserting one after another registers every tag. -/
theorem Faithful.toList_tags_foldl_insert (faithful : table.Faithful)
    (references : List (String × TagClass)) :
    (references.foldl TagTable.insert table).tags.toList =
      registerAll table.tags.toList references := by
  induction references generalizing table with
  | nil => rfl
  | cons reference rest ih =>
    obtain ⟨faithful', inserted⟩ := faithful.insert reference
    rw [List.foldl_cons, ih faithful', inserted]
    rfl

end TagTable

end TagSchema
