import TagSchema.Proofs.Bundle.Reading

/-!
# What bundles keep is kept again

What a bundle keeps of a value, another bundle keeps as it is, up to identifiers, as long as its
paths are in lower case; and what is built for it has the same sizes and makes the same references.
-/

namespace TagSchema

variable {tags tags' : List RegisteredTag}

/-! ### What is kept twice -/

namespace Dependency

variable {default : Option TagClass} {d : Dependency}

/-- A bundle keeps whether a reference is null. -/
theorem isNull_packedKept (tags : List RegisteredTag) (default : Option TagClass)
    (lower : Text.lowercase d.path = d.path) :
    (d.packedKept tags default).isNull = d.isNull := by
  by_cases null : d.isNull
  · rw [packedKept_of_null null, null]
    rfl
  · rw [packedKept_of_path null, isNull, isNull, lower]

/-- What a bundle keeps is kept again, with the identifiers of the second bundle. -/
theorem packedKept_packedKept (lower : Text.lowercase d.path = d.path) :
    (d.packedKept tags default).packedKept tags' default = d.packedKept tags' default := by
  have kept := isNull_packedKept tags default lower
  by_cases null : d.isNull
  · rw [packedKept_of_null (kept.trans null), packedKept_of_null null, packedKept_of_null null]
    exact congrArg nullOf (restoreClass_restoreClass default d.tagClass)
  · rw [packedKept_of_path (kept ▸ null), packedKept_of_path null, packedKept_of_path null]
    simp only [lower]

end Dependency

/-- Flags that are not defined are dropped once. -/
theorem PlainType.kept_kept (type : PlainType) (value : type.Value) :
    type.kept .packed (type.kept .packed value) = type.kept .packed value := by
  cases type with
  | bitfield type =>
    have once {n : Nat} (word mask : BitVec n) : word &&& mask &&& mask = word &&& mask := by
      rw [BitVec.and_assoc, BitVec.and_self]
    exact once _ _
  | number | enum | index | tagId | tagString | fourCC | padding => rfl

/-- What was kept before is kept again: only the positions of tags are new. -/
theorem LeafType.packedKept_packedKept (type : LeafType) {value : type.Value}
    (lower : ∀ path ∈ type.paths value, Text.lowercase path = path) :
    type.packedKept tags' (type.packedKept tags value) = type.packedKept tags' value := by
  cases type with
  | plain type => exact type.kept_kept value
  | dependency classes nonNull =>
    exact Dependency.packedKept_packedKept (lower _ (List.mem_singleton_self _))
  | blob selector => rfl

/-- So it is of all members, at every depth. -/
theorem Members.packedKept_packedKept (members : Members) {value : members.Value}
    (lower : ∀ path ∈ members.paths value, Text.lowercase path = path) :
    members.packedKept tags' (members.packedKept tags value) = members.packedKept tags' value := by
  induction members with
  | nil => rfl
  | leaf traits type rest ih =>
    obtain ⟨own, others⟩ := List.forall_mem_append.mp lower
    exact Prod.ext (type.packedKept_packedKept own) (ih others)
  | array traits limits name title element rest ihElement ih =>
    obtain ⟨own, others⟩ := List.forall_mem_append.mp lower
    refine Prod.ext ?_ (ih others)
    change (value.1.map _).map _ = value.1.map _
    rw [List.map_map]
    exact List.map_congr_left fun item mem =>
      ihElement (List.forall_mem_flatMap.mp own item mem)

/-! ### Identifiers -/

/-- A reference without its identifier. -/
def Dependency.withoutId (d : Dependency) : Dependency := { d with id := .null }

/-- A value without the identifier of its reference. -/
def LeafType.withoutIds : (type : LeafType) → type.Value → type.Value
  | .dependency _ _, value => Dependency.withoutId value
  | .plain _, value | .blob _, value => value

/-- Members without the identifiers of their references, at every depth. -/
def Members.withoutIds : (members : Members) → members.Value → members.Value
  | .nil, _ => ()
  | .leaf _ type rest, value => (type.withoutIds value.1, rest.withoutIds value.2)
  | .array _ _ _ _ element rest, value => (value.1.map element.withoutIds, rest.withoutIds value.2)

/-- But for the position of its tag, what is kept of a reference does not depend on the tags. -/
theorem Dependency.withoutId_packedKept {default : Option TagClass} (d : Dependency) :
    (d.packedKept tags default).withoutId = (d.packedKept tags' default).withoutId := by
  by_cases null : d.isNull
  · rw [packedKept_of_null null, packedKept_of_null null]
  · rw [packedKept_of_path null, packedKept_of_path null, withoutId, withoutId]

theorem LeafType.withoutIds_packedKept (type : LeafType) (value : type.Value) :
    type.withoutIds (type.packedKept tags value) =
      type.withoutIds (type.packedKept tags' value) := by
  cases type with
  | dependency classes nonNull => exact Dependency.withoutId_packedKept value
  | plain | blob => rfl

/-- Two bundles keep the same of a value except for identifiers. -/
theorem Members.withoutIds_packedKept (members : Members) (value : members.Value) :
    members.withoutIds (members.packedKept tags value) =
      members.withoutIds (members.packedKept tags' value) := by
  induction members with
  | nil => rfl
  | leaf traits type rest ih =>
    exact Prod.ext (type.withoutIds_packedKept value.1) (ih value.2)
  | array traits limits name title element rest ihElement ih =>
    refine Prod.ext ?_ (ih value.2)
    change (value.1.map _).map _ = (value.1.map _).map _
    rw [List.map_map, List.map_map]
    exact List.map_congr_left fun item _ => ihElement item

/-- What is kept of a reference depends on the positions of tags only. -/
theorem Dependency.packedKept_congr {default : Option TagClass} (d : Dependency)
    (same : tagIndex tags = tagIndex tags') :
    d.packedKept tags default = d.packedKept tags' default := by
  unfold packedKept
  rw [same]

theorem LeafType.packedKept_congr (type : LeafType) (value : type.Value)
    (same : tagIndex tags = tagIndex tags') :
    type.packedKept tags value = type.packedKept tags' value := by
  cases type with
  | dependency classes nonNull => exact Dependency.packedKept_congr value same
  | plain | blob => rfl

/-- Bundles with the same references keep the same. -/
theorem Members.packedKept_congr
    (same : tags.map RegisteredTag.reference = tags'.map RegisteredTag.reference)
    (members : Members) (value : members.Value) :
    members.packedKept tags value = members.packedKept tags' value := by
  have indices : tagIndex tags = tagIndex tags' := by
    funext path tagClass
    rw [tagIndex_eq_idxOf, tagIndex_eq_idxOf, same]
  induction members with
  | nil => rfl
  | leaf traits type rest ih =>
    exact Prod.ext (type.packedKept_congr value.1 indices) (ih value.2)
  | array traits limits name title element rest ihElement ih =>
    exact Prod.ext (List.map_congr_left fun item _ => ihElement item) (ih value.2)

/-! ### The same sizes and references -/

/-- What is built in two places has the same sizes and makes the same references. -/
structure Built.Resembles {α β : Type} (a : Built α) (b : Built β) : Prop where
  sizes : a.structs.map (·.data.length) = b.structs.map (·.data.length)
  references : a.references = b.references

namespace Built.Resembles

variable {α α' β β' γ γ' : Type} {a : Built α} {b : Built α'} {c : Built β} {d : Built β'}

/-- Plans that resemble each other do so after their results are changed. -/
theorem map {plan : Plan α} {plan' : Plan α'} {structs rawData structs' rawData' : Nat} (f : α → β)
    (f' : α' → β') (h : (plan structs rawData).Resembles (plan' structs' rawData')) :
    (plan.map f structs rawData).Resembles (plan'.map f' structs' rawData') :=
  ⟨h.sizes, h.references⟩

/-- Plans that resemble each other part by part do so as a whole. -/
theorem combine (f : α → β → γ) (f' : α' → β' → γ') (h : a.Resembles b) (h' : c.Resembles d) :
    (a.combine f c).Resembles (b.combine f' d) where
  sizes := by
    change (a.structs ++ c.structs).map _ = (b.structs ++ d.structs).map _
    rw [List.map_append, List.map_append, h.sizes, h'.sizes]
  references := by
    change a.references ++ c.references = b.references ++ d.references
    rw [h.references, h'.references]

/-- Behind a pointer to a struct of the same size. -/
theorem behind {e : Built γ} {e' : Built γ'} {s t : PoolStruct} (h : a.Resembles b)
    (size : s.data.length = t.data.length)
    (structs : e.structs = s :: a.structs ∧ e'.structs = t :: b.structs)
    (references : e.references = a.references ∧ e'.references = b.references) :
    e.Resembles e' where
  sizes := by rw [structs.1, structs.2, List.map_cons, List.map_cons, size, h.sizes]
  references := references.1.trans (h.references.trans references.2.symm)

end Built.Resembles

section plans

variable {α β : Type} {address address' : Nat → UInt32} {place place' : Nat}
  {next next' rawData rawData' : Nat}

/-- The plan of a reference resembles that of the reference that was kept, which is null if and only
if it is. -/
theorem resembles_dependency {default : Option TagClass} {d : Dependency}
    (lower : Text.lowercase d.path = d.path) {kept : List RegisteredTag} :
    (Plan.dependency tags place d next rawData).Resembles
      (Plan.dependency tags' place' (d.packedKept kept default) next' rawData') := by
  have same := Dependency.isNull_packedKept kept default lower
  by_cases null : d.isNull
  · rw [Plan.dependency_of_null null, Plan.dependency_of_null (same.trans null)]
    exact ⟨rfl, rfl⟩
  · rw [Plan.dependency_of_path null, Plan.dependency_of_path (same ▸ null),
      Dependency.packedKept_of_path null]
    exact ⟨rfl, by simp only [lower]⟩

/-- The plan of a blob is the same anywhere, but for addresses. -/
theorem resembles_blob (selector : BlobSelector) (data : Bytes) :
    (Plan.blob address place selector data next rawData).Resembles
      (Plan.blob address' place' selector data next' rawData') := by
  by_cases empty : data = []
  · subst empty
    exact ⟨rfl, rfl⟩
  by_cases selected : selector = .pointer
  · subst selected
    rw [Plan.blob_pointer empty, Plan.blob_pointer empty]
    exact ⟨rfl, rfl⟩
  · rw [Plan.blob_raw empty selected, Plan.blob_raw empty selected]
    exact ⟨rfl, rfl⟩

/-- Elements are planned one by one, each like the one that was kept of it. -/
theorem resembles_elements (next next' rawData rawData' size index : Nat)
    {single single' : Nat → α → Plan β} {kept : α → α} {items : List α}
    (each : ∀ item ∈ items, ∀ place place' next next' rawData rawData',
      (single place item next rawData).Resembles (single' place' (kept item) next' rawData')) :
    (Plan.elements single size index items next rawData).Resembles
      (Plan.elements single' size index (items.map kept) next' rawData') := by
  induction items generalizing index next rawData next' rawData' with
  | nil => exact ⟨rfl, rfl⟩
  | cons item rest ih =>
    obtain ⟨first, others⟩ := List.forall_mem_cons.mp each
    exact .combine _ _ (first ..) (ih _ _ _ _ _ others)

/-- An array has as many elements as before, and they are planned alike. -/
theorem resembles_array {single single' : Nat → α → Plan β} {encode : β → Bytes} {kept : α → α}
    {size : Nat} {items : List α} (sizes : ∀ stored, (encode stored).length = size)
    (each : ∀ item ∈ items, ∀ place place' next next' rawData rawData',
      (single place item next rawData).Resembles (single' place' (kept item) next' rawData')) :
    (Plan.array address place size encode single items next rawData).Resembles
      (Plan.array address' place' size encode single' (items.map kept) next' rawData') := by
  by_cases empty : items = []
  · subst empty
    exact ⟨rfl, rfl⟩
  rw [Plan.array_of_ne empty, Plan.array_of_ne (by simpa using empty)]
  have inner := resembles_elements (next + 1) (next' + 1) rawData rawData' size 0 each
  refine .behind inner ?_ ⟨rfl, rfl⟩ ⟨rfl, rfl⟩
  dsimp only
  rw [length_flatMap_of_length_eq sizes, length_flatMap_of_length_eq sizes,
    Plan.length_stored_elements, Plan.length_stored_elements, List.length_map]

/-- A member is planned like what was kept of it, wherever they are. -/
theorem LeafType.resembles_plan {order : ByteOrder} {kept : List RegisteredTag} (type : LeafType)
    {value : type.Value} (lower : ∀ path ∈ type.paths value, Text.lowercase path = path) :
    (type.plan address tags place order value next rawData).Resembles
      (type.plan address' tags' place' order (type.packedKept kept value) next' rawData') := by
  cases type with
  | plain type => exact ⟨rfl, rfl⟩
  | dependency classes nonNull =>
    exact .map _ _ (resembles_dependency (lower _ (List.mem_singleton_self _)))
  | blob selector => exact .map _ _ (resembles_blob selector value)

/-- What is built for a value and for what bundles keep of it. -/
theorem Members.resembles_plan (address address' : Nat → UInt32)
    (tags tags' kept : List RegisteredTag) (place place' next next' rawData rawData' : Nat)
    (members : Members) {value : members.Value}
    (lower : ∀ path ∈ members.paths value, Text.lowercase path = path) :
    (members.plan address tags place value next rawData).Resembles
      (members.plan address' tags' place' (members.packedKept kept value) next' rawData') := by
  induction members generalizing place place' next next' rawData rawData' with
  | nil => exact ⟨rfl, rfl⟩
  | leaf traits type rest ih =>
    obtain ⟨own, others⟩ := List.forall_mem_append.mp lower
    exact .combine _ _ (type.resembles_plan own) (ih _ _ _ _ _ _ others)
  | array traits limits name title element rest ihElement ih =>
    obtain ⟨own, others⟩ := List.forall_mem_append.mp lower
    refine .combine _ _ (.map _ _ (resembles_array (Layout.length_encode _) ?_))
      (ih _ _ _ _ _ _ others)
    exact fun item mem place place' next next' rawData rawData' =>
      ihElement place place' next next' rawData rawData' (List.forall_mem_flatMap.mp own item mem)

end plans

end TagSchema
