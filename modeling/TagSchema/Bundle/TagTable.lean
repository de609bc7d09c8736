import TagSchema.Bundle.Workload

/-!
# Registering many tags

A table keeps the references to registered tags in buckets, so that each new reference is compared
to few others.
-/

namespace TagSchema

/-- Registered tags, with the references to them in buckets. -/
structure TagTable where
  tags : Array RegisteredTag
  buckets : Array (List (String × TagClass))

namespace TagTable

/-- The number of buckets. -/
def size : Nat := 4096

/-- The bucket of a reference. -/
def slot (reference : String × TagClass) : Nat :=
  (reference.1.foldl (fun code c => code * 31 + c.val) reference.2.code).toNat % size

/-- The buckets with one more reference. -/
def note (buckets : Array (List (String × TagClass))) (reference : String × TagClass) :
    Array (List (String × TagClass)) :=
  buckets.modify (slot reference) (reference :: ·)

/-- The table of some tags. -/
def ofTags (tags : List RegisteredTag) : TagTable :=
  { tags := tags.toArray
    buckets := tags.foldl (fun buckets tag => note buckets (tag.path, tag.tagClass))
      (Array.replicate size []) }

/-- The table with one more tag, unless it is there already. -/
def insert (table : TagTable) (reference : String × TagClass) : TagTable :=
  let ⟨tags, buckets⟩ := table
  if reference ∈ buckets.getD (slot reference) [] then { tags, buckets }
  else
    { tags := tags.push { path := reference.1, tagClass := reference.2 }
      buckets := note buckets reference }

end TagTable

/-- Registers some tags one after another. -/
def Workload.registerEach (references : List (String × TagClass)) : Building Unit :=
  modify fun workload =>
    { workload with
      tags := (references.foldl TagTable.insert (.ofTags workload.tags)).tags.toList }

end TagSchema
