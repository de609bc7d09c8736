import TagSchema.Proofs.Bundle.Layout
import TagSchema.Proofs.Bundle.Plan
import TagSchema.Proofs.Regular
import TagSchema.Proofs.StoredForm
import TagSchema.Proofs.Tag.Id

/-!
# Plans are read back

A bundle that has what a plan with addresses describes gives the value back, except for what bundles
do not keep: flags that are not defined, identifiers, the classes of null references and the case of
paths.
-/

namespace TagSchema

/-! ### What a bundle keeps -/

/-- What a bundle keeps of a reference: its class if it is null, else class and path, and the
identifier of the tag that is registered for it. -/
def Dependency.packedKept (tags : List RegisteredTag) (default : Option TagClass) (d : Dependency) :
    Dependency :=
  if d.isNull then .nullOf (restoreClass default d.tagClass)
  else
    { tagClass := d.tagClass, path := Text.lowercase d.path
      id := .ofIndex (tagIndex tags d.path d.tagClass) }

/-- Of a null reference only the class is kept, or the one that it is restored to. -/
theorem Dependency.packedKept_of_null {tags : List RegisteredTag} {default : Option TagClass}
    {d : Dependency} (h : d.isNull = true) :
    d.packedKept tags default = .nullOf (restoreClass default d.tagClass) := if_pos h

/-- Of any other reference the path is kept in lower case, and the position of its tag. -/
theorem Dependency.packedKept_of_path {tags : List RegisteredTag} {default : Option TagClass}
    {d : Dependency} (h : ¬d.isNull = true) :
    d.packedKept tags default =
      { tagClass := d.tagClass, path := Text.lowercase d.path
        id := .ofIndex (tagIndex tags d.path d.tagClass) } := if_neg h

/-- What a bundle keeps of a member. -/
def LeafType.packedKept (tags : List RegisteredTag) : (type : LeafType) → type.Value → type.Value
  | .plain type, value => type.kept .packed value
  | .dependency classes _, d => Dependency.packedKept tags (defaultClass classes) d
  | .blob _, data => data

/-- What a bundle keeps of some members. -/
def Members.packedKept (tags : List RegisteredTag) : (members : Members) → members.Value →
    members.Value
  | .nil, _ => ()
  | .leaf _ type rest, value => (type.packedKept tags value.1, rest.packedKept tags value.2)
  | .array _ _ _ _ element rest, value =>
    (value.1.map (element.packedKept tags), rest.packedKept tags value.2)

namespace Bundle

/-! ### What a bundle has -/

variable {α β γ : Type} {bundle : Bundle} {tags : List RegisteredTag} {address : Nat → UInt32}
  {next rawData : Nat}

/-- The bundle has what has been built: the structs at their addresses, the raw data at its offset,
and the tags that are referred to. -/
structure Has (bundle : Bundle) (tags : List RegisteredTag) (address : Nat → UInt32)
    (next rawData : Nat) (built : Built α) : Prop where
  structs : ∀ (i : Nat) s, built.structs[i]? = some s → bundle.Loads (address (next + i)) s.data
  rawData : bundle.rawData.slice? rawData built.rawData.length = some built.rawData
  references : ∀ reference ∈ built.references,
    bundle.lookup (.ofIndex (tagIndex tags reference.1 reference.2)) = .ok reference
  numbers : ∀ n ∈ built.numbers, n < UInt32.size

/-- Two windows side by side. -/
theorem slice?_of_slice?_append {data first second : Bytes} {offset : Nat}
    (h : data.slice? offset (first ++ second).length = some (first ++ second)) :
    data.slice? offset first.length = some first ∧
      data.slice? (offset + first.length) second.length = some second := by
  unfold Bytes.slice? at h ⊢
  rw [List.length_append] at h
  split at h
  · have whole := Option.some.inj h
    constructor
    · rw [if_pos (by omega)]
      have := congrArg (List.take first.length) whole
      rw [List.take_take, Nat.min_eq_left (by omega), List.take_left] at this
      rw [this]
    · rw [if_pos (by omega)]
      have := congrArg (List.drop first.length) whole
      rw [List.drop_take, List.drop_drop, List.drop_left, Nat.add_sub_cancel_left] at this
      rw [this]
  · cases h

/-- What has been built in two parts. -/
theorem Has.parts {f : α → β → γ} {a : Built α} {b : Built β}
    (has : bundle.Has tags address next rawData (a.combine f b)) :
    bundle.Has tags address next rawData a ∧
      bundle.Has tags address (next + a.structs.length) (rawData + a.rawData.length) b := by
  obtain ⟨structs, raw, references, numbers⟩ := has
  obtain ⟨rawFirst, rawSecond⟩ := slice?_of_slice?_append raw
  obtain ⟨referencesFirst, referencesSecond⟩ := List.forall_mem_append.mp references
  obtain ⟨numbersFirst, numbersSecond⟩ := List.forall_mem_append.mp numbers
  refine ⟨⟨fun i s found => ?_, rawFirst, referencesFirst, numbersFirst⟩,
    ⟨fun i s found => ?_, rawSecond, referencesSecond, numbersSecond⟩⟩
  · exact structs i s (List.getElem?_append_left (List.getElem?_eq_some_iff.mp found).1 ▸ found)
  · have := structs (a.structs.length + i) s
      (by
        change (a.structs ++ b.structs)[_]? = _
        rw [List.getElem?_append_right (Nat.le_add_right _ _), Nat.add_sub_cancel_left, found])
    rwa [← Nat.add_assoc] at this

/-- What lies behind a pointer. -/
theorem Has.behind {a : Built α} {c : Built β} {s : PoolStruct}
    (has : bundle.Has tags address next rawData c) (structs : c.structs = s :: a.structs)
    (raw : c.rawData = a.rawData) (references : c.references = a.references)
    (numbers : ∀ n ∈ a.numbers, n ∈ c.numbers) :
    bundle.Loads (address next) s.data ∧ bundle.Has tags address (next + 1) rawData a := by
  refine ⟨has.structs 0 s (by rw [structs]; rfl), ⟨fun i t found => ?_, raw ▸ has.rawData,
    references ▸ has.references, fun n hn => has.numbers n (numbers n hn)⟩⟩
  have := has.structs (i + 1) t (by rw [structs]; exact found)
  rwa [← Nat.add_assoc, Nat.add_right_comm] at this

/-! ### Reading handles -/

/-- A handle that was planned for a reference is read as what bundles keep of it. -/
theorem readDependency_plan {place : Nat} {site : Site} {default : Option TagClass} {d : Dependency}
    (has : bundle.Has tags address next rawData (Plan.dependency tags place d next rawData)) :
    let handle := (Plan.dependency tags place d next rawData).stored
    bundle.readDependency site default handle.tagClass handle.id =
      .ok (d.packedKept tags default) := by
  by_cases null : d.isNull
  · rw [Plan.dependency_of_null null, Dependency.packedKept_of_null null]
    rfl
  · rw [Plan.dependency_of_path null] at has ⊢
    have found := has.references _ (List.mem_singleton_self _)
    simp only [Dependency.packedKept_of_path null, readDependency, TagId.isNull_ofIndex, found,
      if_true, Bool.false_eq_true, if_false]

theorem slice?_whole (data : Bytes) : data.slice? 0 data.length = some data := by
  rw [Bytes.slice?, if_pos (by omega), List.drop_zero, List.take_length]

theorem Loads.whole {address : UInt32} {data : Bytes} (loads : bundle.Loads address data) :
    bundle.structBytes address data.length = .ok data := by
  have read := (loads 0 data.length data (slice?_whole data)).2
  rwa [show UInt32.ofNat 0 = 0 from rfl, UInt32.add_zero] at read

/-- The base struct is read from the place that the bundle says. -/
theorem baseBytes_eq_ok (bundle : Bundle) (size : Nat) {data : Bytes}
    (h : bundle.memory.slice? bundle.baseStruct size = some data) :
    bundle.baseBytes size = .ok data := by
  rw [baseBytes, region, h]

theorem ofNat_ne_zero {n : Nat} (positive : 0 < n) (fits : n < UInt32.size) :
    ¬UInt32.ofNat n = 0 := by
  intro h
  have := congrArg UInt32.toNat h
  rw [UInt32.toNat_ofNat_of_lt' fits] at this
  exact absurd this (Nat.pos_iff_ne_zero.mp positive)

/-- A blob is read from where it was put, by the selector that put it there. -/
theorem readBlob_plan {place : Nat} {site : Site} {selector : BlobSelector} (data : Bytes)
    (built : selector.isBuilt = true)
    (has : bundle.Has tags address next rawData
      (Plan.blob address place selector data next rawData)) :
    bundle.readBlob site selector (Plan.blob address place selector data next rawData).stored =
      .ok data := by
  -- An empty blob has a handle of zeros, which is read as nothing.
  by_cases empty : data = []
  · subst empty
    rfl
  have positive : 0 < data.length := List.length_pos_iff.mpr empty
  by_cases selected : selector = .pointer
  · subst selected
    rw [Plan.blob_pointer empty] at has ⊢
    have fits := has.numbers data.length (List.mem_singleton_self _)
    have read := (has.structs 0 ⟨data, [], []⟩ rfl).whole
    simp only [readBlob, if_neg (ofNat_ne_zero positive fits), locate, dataAt,
      UInt32.toNat_ofNat_of_lt' fits]
    exact congrArg (Except.mapError _) read
  · rw [Plan.blob_raw empty selected] at has ⊢
    have fits := has.numbers data.length (List.mem_cons_self ..)
    have offset := has.numbers rawData (List.mem_cons_of_mem _ (List.mem_singleton_self _))
    -- The flag in the handle is zero, so the data is not looked for in another file.
    have located : locate selector (BlobHandle.mk (UInt32.ofNat data.length) 0
        (UInt32.ofNat rawData) 0 0) = (.cache, UInt32.ofNat rawData) := by
      cases selector with
      | pointer => exact absurd rfl selected
      | fileOffset => rfl
      | external source =>
        have inside : source = .bitmaps ∨ source = .sounds := of_decide_eq_true built
        exact if_pos ⟨inside, show (0 : UInt32) &&& 1 = 0 by decide⟩
    have read : region "cache data" bundle.rawData rawData data.length = .ok data := by
      rw [region, has.rawData]
    simp only [readBlob, if_neg (ofNat_ne_zero positive fits), located, dataAt,
      UInt32.toNat_ofNat_of_lt' fits, UInt32.toNat_ofNat_of_lt' offset]
    exact congrArg (Except.mapError _) read

/-- Elements are read one after another from the struct that they fill. -/
theorem readElements_plan {single : Nat → α → Plan β} {encode : β → Bytes} {size index : Nat}
    {items : List α} {site : Site} {element : UInt32 → Except TagError γ} {kept : α → γ}
    {pointer : UInt32} (front : Bytes) (sizes : ∀ stored, (encode stored).length = size)
    (each : ∀ place item next rawData, bundle.Has tags address next rawData
        (single place item next rawData) → ∀ start,
      bundle.structBytes start size = .ok (encode (single place item next rawData).stored) →
      element start = .ok (kept item))
    (has : bundle.Has tags address next rawData
      (Plan.elements single size index items next rawData))
    (begins : front.length = index * size)
    (loads : bundle.Loads pointer (front ++
      (Plan.elements single size index items next rawData).stored.flatMap encode)) :
    readElements site size element pointer index items.length = .ok (items.map kept) := by
  -- `front` holds the elements that have been read.
  induction items generalizing index next rawData front with
  | nil => rfl
  | cons item rest ih =>
    obtain ⟨first, others⟩ := has.parts
    have window : (front ++ (Plan.elements single size index (item :: rest) next
        rawData).stored.flatMap encode).slice? (index * size) size =
          some (encode (single (index * size) item next rawData).stored) := by
      have whole := slice?_whole (encode (single (index * size) item next rawData).stored)
      rw [sizes] at whole
      have behind := slice?_append front ((Plan.elements single size (index + 1) rest
        (next + (single (index * size) item next rawData).structs.length)
        (rawData + (single (index * size) item next rawData).rawData.length)).stored.flatMap encode)
        whole
      rw [Nat.add_zero, begins] at behind
      exact behind
    obtain ⟨reached, read⟩ := loads _ _ _ window
    have one := each _ item next rawData first _ read
    have more := ih (front ++ encode (single (index * size) item next rawData).stored) others
      (by rw [List.length_append, sizes, begins, Nat.succ_mul])
      (by rw [List.append_assoc]; exact loads)
    rw [List.length_cons, readElements, elementAddress?, if_pos reached]
    dsimp only
    rw [one]
    exact congrArg (Except.map (List.cons (kept item))) more

/-- The elements of an array are read back from behind its handle. -/
theorem readArray_plan (site : Site) {single : Nat → α → Plan β} {encode : β → Bytes}
    {size place : Nat} {items : List α} {element : UInt32 → Except TagError γ} {kept : α → γ}
    (sizes : ∀ stored, (encode stored).length = size)
    (each : ∀ place item next rawData, bundle.Has tags address next rawData
        (single place item next rawData) → ∀ start,
      bundle.structBytes start size = .ok (encode (single place item next rawData).stored) →
      element start = .ok (kept item))
    (has : bundle.Has tags address next rawData
      (Plan.array address place size encode single items next rawData)) :
    let handle := (Plan.array address place size encode single items next rawData).stored
    readArray site size element handle.count handle.pointer = .ok (items.map kept) := by
  by_cases empty : items = []
  · subst empty
    rfl
  rw [Plan.array_of_ne empty] at has ⊢
  have count := has.numbers items.length (List.mem_cons_self ..)
  obtain ⟨loads, inner⟩ := has.behind
    (a := Plan.elements single size 0 items (next + 1) rawData) rfl rfl rfl
    fun n hn => List.mem_cons_of_mem _ hn
  dsimp only
  rw [readArray, UInt32.toNat_ofNat_of_lt' count]
  exact readElements_plan [] sizes each inner (Nat.zero_mul size).symm loads

end Bundle

open TagSchema.Bundle

variable {bundle : Bundle} {tags : List RegisteredTag} {address : Nat → UInt32}
  {place next rawData : Nat}

/-- Two readers that succeed one after the other. -/
theorem Except.pair_eq_ok {ε α β : Type} {m : Except ε α} {m' : Except ε β} {a : α} {b : β}
    (h : m = .ok a) (h' : m' = .ok b) :
    (m >>= fun a => m' >>= fun b => pure (a, b)) = .ok (a, b) := by
  rw [h, h']
  rfl

/-- A member that is no array is read back as what bundles keep of it. -/
theorem LeafType.readPacked_plan {order : ByteOrder} (site : Site) (type : LeafType)
    (value : type.Value) (regular : type.isPackedRegular order = true)
    (has : bundle.Has tags address next rawData
      (type.plan address tags place order value next rawData)) :
    type.readPacked bundle order site
        (type.plan address tags place order value next rawData).stored =
      .ok (type.packedKept tags value) := by
  cases type with
  | plain type => exact congrArg Except.ok (type.load_store .packed order value)
  | dependency classes nonNull =>
    exact readDependency_plan (d := value) ⟨has.structs, has.rawData, has.references, has.numbers⟩
  | blob selector =>
    obtain ⟨-, built⟩ := isPackedRegular_blob.mp regular
    exact readBlob_plan value built ⟨has.structs, has.rawData, has.references, has.numbers⟩

/-- The members of a struct are read back from what their plan stores, when the bundle has the rest
of the plan. -/
theorem Members.readPacked_plan (owner : String) {offset : Nat} (members : Members)
    (value : members.Value) (regular : members.isPackedRegular offset = true)
    (has : bundle.Has tags address next rawData
      (members.plan address tags place value next rawData)) :
    members.readPacked bundle owner (members.plan address tags place value next rawData).stored =
      .ok (members.packedKept tags value) := by
  induction members generalizing owner place offset next rawData with
  | nil => rfl
  | leaf traits type rest ih =>
    obtain ⟨-, leafRegular, regular⟩ := isPackedRegular_leaf.mp regular
    obtain ⟨first, others⟩ := has.parts
    have head := type.readPacked_plan (traits.site owner) value.1 leafRegular first
    have tail := ih owner value.2 regular others
    exact Except.pair_eq_ok head tail
  | array traits limits name title element rest ihElement ih =>
    obtain ⟨-, -, elementRegular, regular⟩ := isPackedRegular_array.mp regular
    obtain ⟨first, others⟩ := has.parts
    have handle : bundle.Has tags address next rawData (Plan.array address (place + traits.offset)
        (element.layout .packed).size (element.layout .packed).encode
        (fun place item => element.plan address tags place item) value.1 next rawData) :=
      ⟨first.structs, first.rawData, first.references, first.numbers⟩
    refine Except.pair_eq_ok ?_ (ih owner value.2 regular others)
    -- An element is read from its slot in the struct of the array, where it was encoded as planned.
    have each : ∀ place item next rawData, bundle.Has tags address next rawData
          (element.plan address tags place item next rawData) → ∀ start,
        bundle.structBytes start (element.layout .packed).size =
          .ok ((element.layout .packed).encode
            (element.plan address tags place item next rawData).stored) →
        (bundle.structBytes start (element.layout .packed).size >>= fun fixed =>
          element.readPacked bundle name ((element.layout .packed).decode fixed)) =
          .ok (element.packedKept tags item) := by
      intro place item next rawData has start read
      rw [read]
      change element.readPacked bundle name ((element.layout .packed).decode _) = _
      rw [Layout.decode_encode]
      exact ihElement name item elementRegular has
    exact readArray_plan (traits.site owner) (Layout.length_encode _) each handle

end TagSchema
