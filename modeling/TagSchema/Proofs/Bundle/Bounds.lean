import TagSchema.Proofs.Outcome
import TagSchema.Proofs.Overwriting
import TagSchema.Proofs.Regular
import TagSchema.Struct.PackedForm

/-!
# What is read fits into what it is read from

The counts, sizes and addresses in a bundle can be any words. What is read for them is no longer
than the memory or the store that it comes from, as every element and every blob is fetched as a
window of it. The elements of an array stand side by side, so its first and its last one bound them
all (`Bundle.StandAt.length_mul_le`), while elements of different arrays may well share their bytes.
-/

namespace TagSchema

/-- Whether the handle says that its blob is in an external file. -/
def BlobHandle.isExternal (handle : BlobHandle) : Bool := handle.external &&& 1 != 0

theorem Except.mapError_eq_ok {ε ε' α : Type} {m : Except ε α} {wrap : ε → ε'} {a : α}
    (h : m.mapError wrap = .ok a) : m = .ok a := by
  cases m with
  | error e => cases h
  | ok b => exact congrArg _ (Except.ok.inj h)

namespace Bundle

variable {bundle : Bundle}

/-! ### Windows -/

theorem region_eq_ok {what : String} {data bytes : Bytes} {offset size : Nat}
    (h : region what data offset size = .ok bytes) :
    bytes.length = size ∧ offset + size ≤ data.length := by
  unfold region at h
  split at h
  · rename_i found
    cases h
    exact ⟨Bytes.length_of_slice? found, (Bytes.slice?_eq_some_iff.mp found).1⟩
  · cases h

/-- What lies behind a pointer is a window of the memory. -/
theorem structBytes_eq_ok {pointer : UInt32} {size : Nat} {bytes : Bytes}
    (h : bundle.structBytes pointer size = .ok bytes) :
    bytes.length = size ∧ baseAddress.toNat ≤ pointer.toNat ∧
      pointer.toNat + size ≤ baseAddress.toNat + bundle.memory.length := by
  unfold structBytes at h
  split at h
  · cases h
  · rename_i below
    obtain ⟨length, inside⟩ := region_eq_ok h
    have above : baseAddress ≤ pointer := UInt32.not_lt.mp below
    have inOrder : baseAddress.toNat ≤ pointer.toNat := above
    rw [UInt32.toNat_sub_of_le _ _ above] at inside
    exact ⟨length, inOrder, by omega⟩

/-! ### Stores -/

/-- The bytes of a source; none if it is an external file that is not loaded. -/
def contents (bundle : Bundle) : DataSource → Bytes
  | .tagData => bundle.memory
  | .cache => bundle.rawData
  | source => (bundle.store? source).getD []

/-- The store of a blob, by the way its member finds it and by whether its handle says that it is
external. -/
def storeOf (bundle : Bundle) (isExternal : Bool) : BlobSelector → Bytes
  | .pointer => bundle.memory
  | .fileOffset => bundle.rawData
  | .external .bitmaps => bundle.contents (if isExternal then .bitmaps else .cache)
  | .external .sounds => bundle.contents (if isExternal then .sounds else .cache)
  | .external source => bundle.contents source

theorem contents_locate (selector : BlobSelector) (handle : BlobHandle) :
    bundle.contents (locate selector handle).1 = bundle.storeOf handle.isExternal selector := by
  unfold locate storeOf BlobHandle.isExternal
  cases selector with
  | pointer | fileOffset => rfl
  | external source =>
    by_cases inside : handle.external &&& 1 = 0 <;> cases source <;> simp [inside]

theorem dataAt_eq_ok {source : DataSource} {offset : UInt32} {size : Nat} {bytes : Bytes}
    (h : bundle.dataAt source offset size = .ok bytes) :
    bytes.length = size ∧ size ≤ (bundle.contents source).length := by
  have within {what : String} {data : Bytes}
      (found : region what data offset.toNat size = .ok bytes) :
      bytes.length = size ∧ size ≤ data.length := by
    obtain ⟨length, inside⟩ := region_eq_ok found
    exact ⟨length, by omega⟩
  cases source with
  | tagData =>
    obtain ⟨length, above, inside⟩ := structBytes_eq_ok h
    exact ⟨length, by change size ≤ bundle.memory.length; omega⟩
  | cache => exact within h
  | bitmaps | sounds | loc =>
    simp only [dataAt] at h
    split at h
    · rename_i data store
      simpa only [contents, store, Option.getD_some] using within h
    · cases h

/-- A blob is as long as its handle says, and no longer than its store. -/
theorem readBlob_eq_ok {site : Site} {selector : BlobSelector} {handle : BlobHandle} {data : Bytes}
    (h : bundle.readBlob site selector handle = .ok data) :
    data.length = handle.size.toNat ∧
      data.length ≤ (bundle.storeOf handle.isExternal selector).length := by
  unfold readBlob at h
  split at h
  · rename_i empty
    cases h
    exact ⟨by rw [empty]; rfl, Nat.zero_le _⟩
  · rcases place : locate selector handle with ⟨source, offset⟩
    rw [place] at h
    obtain ⟨length, within⟩ := dataAt_eq_ok (Except.mapError_eq_ok h)
    have store := @contents_locate bundle selector handle
    rw [place] at store
    exact ⟨length, by rw [length, ← store]; exact within⟩

/-! ### Arrays -/

theorem elementAddress?_eq_some {pointer address : UInt32} {distance : Nat}
    (h : elementAddress? pointer distance = some address) :
    address.toNat = pointer.toNat + distance := by
  unfold elementAddress? at h
  split at h
  · rename_i inside
    cases h
    rw [UInt32.toNat_add, UInt32.toNat_ofNat', Nat.add_mod_mod]
    exact Nat.mod_eq_of_lt inside
  · cases h

variable {α : Type} {site : Site} {size : Nat} {element : UInt32 → Except TagError α}
  {pointer : UInt32} {items : List α}

/-- Every element is read from its own address. -/
theorem readElements_eq_ok {index count : Nat}
    (h : readElements site size element pointer index count = .ok items) :
    items.length = count ∧ ∀ i item, items[i]? = some item → ∃ address : UInt32,
      address.toNat = pointer.toNat + (index + i) * size ∧ element address = .ok item := by
  -- The position moves on with each element, so the address of a later one is counted from there.
  induction count generalizing index items with
  | zero =>
    cases h
    exact ⟨rfl, nofun⟩
  | succ count ih =>
    unfold readElements at h
    split at h
    · rename_i address reached
      obtain ⟨first, read, h⟩ := Except.bind_eq_ok h
      obtain ⟨rest, others, h⟩ := Except.bind_eq_ok h
      cases h
      obtain ⟨length, each⟩ := ih others
      refine ⟨congrArg (· + 1) length, fun i item found => ?_⟩
      cases i with
      | zero =>
        cases found
        exact ⟨address, elementAddress?_eq_some reached, Except.mapError_eq_ok read⟩
      | succ i =>
        obtain ⟨later, place, one⟩ := each i item found
        exact ⟨later, by rw [place]; congr 2; omega, one⟩
    · cases h

/-- Some items stand side by side in the memory, and each goes with the bytes in its place. -/
def StandAt (bundle : Bundle) (pointer : UInt32) (size : Nat) (goesWith : Bytes → α → Prop)
    (items : List α) : Prop :=
  ∀ i item, items[i]? = some item → ∃ address : UInt32,
    address.toNat = pointer.toNat + i * size ∧
    ∃ bytes, bundle.structBytes address size = .ok bytes ∧ goesWith bytes item

/-- The first and the last of some items in the memory bound them all. -/
theorem StandAt.length_mul_le {goesWith : Bytes → α → Prop}
    (stand : bundle.StandAt pointer size goesWith items) :
    items.length * size ≤ bundle.memory.length := by
  cases items with
  | nil => simp
  | cons first rest =>
    obtain ⟨start, begins, _, read, -⟩ := stand 0 first rfl
    obtain ⟨-, above, -⟩ := structBytes_eq_ok read
    obtain ⟨last, ends, _, read, -⟩ := stand rest.length _
      (List.getElem?_eq_getElem (Nat.lt_succ_self rest.length))
    obtain ⟨-, -, inside⟩ := structBytes_eq_ok read
    rw [List.length_cons, Nat.succ_mul]
    omega

/-- The elements of an array, each of which is read from the struct at its address. -/
theorem readArray_eq_ok {count : UInt32} {read : Bytes → Except TagError α}
    {goesWith : Bytes → α → Prop} (single : ∀ bytes item, read bytes = .ok item →
      goesWith bytes item)
    (h : readArray site size (fun address => bundle.structBytes address size >>= read) count
      pointer = .ok items) :
    items.length = count.toNat ∧ bundle.StandAt pointer size goesWith items := by
  obtain ⟨length, each⟩ := readElements_eq_ok h
  refine ⟨length, fun i item found => ?_⟩
  obtain ⟨address, place, one⟩ := each i item found
  obtain ⟨bytes, window, inner⟩ := Except.bind_eq_ok one
  exact ⟨address, by rw [place, Nat.zero_add], bytes, window, single bytes item inner⟩

end Bundle

/-! ### Values -/

open TagSchema.Bundle

/-- A blob is as long as its handle says, and no longer than the store that the handle leads to. -/
def LeafType.FitsIn (bundle : Bundle) (order : ByteOrder) : (type : LeafType) →
    (type.layout order).Value → type.Value → Prop
  | .blob selector, stored, (data : Bytes) =>
    let handle := BlobHandle.load order stored
    data.length = handle.size.toNat ∧
      data.length ≤ (bundle.storeOf handle.isExternal selector).length
  | .plain _, _, _ | .dependency _ _, _, _ => True

/-- At every depth, an array has as many elements as its handle says, all of them together fit into
the memory, and they were read one behind the other; and blobs are no longer than their stores. -/
def Members.FitsIn (bundle : Bundle) : (members : Members) → (members.layout .packed).Value →
    members.Value → Prop
  | .nil, _, _ => True
  | .leaf traits type rest, stored, value =>
    type.FitsIn bundle (traits.orderIn .packed) stored.1 value.1 ∧
      rest.FitsIn bundle stored.2 value.2
  | .array traits _ _ _ element rest, stored, value =>
    let handle := ArrayHandle.load (traits.orderIn .packed) stored.1
    let layout := element.layout .packed
    value.1.length = handle.count.toNat ∧
      value.1.length * layout.size ≤ bundle.memory.length ∧
      bundle.StandAt handle.pointer layout.size
        (fun fixed item => element.FitsIn bundle (layout.decode fixed) item) value.1 ∧
      rest.FitsIn bundle stored.2 value.2

theorem LeafType.fitsIn_of_readPacked {bundle : Bundle} {order : ByteOrder} {site : Site}
    (type : LeafType) {stored : (type.layout order).Value} {value : type.Value}
    (h : type.readPacked bundle order site stored = .ok value) :
    type.FitsIn bundle order stored value := by
  cases type with
  | plain type => trivial
  | dependency classes nonNull => trivial
  | blob selector => exact readBlob_eq_ok h

theorem Members.fitsIn_of_readPacked {bundle : Bundle} {owner : String} (members : Members)
    {stored : (members.layout .packed).Value} {value : members.Value}
    (h : members.readPacked bundle owner stored = .ok value) :
    members.FitsIn bundle stored value := by
  induction members generalizing owner with
  | nil => trivial
  | leaf traits type rest ih =>
    obtain ⟨first, read, h⟩ := Except.bind_eq_ok h
    obtain ⟨others, readOthers, h⟩ := Except.bind_eq_ok h
    cases h
    exact ⟨type.fitsIn_of_readPacked read, ih readOthers⟩
  | array traits limits name title element rest ihElement ih =>
    obtain ⟨elements, read, h⟩ := Except.bind_eq_ok h
    obtain ⟨others, readOthers, h⟩ := Except.bind_eq_ok h
    cases h
    have single (fixed : Bytes) (item : element.Value)
        (inner : element.readPacked bundle name ((element.layout .packed).decode fixed) =
          .ok item) :
        element.FitsIn bundle ((element.layout .packed).decode fixed) item := ihElement inner
    -- The elements stand one behind the other in a region of the bundle, which bounds their number.
    obtain ⟨length, stand⟩ := readArray_eq_ok single read
    exact ⟨length, stand.length_mul_le, stand, ih readOthers⟩

/-- **What is read fits into what it is read from.** If a value can be read from a bundle, whatever
words stand in its memory, then at every depth its arrays fit into the memory and its blobs into
the stores that they are taken from. So no count and no size that was followed is too large. -/
theorem readPacked_fits {type : StructType} {bundle : Bundle} {pointer : Option UInt32}
    {value : type.Value} (h : type.readPacked bundle pointer = .ok value) :
    ∃ fixed, (match pointer with
        | some address => bundle.structBytes address (type.layout .packed).size
        | none => bundle.baseBytes (type.layout .packed).size) = .ok fixed ∧
      type.members.FitsIn bundle ((type.layout .packed).decode fixed) value := by
  cases pointer with
  | none =>
    obtain ⟨fixed, window, h⟩ := Except.bind_eq_ok h
    exact ⟨fixed, window, type.members.fitsIn_of_readPacked h⟩
  | some address =>
    obtain ⟨fixed, window, h⟩ := Except.bind_eq_ok h
    exact ⟨fixed, window, type.members.fitsIn_of_readPacked h⟩

/-- A bundle with a model, its one region and a bitmap. The two permutations of the region begin
where the model does, and the pixels of the bitmap are in an external file. -/
def Bundle.folded : Bundle where
  memory := Bytes.zeros 12 ++ words [1, 0x40440018, 0] ++
    Bytes.zeros 32 ++ words [2, 0x40440000, 0] ++ Bytes.zeros 4 ++
    words [4, 0, 0, 0x40440000, 0, 3, 1, 1, 0, 0, 2, 0, 0, 0, 0] ++ Bytes.zeros 20
  baseStruct := 0
  tag := 0
  tags := []
  rawData := [9, 9]
  external := [(.bitmaps, [5, 6, 7, 8])]
where
  /-- The bytes of some words. -/
  words (numbers : List Nat) : Bytes :=
    numbers.flatMap fun n => Primitive.u32.encode .little (BitVec.ofNat _ n)

/-- Both the model and the bitmap can be read, and fit. -/
theorem readPacked_fits_folded :
    ∃ model ∈ Catalog.types, model.name = "Model" ∧
    ∃ bitmap ∈ Catalog.types, bitmap.name = "Bitmap" ∧
    ∃ value image, model.readPacked Bundle.folded none = .ok value ∧
      bitmap.readPacked Bundle.folded (some 0x40440048) = .ok image ∧
      (∃ fixed, model.members.FitsIn Bundle.folded ((model.layout .packed).decode fixed) value) ∧
      ∃ fixed,
        bitmap.members.FitsIn Bundle.folded ((bitmap.layout .packed).decode fixed) image := by
  have readable : (∃ model ∈ Catalog.types, model.name = "Model" ∧
      (model.readPacked Bundle.folded none).toBool = true) ∧
      ∃ bitmap ∈ Catalog.types, bitmap.name = "Bitmap" ∧
        (bitmap.readPacked Bundle.folded (some 0x40440048)).toBool = true := by
    decide +kernel
  -- Reading is evaluated only as far as to its success; the values are not needed.
  have opens {type : StructType} {pointer : Option UInt32}
      (h : (type.readPacked Bundle.folded pointer).toBool = true) :
      ∃ value, type.readPacked Bundle.folded pointer = .ok value := by
    cases read : type.readPacked Bundle.folded pointer with
    | error e => simp [read, Except.toBool] at h
    | ok value => exact ⟨value, rfl⟩
  obtain ⟨⟨model, hmodel, name, h⟩, bitmap, hbitmap, name', h'⟩ := readable
  obtain ⟨value, read⟩ := opens h
  obtain ⟨image, read'⟩ := opens h'
  obtain ⟨fixed, -, fits⟩ := readPacked_fits read
  obtain ⟨fixed', -, fits'⟩ := readPacked_fits read'
  exact ⟨model, hmodel, name, bitmap, hbitmap, name', value, image, read, read', ⟨fixed, fits⟩,
    fixed', fits'⟩

end TagSchema
