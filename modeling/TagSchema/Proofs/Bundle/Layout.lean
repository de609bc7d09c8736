import TagSchema.Bundle.Memory
import TagSchema.Proofs.LayoutCodec
import TagSchema.Proofs.Overwriting

/-!
# Where structs lie in memory

The structs of a pool with sound pointers are laid out one after another, each with the addresses of
its targets in the slots of its pointers, and nothing else changes. From its address, every window
of a struct can be read.
-/

namespace TagSchema

namespace Bundle

/-- The address of a struct, by the offsets at which structs begin. -/
def address (offsets : List Nat) (index : Nat) : UInt32 :=
  baseAddress + UInt32.ofNat (offsets[index]?.getD 0)

/-- The bytes of an address. -/
def pointerBytes (address : UInt32) : Bytes := Primitive.u32.encode .little address.toBitVec

/-- The bytes with an address in the slot of a pointer. -/
def link (address : Nat → UInt32) (data : Bytes) (pointer : StructPointer) : Bytes :=
  data.overwrite pointer.offset (pointerBytes (address pointer.target))

/-- The bytes of a struct with addresses in the slots of its pointers. -/
def linked (address : Nat → UInt32) (s : PoolStruct) : Bytes :=
  s.pointers.foldl (link address) s.data

/-- Bytes and the padding behind them. -/
def withPadding (data : Bytes) : Bytes := data ++ Bytes.zeros (padded data.length - data.length)

/-- Padding only adds bytes. -/
theorem le_padded (length : Nat) : length ≤ padded length := by
  unfold padded
  omega

@[simp] theorem length_pointerBytes (address : UInt32) : (pointerBytes address).length = 4 :=
  Primitive.u32.length_encode .little _

@[simp] theorem length_withPadding (data : Bytes) :
    (withPadding data).length = padded data.length := by
  have := le_padded data.length
  rw [withPadding, List.length_append, Bytes.length_zeros]
  omega

/-- The image has the bytes of the structs, each padded, in their order. -/
theorem image_eq (structs : List PoolStruct) :
    image structs = (structs.map (·.data)).flatMap withPadding := by
  rw [List.flatMap_map]
  rfl

/-! ### Linking -/

section linking

variable {table : List Nat} {place : Nat → UInt32} {data done tail : Bytes} {s : PoolStruct}
  {pointers : List StructPointer} {structs : List PoolStruct}

/-- To link a pointer that lies in the data is to overwrite it. -/
theorem length_link {pointer : StructPointer} (inside : pointer.offset + 4 ≤ data.length) :
    (link place data pointer).length = data.length :=
  Bytes.length_overwrite _ _ _ (by rw [length_pointerBytes]; exact inside)

/-- So linking does not change how long the data is. -/
theorem length_foldl_link (inside : ∀ p ∈ pointers, p.offset + 4 ≤ data.length) :
    (pointers.foldl (link place) data).length = data.length := by
  induction pointers generalizing data with
  | nil => rfl
  | cons pointer rest ih =>
    obtain ⟨first, others⟩ := List.forall_mem_cons.mp inside
    have length : (link place data pointer).length = data.length := length_link first
    rw [List.foldl_cons, ih (by rw [length]; exact others), length]

/-- Linking does not reach beyond a part that has all slots. -/
theorem foldl_link_append (inside : ∀ p ∈ pointers, p.offset + 4 ≤ data.length) :
    pointers.foldl (link place) (data ++ tail) = pointers.foldl (link place) data ++ tail := by
  induction pointers generalizing data with
  | nil => rfl
  | cons pointer rest ih =>
    obtain ⟨first, others⟩ := List.forall_mem_cons.mp inside
    have one : link place (data ++ tail) pointer = link place data pointer ++ tail :=
      Bytes.overwrite_append_left _ _ _ _ (by rw [length_pointerBytes]; exact first)
    rw [List.foldl_cons, List.foldl_cons, one, ih (by rw [length_link first]; exact others)]

/-- The patches of one struct change its part of the memory. -/
theorem foldlM_patch
    (sound : ∀ p ∈ pointers, p.offset + 4 ≤ data.length ∧ p.target < table.length) :
    pointers.foldlM (patch table done.length) (done ++ data) =
      .ok (done ++ pointers.foldl (link (address table)) data) := by
  induction pointers generalizing data with
  | nil => rfl
  | cons pointer rest ih =>
    obtain ⟨⟨inside, target⟩, others⟩ := List.forall_mem_cons.mp sound
    have one : patch table done.length (done ++ data) pointer =
        .ok (done ++ link (address table) data pointer) := by
      unfold patch link address
      rw [List.getElem?_eq_getElem target]
      dsimp only
      rw [if_pos (by rw [List.length_append]; omega)]
      exact congrArg Except.ok (Bytes.overwrite_append_right ..)
    rw [List.foldlM_cons, one]
    exact ih (by rw [length_link inside]; exact others)

/-- The structs from one on are linked in their part of the memory. -/
theorem foldlM_structs (sound : ∀ s ∈ structs, ∀ p ∈ s.pointers,
      p.offset + 4 ≤ s.data.length ∧ p.target < table.length) :
    (structs.zip (offsets done.length structs)).foldlM
        (fun memory (s, start) => s.pointers.foldlM (patch table start) memory)
        (done ++ (structs.map (·.data)).flatMap withPadding) =
      .ok (done ++ (structs.map (linked (address table))).flatMap withPadding) := by
  -- `done` is the part of the memory that is linked already.
  induction structs generalizing done with
  | nil => rfl
  | cons s rest ih =>
    obtain ⟨own, others⟩ := List.forall_mem_cons.mp sound
    have inside : ∀ p ∈ s.pointers, p.offset + 4 ≤ s.data.length := fun p hp => (own p hp).1
    have length : (linked (address table) s).length = s.data.length := length_foldl_link inside
    have padding : withPadding (linked (address table) s) =
        linked (address table) s ++ Bytes.zeros (padded s.data.length - s.data.length) := by
      rw [withPadding, length]
    have first : s.pointers.foldlM (patch table done.length)
        (done ++ (s.data ++ (Bytes.zeros (padded s.data.length - s.data.length) ++
          (rest.map (·.data)).flatMap withPadding))) =
        .ok (done ++ (withPadding (linked (address table) s) ++
          (rest.map (·.data)).flatMap withPadding)) := by
      rw [foldlM_patch fun p hp => ⟨by rw [List.length_append]; have := own p hp; omega,
        (own p hp).2⟩, foldl_link_append inside, padding, List.append_assoc]
      rfl
    have next := @ih (done ++ withPadding (linked (address table) s)) others
    rw [List.length_append, length_withPadding, length, List.append_assoc,
      List.append_assoc] at next
    rw [offsets, List.zip_cons_cons, List.foldlM_cons, List.map_cons, List.flatMap_cons,
      withPadding, List.append_assoc]
    dsimp only
    rw [first]
    exact next

theorem length_offsets (start : Nat) (structs : List PoolStruct) :
    (offsets start structs).length = structs.length := by
  induction structs generalizing start with
  | nil => rfl
  | cons s rest ih => exact congrArg (· + 1) (ih _)

/-- A pool with sound pointers is laid out, every struct linked. -/
theorem layOut_eq_ok (sound : ∀ s ∈ structs, ∀ p ∈ s.pointers,
      p.offset + 4 ≤ s.data.length ∧ p.target < structs.length) :
    layOut structs =
      .ok ((structs.map (linked (address (offsets 0 structs)))).flatMap withPadding) := by
  have laid := @foldlM_structs (offsets 0 structs) [] structs (by rw [length_offsets]; exact sound)
  rw [List.nil_append, ← image_eq] at laid
  exact laid

end linking

/-! ### Reading windows -/

/-- The length of the memory of some structs. -/
def extent : List PoolStruct → Nat
  | [] => 0
  | s :: rest => padded s.data.length + extent rest

/-- What the structs of two lists take up is taken up one after the other. -/
theorem extent_append (structs structs' : List PoolStruct) :
    extent (structs ++ structs') = extent structs + extent structs' := by
  induction structs with
  | nil => exact (Nat.zero_add _).symm
  | cons s rest ih => rw [List.cons_append, extent, extent, ih, Nat.add_assoc]

/-- Every window of the bytes can be read from an address on. -/
def Loads (bundle : Bundle) (address : UInt32) (data : Bytes) : Prop :=
  ∀ offset size window, data.slice? offset size = some window →
    address.toNat + offset < UInt32.size ∧
      bundle.structBytes (address + UInt32.ofNat offset) size = .ok window

/-- A window of a part of some bytes. -/
theorem slice?_append (front back : Bytes) {data window : Bytes} {offset size : Nat}
    (h : data.slice? offset size = some window) :
    (front ++ (data ++ back)).slice? (front.length + offset) size = some window := by
  unfold Bytes.slice? at h ⊢
  split at h
  · cases h
    rw [if_pos (by simp only [List.length_append]; omega), List.drop_length_add_append,
      List.drop_append_of_le_length (by omega),
      List.take_append_of_le_length (by rw [List.length_drop]; omega)]
  · cases h

/-- Bytes that lie somewhere in the memory are loaded from the address of that place, if addresses
go that far. -/
theorem loads_of_memory {bundle : Bundle} {front data back : Bytes}
    (memory : bundle.memory = front ++ (data ++ back))
    (room : baseAddress.toNat + bundle.memory.length < UInt32.size) :
    bundle.Loads (baseAddress + UInt32.ofNat front.length) data := by
  intro offset size window h
  have inside : offset + size ≤ data.length := by
    unfold Bytes.slice? at h
    split at h
    · assumption
    · cases h
  have length : bundle.memory.length = front.length + (data.length + back.length) := by
    rw [memory, List.length_append, List.length_append]
  -- There is room, so no sum below wraps around.
  have size32 : UInt32.size = 2 ^ 32 := rfl
  have start : (UInt32.ofNat front.length).toNat = front.length :=
    UInt32.toNat_ofNat_of_lt' (by omega)
  have distance : (UInt32.ofNat offset).toNat = offset := UInt32.toNat_ofNat_of_lt' (by omega)
  have place : (baseAddress + UInt32.ofNat front.length).toNat =
      baseAddress.toNat + front.length := by
    rw [UInt32.toNat_add, start, Nat.mod_eq_of_lt (by omega)]
  have pointer : (baseAddress + UInt32.ofNat front.length + UInt32.ofNat offset).toNat =
      baseAddress.toNat + front.length + offset := by
    rw [UInt32.toNat_add, place, distance, Nat.mod_eq_of_lt (by omega)]
  refine ⟨by omega, ?_⟩
  have above : ¬baseAddress + UInt32.ofNat front.length + UInt32.ofNat offset < baseAddress := by
    rw [UInt32.lt_iff_toNat_lt, pointer]
    omega
  have position : (baseAddress + UInt32.ofNat front.length + UInt32.ofNat offset -
      baseAddress).toNat = front.length + offset := by
    rw [UInt32.toNat_sub_of_le _ _ (UInt32.not_lt.mp above), pointer]
    omega
  rw [structBytes, if_neg above, region, position, memory, slice?_append _ _ h]

section memory

variable {bundle : Bundle} {before after structs : List PoolStruct} {s : PoolStruct}
  {content : PoolStruct → Bytes}

/-- A struct lies behind all that come before it. -/
theorem getElem?_offsets (start : Nat) :
    (offsets start (before ++ s :: after))[before.length]? = some (start + extent before) := by
  induction before generalizing start with
  | nil => rfl
  | cons t rest ih =>
    rw [List.cons_append, offsets, List.length_cons, List.getElem?_cons_succ, ih, extent,
      Nat.add_assoc]

/-- A struct begins where those in front of it end. -/
theorem getElem?_offsets_zero {i : Nat} (inside : i < structs.length) :
    (offsets 0 structs)[i]? = some (extent (structs.take i)) := by
  have split : structs = structs.take i ++ structs[i] :: structs.drop (i + 1) := by simp
  have begins : (offsets 0 (structs.take i ++ structs[i] :: structs.drop (i + 1)))[
      (structs.take i).length]? = some (0 + extent (structs.take i)) := getElem?_offsets 0
  rwa [← split, List.length_take, Nat.min_eq_left (Nat.le_of_lt inside), Nat.zero_add] at begins

/-- Linking leaves every struct as long as it is, so the memory is as long as was planned. -/
theorem length_memory (lengths : ∀ s ∈ structs, (content s).length = s.data.length) :
    ((structs.map content).flatMap withPadding).length = extent structs := by
  induction structs with
  | nil => rfl
  | cons s rest ih =>
    obtain ⟨own, others⟩ := List.forall_mem_cons.mp lengths
    rw [List.map_cons, List.flatMap_cons, List.length_append, length_withPadding, own, ih others,
      extent]

/-- Every struct of the memory can be read from its address, and begins at its offset. -/
theorem loads_struct (bundle : Bundle)
    (memory : bundle.memory = (structs.map content).flatMap withPadding)
    (lengths : ∀ s ∈ structs, (content s).length = s.data.length)
    (room : baseAddress.toNat + extent structs < UInt32.size) {i : Nat}
    (found : structs[i]? = some s) :
    bundle.Loads (address (offsets 0 structs) i) (content s) ∧
      ∃ offset, (offsets 0 structs)[i]? = some offset ∧ ∀ size window,
        (content s).slice? 0 size = some window →
          bundle.memory.slice? offset size = some window := by
  obtain ⟨inside, rfl⟩ := List.getElem?_eq_some_iff.mp found
  have split : structs = structs.take i ++ structs[i] :: structs.drop (i + 1) := by simp
  have begins := getElem?_offsets_zero inside
  have front : (((structs.take i).map content).flatMap withPadding).length =
      extent (structs.take i) :=
    length_memory fun s hs => lengths s (List.mem_of_mem_take hs)
  -- The memory is what comes before the struct, its bytes, and the rest with their padding.
  have parts : bundle.memory = ((structs.take i).map content).flatMap withPadding ++
      (content structs[i] ++
        (Bytes.zeros (padded (content structs[i]).length - (content structs[i]).length) ++
          ((structs.drop (i + 1)).map content).flatMap withPadding)) := by
    rw [memory]
    conv_lhs => rw [split]
    rw [List.map_append, List.flatMap_append, List.map_cons, List.flatMap_cons, withPadding,
      List.append_assoc]
  refine ⟨?_, _, begins, fun size window h => ?_⟩
  · rw [address, begins, Option.getD_some, ← front]
    exact loads_of_memory parts (by rw [memory, length_memory lengths]; exact room)
  · rw [parts, ← front]
    exact slice?_append _ _ h

end memory

end Bundle

end TagSchema
