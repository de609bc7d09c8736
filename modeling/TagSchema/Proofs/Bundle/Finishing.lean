import TagSchema.Proofs.Bundle.Growth
import TagSchema.Proofs.Bundle.Reading

/-!
# Finished bundles

A workload with sound pointers can be finished, and the addresses in its bundle follow from the
lengths of its structs alone. When no two pointers of a struct share a slot, it does not matter in
which order the slots are filled: each holds the address of its target at the end, and all other
bytes are those of the struct.
-/

namespace TagSchema

namespace Bundle

/-! ### Filling slots -/

/-- The bytes of a struct in a bundle: each slot of a pointer holds the address of the target, the
lowest byte first, and everything else is as in the struct. -/
structure IsLinked (address : Nat → UInt32) (s : PoolStruct) (bytes : Bytes) : Prop where
  length : bytes.length = s.data.length
  slots : ∀ p ∈ s.pointers,
    bytes.slice? p.offset 4 = some (Bytes.ofNatLittle 4 (address p.target).toNat)
  others : ∀ i, (∀ p ∈ s.pointers, i < p.offset ∨ p.offset + 4 ≤ i) → bytes[i]? = s.data[i]?

/-- Two pointers with slots of their own. -/
def Apart (p q : StructPointer) : Prop := p.offset + 4 ≤ q.offset ∨ q.offset + 4 ≤ p.offset

instance (p q : StructPointer) : Decidable (Apart p q) := inferInstanceAs (Decidable (_ ∨ _))

section linking

variable {address : Nat → UInt32} {data : Bytes} {pointers : List StructPointer}

theorem getElem?_link {pointer : StructPointer} (inside : pointer.offset + 4 ≤ data.length)
    {i : Nat} (outside : i < pointer.offset ∨ pointer.offset + 4 ≤ i) :
    (link address data pointer)[i]? = data[i]? :=
  Bytes.getElem?_overwrite_of_apart data _ inside outside

/-- Linking changes nothing but slots. -/
theorem getElem?_foldl_link (inside : ∀ p ∈ pointers, p.offset + 4 ≤ data.length) {i : Nat}
    (outside : ∀ p ∈ pointers, i < p.offset ∨ p.offset + 4 ≤ i) :
    (pointers.foldl (link address) data)[i]? = data[i]? := by
  induction pointers generalizing data with
  | nil => rfl
  | cons pointer rest ih =>
    obtain ⟨first, others⟩ := List.forall_mem_cons.mp inside
    obtain ⟨here, there⟩ := List.forall_mem_cons.mp outside
    rw [List.foldl_cons, ih (by rw [length_link first]; exact others) there,
      getElem?_link first here]

/-- A window that no slot reaches into stays as it is. -/
theorem slice?_foldl_link (inside : ∀ p ∈ pointers, p.offset + 4 ≤ data.length)
    {offset size : Nat}
    (apart : ∀ p ∈ pointers, p.offset + 4 ≤ offset ∨ offset + size ≤ p.offset) :
    (pointers.foldl (link address) data).slice? offset size = data.slice? offset size := by
  refine Bytes.slice?_congr (length_foldl_link inside) fun i above below => ?_
  exact getElem?_foldl_link inside fun p hp => by
    have := apart p hp
    omega

/-- Every slot holds its address at the end, since no later one reaches into it. -/
theorem slice?_slot (inside : ∀ p ∈ pointers, p.offset + 4 ≤ data.length)
    (apart : pointers.Pairwise Apart) : ∀ p ∈ pointers,
      (pointers.foldl (link address) data).slice? p.offset 4 =
        some (pointerBytes (address p.target)) := by
  induction pointers generalizing data with
  | nil => exact fun p hp => nomatch hp
  | cons pointer rest ih =>
    obtain ⟨first, others⟩ := List.forall_mem_cons.mp inside
    obtain ⟨own, apart⟩ := List.pairwise_cons.mp apart
    have inside' : ∀ p ∈ rest, p.offset + 4 ≤ (link address data pointer).length := by
      rw [length_link first]
      exact others
    refine List.forall_mem_cons.mpr ⟨?_, ih inside' apart⟩
    rw [List.foldl_cons, slice?_foldl_link inside' fun p hp => (own p hp).symm]
    exact Bytes.slice?_overwrite data (pointerBytes (address pointer.target)) pointer.offset first

theorem isLinked_linked {s : PoolStruct} (inside : ∀ p ∈ s.pointers, p.offset + 4 ≤ s.data.length)
    (apart : s.pointers.Pairwise Apart) : IsLinked address s (linked address s) where
  length := length_foldl_link inside
  slots := slice?_slot inside apart
  others _ outside := getElem?_foldl_link inside outside

end linking

/-! ### Addresses -/

section addresses

variable {structs : List PoolStruct} {s : PoolStruct} {i : Nat}

theorem extent_take_add_one (found : structs[i]? = some s) :
    extent (structs.take (i + 1)) = extent (structs.take i) + padded s.data.length := by
  rw [List.take_add_one, found, extent_append]
  rfl

theorem extent_take_le (structs : List PoolStruct) (i : Nat) :
    extent (structs.take i) ≤ extent structs := by
  conv_rhs => rw [← List.take_append_drop i structs, extent_append]
  exact Nat.le_add_right _ _

theorem four_dvd_extent (structs : List PoolStruct) : 4 ∣ extent structs := by
  induction structs with
  | nil => exact Nat.dvd_zero 4
  | cons s rest ih => exact Nat.dvd_add (Nat.dvd_mul_left 4 _) ih

/-- As long as the memory ends within the address space, no address wraps around. -/
theorem toNat_address (room : baseAddress.toNat + extent structs < UInt32.size)
    (inside : i < structs.length) :
    (address (offsets 0 structs) i).toNat = baseAddress.toNat + extent (structs.take i) := by
  have below := extent_take_le structs i
  have start : (UInt32.ofNat (extent (structs.take i))).toNat = extent (structs.take i) :=
    UInt32.toNat_ofNat_of_lt' (by omega)
  rw [address, getElem?_offsets_zero inside, Option.getD_some, UInt32.toNat_add, start]
  exact Nat.mod_eq_of_lt (Nat.lt_of_le_of_lt (Nat.add_le_add_left below _) room)

end addresses

/-! ### Finishing -/

/-- A workload with sound pointers becomes a bundle for each tag that has a base struct. -/
theorem exists_linked_bundle {w : Workload} (sound : w.Sound) {tag base : Nat}
    (based : (w.tags[tag]?).bind (·.baseStruct) = some base) (inside : base < w.structs.length) :
    ∃ bundle, ofWorkload w tag = .ok bundle ∧
      bundle.memory = (w.structs.map (linked (address (offsets 0 w.structs)))).flatMap
        withPadding ∧
      (offsets 0 w.structs)[base]? = some bundle.baseStruct ∧ bundle.rawData = w.rawData := by
  have begins := List.getElem?_eq_getElem (by rwa [length_offsets 0 w.structs])
  unfold ofWorkload
  rw [based]
  dsimp only
  rw [layOut_eq_ok sound, begins]
  exact ⟨_, rfl, rfl, rfl, rfl⟩

/-- Every struct can be read from its address with its slots filled, and begins at its offset. -/
theorem loads_linked {w : Workload} (sound : w.Sound) (bundle : Bundle)
    (memory : bundle.memory =
      (w.structs.map (linked (address (offsets 0 w.structs)))).flatMap withPadding)
    (room : baseAddress.toNat + extent w.structs < UInt32.size) {i : Nat} {s : PoolStruct}
    (found : w.structs[i]? = some s) :
    bundle.Loads (address (offsets 0 w.structs) i) (linked (address (offsets 0 w.structs)) s) ∧
      ∃ offset, (offsets 0 w.structs)[i]? = some offset ∧ ∀ size window,
        (linked (address (offsets 0 w.structs)) s).slice? 0 size = some window →
          bundle.memory.slice? offset size = some window :=
  loads_struct bundle memory
    (fun s hs => length_foldl_link fun p hp => (sound s hs p hp).1) room found

/-- Every struct of a workload lies in the bundle at an address of its own: the first one at the
base address, each at a multiple of four from there, and none before the end of the one in front of
it. What can be read at the address is the struct with its slots filled, and the base struct of the
tag can be read as such. -/
structure LaysOut (bundle : Bundle) (w : Workload) (base : Nat) (address : Nat → UInt32) :
    Prop where
  first : address 0 = baseAddress
  aligned : ∀ i < w.structs.length, ∃ words,
    (address i).toNat = baseAddress.toNat + 4 * words
  ordered : ∀ i s, w.structs[i]? = some s → i + 1 < w.structs.length →
    (address i).toNat + s.data.length ≤ (address (i + 1)).toNat
  structs : ∀ i s, w.structs[i]? = some s → ∃ bytes, IsLinked address s bytes ∧
    bundle.structBytes (address i) s.data.length = .ok bytes
  base : ∀ s, w.structs[base]? = some s →
    bundle.baseBytes s.data.length = bundle.structBytes (address base) s.data.length

end Bundle

open TagSchema.Bundle

/-- A workload can be finished for a tag that has a base struct, if its pointers are sound and have
slots of their own and its structs fit into the address space, and then each struct is where its
address says, with the addresses of its targets and no other change. -/
theorem ofWorkload_laysOut {w : Workload} {tag base : Nat} (sound : w.Sound)
    (apart : ∀ s ∈ w.structs, s.pointers.Pairwise Apart)
    (based : (w.tags[tag]?).bind (·.baseStruct) = some base) (inside : base < w.structs.length)
    (room : baseAddress.toNat + extent w.structs < UInt32.size) :
    ∃ bundle address, ofWorkload w tag = .ok bundle ∧ bundle.LaysOut w base address := by
  obtain ⟨bundle, finished, memory, begins, -⟩ := exists_linked_bundle sound based inside
  have length (i : Nat) (s : PoolStruct) (found : w.structs[i]? = some s) :
      (linked (address (offsets 0 w.structs)) s).length = s.data.length :=
    length_foldl_link fun p hp => (sound s (List.mem_of_getElem? found) p hp).1
  -- What is found at the address of a struct is its image with all pointers filled in.
  have read (i : Nat) (s : PoolStruct) (found : w.structs[i]? = some s) :
      bundle.structBytes (address (offsets 0 w.structs) i) s.data.length =
        .ok (linked (address (offsets 0 w.structs)) s) := by
    have whole := (loads_linked sound bundle memory room found).1.whole
    rwa [length i s found] at whole
  refine ⟨bundle, address (offsets 0 w.structs), finished, ?_, ?_, ?_, ?_, ?_⟩
  · exact UInt32.toNat_inj.mp (toNat_address room (Nat.zero_lt_of_lt inside))
  · intro i here
    obtain ⟨words, count⟩ := four_dvd_extent (w.structs.take i)
    exact ⟨words, by rw [toNat_address room here, count]⟩
  · intro i s found next
    have fits := le_padded s.data.length
    rw [toNat_address room next, toNat_address room (Nat.lt_of_succ_lt next),
      extent_take_add_one found]
    omega
  · intro i s found
    have mem := List.mem_of_getElem? found
    exact ⟨_, isLinked_linked (fun p hp => (sound s mem p hp).1) (apart s mem), read i s found⟩
  · intro s found
    obtain ⟨offset, starts, behind⟩ := (loads_linked sound bundle memory room found).2
    cases starts.symm.trans begins
    have whole := slice?_whole (linked (address (offsets 0 w.structs)) s)
    rw [length base s found] at whole
    rw [read base s found, baseBytes_eq_ok bundle _ (behind _ _ whole)]

/-- Three structs, of which two point to each other and one is empty. -/
def Workload.triangle : Workload where
  options := {}
  structs := [⟨[1, 2, 3, 4, 5, 6, 7, 8, 9, 10, 11], [⟨6, 2⟩, ⟨1, 1⟩], []⟩, ⟨[], [], []⟩,
    ⟨[12, 13, 14, 15, 16, 17], [⟨2, 0⟩], []⟩]
  tags := [⟨"weapons\\pistol", ⟨0x77656170⟩, some 2⟩]

theorem ofWorkload_laysOut_triangle :
    Workload.triangle.Sound ∧ (∀ s ∈ Workload.triangle.structs, s.pointers.Pairwise Apart) ∧
      ∃ bundle address, ofWorkload Workload.triangle 0 = .ok bundle ∧
        bundle.LaysOut Workload.triangle 2 address := by
  have sound : Workload.triangle.Sound := by
    unfold Workload.Sound
    decide
  have apart : ∀ s ∈ Workload.triangle.structs, s.pointers.Pairwise Apart := by decide
  exact ⟨sound, apart, ofWorkload_laysOut sound apart rfl (by decide) (by decide)⟩

end TagSchema
