import TagSchema.Proofs.Bundle.Finishing
import TagSchema.Proofs.Bundle.RoundTrip
import TagSchema.Proofs.Bundle.Sparing

/-!
# Blobs are read back

Whoever builds a blob decides where its bytes go, and whoever reads it decides on its own where they
are: behind a pointer, in the raw data, or in an external file. A build that spares the slot of the
handle and what the blob has added leads to a bundle from which the blob is read back, with whatever
external files. The exception are blobs of the localization file: they are built into the raw data,
but looked for in that file.
-/

namespace TagSchema

open Workload TagSchema.Bundle

/-! ### What is spared is in the bundle -/

/-- A struct that is spared altogether comes to be linked as it was. -/
theorem PoolStruct.Spares.linked_eq {spared : Nat → Prop} {s s' : PoolStruct}
    (h : s.Spares spared s') (all : ∀ i, spared i) (address : Nat → UInt32) :
    linked address s' = linked address s := by
  obtain ⟨added, grown, apart⟩ := h.pointers
  have none : added = [] := List.eq_nil_iff_forall_not_mem.mpr fun p hp => by
    have := apart p hp p.offset (all p.offset)
    omega
  have same : s'.data = s.data := List.ext_getElem? fun i => h.bytes i (all i)
  rw [linked, linked, grown, none, List.append_nil, same]

namespace Built.LinksTo

variable {α β : Type} {a : Built α} {b : Built β} {address : Nat → UInt32} {start : Nat}
  {bytes linkedBytes : Bytes}

/-- Linking fills the window that has been stored, wherever it stands. -/
theorem slice?_foldl (h : a.LinksTo address start bytes linkedBytes b) {data : Bytes}
    (window : data.slice? start bytes.length = some bytes) :
    (a.pointers.foldl (link address) data).slice? start bytes.length = some linkedBytes := by
  have inside := (Bytes.slice?_eq_some_iff.mp window).1
  have front : (data.take start).length = start := by
    rw [List.length_take]
    omega
  have split : data = data.take start ++ (bytes ++ data.drop (start + bytes.length)) := by
    rw [Bytes.slice?, if_pos inside] at window
    conv_lhs => rw [← List.take_append_drop start data,
      ← List.take_append_drop bytes.length (data.drop start), Option.some.inj window,
      List.drop_drop]
  have whole := slice?_append (data.take start) (data.drop (start + bytes.length))
    (slice?_whole linkedBytes)
  rw [front, Nat.add_zero, h.length] at whole
  rw [split, h.window _ _ front, whole]

/-- The window of a struct in the end, when no other pointers have slots in it. -/
theorem slice?_linked (h : a.LinksTo address start bytes linkedBytes b) {s : PoolStruct}
    {earlier later : List StructPointer} (pointers : s.pointers = earlier ++ a.pointers ++ later)
    (inside : ∀ p ∈ s.pointers, p.offset + 4 ≤ s.data.length)
    (apart : ∀ p ∈ earlier ++ later, p.offset + 4 ≤ start ∨ start + bytes.length ≤ p.offset)
    (window : s.data.slice? start bytes.length = some bytes) :
    (linked address s).slice? start bytes.length = some linkedBytes := by
  rw [pointers] at inside
  obtain ⟨insideFirst, insideLater⟩ := List.forall_mem_append.mp inside
  obtain ⟨insideEarlier, -⟩ := List.forall_mem_append.mp insideFirst
  obtain ⟨apartEarlier, apartLater⟩ := List.forall_mem_append.mp apart
  have before : (earlier.foldl (link address) s.data).slice? start bytes.length = some bytes :=
    (slice?_foldl_link insideEarlier apartEarlier).trans window
  have filled := h.slice?_foldl before
  rw [← List.foldl_append] at filled
  have length : ((earlier ++ a.pointers).foldl (link address) s.data).length = s.data.length :=
    length_foldl_link insideFirst
  rw [linked, pointers, List.foldl_append,
    slice?_foldl_link (by rw [length]; exact insideLater) apartLater, filled]

/-- What has been built, and is spared from then on, is in the bundle. -/
theorem has_of_spares (links : a.LinksTo address start bytes linkedBytes b) {struct : Nat}
    {s : PoolStruct} {w w₁ w' : Workload} {spared : Nat → Nat → Prop}
    (gains : Gains a struct s w w₁) (spares : Spares spared w₁ w')
    (own : ∀ i, w.structs.length ≤ i → i < w₁.structs.length → ∀ position, spared i position)
    {bundle : Bundle} {tags : List RegisteredTag} (rawData : bundle.rawData = w'.rawData)
    (loads : ∀ (i : Nat) s, w'.structs[i]? = some s → bundle.Loads (address i) (linked address s))
    (references : ∀ reference ∈ a.references,
      bundle.lookup (.ofIndex (tagIndex tags reference.1 reference.2)) = .ok reference) :
    bundle.Has tags address w.structs.length w.rawData.length b := by
  refine links.has_of_loads (fun i t found => ?_) ?_ references gains.numbers
  · have added : w₁.structs[w.structs.length + i]? = some t := by
      rw [gains.structs, List.getElem?_append_right (by rw [List.length_set]; omega),
        List.length_set, Nat.add_sub_cancel_left, found]
    obtain ⟨t', later, kept⟩ := spares.structs _ t added
    rw [← kept.linked_eq
      (own _ (Nat.le_add_right _ _) (List.getElem?_eq_some_iff.mp added).1) address]
    exact loads _ t' later
  · obtain ⟨more, grown⟩ := spares.rawData
    have whole := slice?_append w.rawData more (slice?_whole a.rawData)
    rwa [Nat.add_zero, ← List.append_assoc, ← gains.rawData, grown, ← rawData] at whole

end Built.LinksTo

/-! ### Blobs -/

section blobs

variable {bundle : Bundle} {address : Nat → UInt32} {place next rawData : Nat} {site : Site}
  {selector : BlobSelector} {data : Bytes}

theorem Plan.references_blob (address : Nat → UInt32) (place : Nat) (selector : BlobSelector)
    (data : Bytes) (next rawData : Nat) :
    (Plan.blob address place selector data next rawData).references = [] := by
  by_cases empty : data = []
  · subst empty
    rfl
  by_cases selected : selector = .pointer
  · rw [selected, Plan.blob_pointer empty]
  · rw [Plan.blob_raw empty selected]

/-- Blobs of the localization file are read from that file, at the offset that they have in the raw
data. -/
theorem Bundle.readBlob_plan_loc (numbers : ∀ n ∈ (Plan.blob address place (.external .loc) data
      next rawData).numbers, n < UInt32.size) :
    bundle.readBlob site (.external .loc)
        (Plan.blob address place (.external .loc) data next rawData).stored = .ok data ↔
      data = [] ∨ ∃ content, bundle.store? .loc = some content ∧
        content.slice? rawData data.length = some data := by
  by_cases empty : data = []
  · subst empty
    exact ⟨fun _ => .inl rfl, fun _ => rfl⟩
  -- The plan appends the bytes to the raw data, and its offset is looked up in the other store.
  have raw : Plan.blob address place (.external .loc) data = _ := Plan.blob_raw empty (by decide)
  rw [raw] at numbers ⊢
  have fits := numbers data.length (List.mem_cons_self ..)
  have offset := numbers rawData (List.mem_cons_of_mem _ (List.mem_singleton_self _))
  have positive : 0 < data.length := List.length_pos_iff.mpr empty
  have located : locate (.external .loc) (BlobHandle.mk (UInt32.ofNat data.length) 0
      (UInt32.ofNat rawData) 0 0) = (.loc, UInt32.ofNat rawData) := rfl
  simp only [readBlob, if_neg (ofNat_ne_zero positive fits), located, dataAt,
    UInt32.toNat_ofNat_of_lt' fits, UInt32.toNat_ofNat_of_lt' offset, empty, false_or]
  cases bundle.store? .loc with
  | none => simp [Except.mapError]
  | some content =>
    cases window : content.slice? rawData data.length with
    | none => simp [region, window, Except.mapError]
    | some bytes => simp [region, window, Except.mapError]

end blobs

namespace Workload

/-- What belongs to a blob that has been built for a slot: the slot, and the structs that have been
added for it. -/
def ofBlob (before after : Workload) (struct offset i position : Nat) : Prop :=
  i = struct ∧ offset ≤ position ∧ position < offset + 20 ∨
    before.structs.length ≤ i ∧ i < after.structs.length

variable {w w₁ w₂ w₃ w₄ : Workload} {struct offset start : Nat} {selector : BlobSelector}
  {data front back : Bytes} {handle : BlobHandle}

/-- Pointers that spare what belongs to a blob have their slots apart from its slot. -/
theorem apart_of_spared {pointers : List StructPointer} (apart : ∀ p ∈ pointers, ∀ i,
      ofBlob w w₁ struct offset struct i → i < p.offset ∨ p.offset + 4 ≤ i) :
    ∀ p ∈ pointers, p.offset + 4 ≤ offset ∨ offset + 20 ≤ p.offset := by
  intro p hp
  -- The slots would share the first byte of one of them.
  have own := fun here => apart p hp p.offset (.inl ⟨rfl, here⟩)
  have first := apart p hp offset (.inl ⟨rfl, by omega⟩)
  omega

/-- A slot with the handle of a blob in the end: the bytes of the handle, the pointers that the
struct had at first, those of the blob, and others apart from the slot. -/
theorem exists_slot {s : PoolStruct} {built : Built BlobHandle}
    (found : w₁.structs[struct]? = some (s.joined built.pointers built.dependencies))
    (between : Spares (ofBlob w w₁ struct offset) w₁ w₂)
    (written : outcome (overwrite struct start
        (front ++ ((Layout.blob .little).encode (built.stored.store .little) ++ back))) w₂ =
      (.ok (), w₃))
    (begins : start + front.length = offset)
    (further : Spares (ofBlob w w₁ struct offset) w₃ w₄) :
    ∃ s' later, w₄.structs[struct]? = some s' ∧
      s'.pointers = s.pointers ++ built.pointers ++ later ∧
      (∀ p ∈ later, p.offset + 4 ≤ offset ∨ offset + 20 ≤ p.offset) ∧
      s'.data.slice? offset 20 =
        some ((Layout.blob .little).encode (built.stored.store .little)) := by
  obtain ⟨s₂, found₂, spares₂⟩ := between.structs struct _ found
  obtain ⟨s₂', found₂', fits, rfl⟩ := outcome_overwrite_eq_ok written
  cases found₂.symm.trans found₂'
  obtain ⟨s₄, found₄, spares₄⟩ := further.structs struct _
    (List.getElem?_set_self (List.getElem?_eq_some_iff.mp found₂).1)
  obtain ⟨added, grown, apart⟩ := spares₂.pointers
  obtain ⟨added', grown', apart'⟩ := spares₄.pointers
  refine ⟨s₄, added ++ added', found₄, ?_,
    List.forall_mem_append.mpr ⟨apart_of_spared apart, apart_of_spared apart'⟩, ?_⟩
  · exact grown'.trans ((congrArg (· ++ added') grown).trans (List.append_assoc ..))
  · rw [spares₄.slice? fun i above below => .inl ⟨rfl, above, below⟩]
    have window := Bytes.slice?_overwrite s₂.data _ start fits
    obtain ⟨-, rest⟩ := slice?_of_slice?_append window
    obtain ⟨slot, -⟩ := slice?_of_slice?_append rest
    rwa [begins, Layout.length_encode] at slot

/-- What has been added for a blob is spared all along, also when its handle is written. -/
theorem spares_added {bytes : Bytes} (inside : struct < w.structs.length)
    (between : Spares (ofBlob w w₁ struct offset) w₁ w₂)
    (written : outcome (overwrite struct start bytes) w₂ = (.ok (), w₃))
    (further : Spares (ofBlob w w₁ struct offset) w₃ w₄) :
    Spares (fun i _ => w.structs.length ≤ i ∧ i < w₁.structs.length) w₁ w₄ := by
  have writing : Step (fun i _ => w.structs.length ≤ i ∧ i < w₁.structs.length) w₂
      (outcome (overwrite struct start bytes) w₂).2 :=
    .overwrite fun _ added => absurd inside (Nat.not_lt.mpr added.1)
  rw [written] at writing
  exact (between.mono fun _ _ => .inr).trans
    (writing.spares.trans (further.mono fun _ _ => .inr))

theorem sound_compileBlob (slot : w.Room struct (offset + 20))
    (built : outcome (compileBlob struct offset selector data) w = (.ok handle, w₁))
    (sound : w.Sound) : w₁.Sound := by
  have grown : Extends 0 w (outcome (compileBlob struct offset selector data) w).2 :=
    .compileBlob slot (Nat.zero_le struct) (Nat.le_refl _)
  rw [built] at grown
  exact grown.sound sound

end Workload

/-- A blob is built for a slot of a struct in any build, its handle is written to the slot, by
itself or with what is next to it, and in between and afterwards the build goes on and spares what
belongs to the blob. Then the handle can be read from the slot in the bundle, and from where it says
the blob is read back, with whatever external files. The exception are blobs of the localization
file: one that is not empty is read back only if that file happens to have its bytes at the offset
that they have in the raw data. -/
theorem readBlob_compileBlob {options : BuildOptions} {w w₁ w₂ w₃ w₄ : Workload}
    {struct offset start tag base : Nat} {selector : BlobSelector} {data front back : Bytes}
    {handle : BlobHandle} (site : Site) (before : Runs (fun _ _ => False) { options } w)
    (slot : w.Room struct (offset + 20))
    (free : ∀ s, w.structs[struct]? = some s →
      ∀ p ∈ s.pointers, p.offset + 4 ≤ offset ∨ offset + 20 ≤ p.offset)
    (built : outcome (compileBlob struct offset selector data) w = (.ok handle, w₁))
    (between : Runs (ofBlob w w₁ struct offset) w₁ w₂)
    (written : outcome (overwrite struct start (front ++ ((Layout.blob .little).encode
      (handle.store .little) ++ back))) w₂ = (.ok (), w₃))
    (begins : start + front.length = offset)
    (further : Runs (ofBlob w w₁ struct offset) w₃ w₄)
    (based : (w₄.tags[tag]?).bind (·.baseStruct) = some base) (inside : base < w₄.structs.length)
    (room : baseAddress.toNat + extent w₄.structs < UInt32.size) :
    ∃ bundle, ofWorkload w₄ tag = .ok bundle ∧ ∀ external : List (DataSource × Bytes),
      let loaded : Bundle := { bundle with external }
      ∃ bytes, loaded.structBytes (address (offsets 0 w₄.structs) struct + UInt32.ofNat offset) 20 =
          .ok bytes ∧
        let found := BlobHandle.load .little ((Layout.blob .little).decode bytes)
        (selector.isBuilt = true → loaded.readBlob site selector found = .ok data) ∧
        (selector = .external .loc → (loaded.readBlob site selector found = .ok data ↔
          data = [] ∨ ∃ content, loaded.store? .loc = some content ∧
            content.slice? w.rawData.length data.length = some data)) := by
  have ⟨s, here, _⟩ := slot
  obtain ⟨rfl, gains⟩ := Follows.blob here built w₁.tags (List.prefix_refl _)
  dsimp only at gains written
  have added := spares_added slot.lt_length between.spares written further.spares
  have sound : w₄.Sound := added.sound (sound_compileBlob slot built before.sound)
  obtain ⟨bundle, finished, memory, -, raw⟩ := exists_linked_bundle sound based inside
  refine ⟨bundle, finished, fun external => ?_⟩
  intro loaded
  have loads (i : Nat) (s : PoolStruct) (found : w₄.structs[i]? = some s) :=
    (loads_linked sound loaded memory room found).1
  let place := address (offsets 0 w₄.structs)
  let stored := Plan.blob place offset selector data w.structs.length w.rawData.length
  have links : Built.LinksTo place offset _ _ _ stored := linksTo_blob selector data
  have has : loaded.Has [] place w.structs.length w.rawData.length stored :=
    links.has_of_spares gains added (fun i above below _ => ⟨above, below⟩) raw loads
      (by simp [Plan.references_blob])
  -- In the bundle, the slot has the handle with the address of what has been added.
  obtain ⟨s', later, found, pointers, apart, window⟩ :=
    exists_slot (gains.found slot.lt_length) between.spares written begins further.spares
  have slotted := links.slice?_linked pointers
    (fun p hp => (sound s' (List.mem_of_getElem? found) p hp).1)
    (List.forall_mem_append.mpr ⟨free s here, apart⟩) window
  refine ⟨_, (loads struct s' found offset 20 _ slotted).2, ?_⟩
  intro handle
  have same : handle = stored.stored := congrArg (BlobHandle.load .little)
    (Layout.decode_encode (.blob .little) (stored.stored.store .little))
  rw [same]
  refine ⟨fun direct => readBlob_plan data direct has, fun localized => ?_⟩
  subst localized
  exact readBlob_plan_loc has.numbers

/-- A new build with a tag, in whose base struct there is a slot for the handle of a blob. -/
def Workload.vacant : Workload :=
  let w := (outcome (register "weapons\\pistol" ⟨0x77656170⟩) { options := {} }).2
  let w := (outcome (addStruct (Bytes.zeros 24)) w).2
  (outcome (setBaseStruct 0 0) w).2

theorem Workload.runs_vacant {spared : Nat → Nat → Prop} : Runs spared { options := {} } vacant :=
  ((Relation.ReflTransGen.single (.register _ _)).tail (.addStruct _)).tail (.setBaseStruct 0 0)

/-- A blob behind a pointer, whose handle is written together with the four bytes before it, and a
second blob in the raw data, built later for a struct of its own. -/
theorem readBlob_compileBlob_vacant :
    let built := outcome (compileBlob 0 4 .pointer [1, 2, 3]) Workload.vacant
    let bytes := [7, 7, 7, 7] ++
      (Layout.blob .little).encode (BlobHandle.store .little { size := 3 })
    let written := outcome (overwrite 0 0 bytes) (outcome (addRawData [8]) built.2).2
    let grown := (outcome (addStruct (Bytes.zeros 20)) written.2).2
    let last := (outcome (compileBlob 2 0 .fileOffset [4, 5]) grown).2
    ∃ bundle, ofWorkload last 0 = .ok bundle ∧ ∀ external : List (DataSource × Bytes),
      let loaded : Bundle := { bundle with external }
      ∃ bytes, loaded.structBytes (baseAddress + 4) 20 = .ok bytes ∧
        loaded.readBlob ⟨"Weapon", "label"⟩ .pointer
          (BlobHandle.load .little ((Layout.blob .little).decode bytes)) = .ok [1, 2, 3] := by
  intro built bytes written grown last
  have room : Workload.vacant.Room 0 (4 + 20) := ⟨_, rfl, by decide⟩
  have free : ∀ s, Workload.vacant.structs[0]? = some s →
      ∀ p ∈ s.pointers, p.offset + 4 ≤ 4 ∨ 4 + 20 ≤ p.offset := by
    rintro s ⟨⟩
    decide
  -- What comes later goes into another struct, and so spares this one.
  have further : Runs (Workload.vacant.ofBlob built.2 0 4) written.2 last := by
    refine .head (.addStruct (Bytes.zeros 20)) ?_
    refine Runs.compileBlob .fileOffset [4, 5] ⟨_, rfl, by decide⟩ ?_
    rintro i (⟨same, -⟩ | ⟨-, added⟩)
    · exact absurd same (by decide)
    · exact absurd added (by decide)
  obtain ⟨bundle, finished, reads⟩ := readBlob_compileBlob ⟨"Weapon", "label"⟩ Workload.runs_vacant
    room free (rfl : built = (.ok { size := 3 }, built.2)) (.single (.addRawData [8]))
    (rfl : written = (.ok (), written.2)) rfl further
    (rfl : (last.tags[0]?).bind (·.baseStruct) = some 0) (by decide) (by decide)
  refine ⟨bundle, finished, fun external => ?_⟩
  obtain ⟨bytes, stored, read, -⟩ := reads external
  exact ⟨bytes, stored, read rfl⟩

/-- Without the localization file, a blob that is built for it cannot be read back, and with one,
other bytes are read. -/
theorem readBlob_compileBlob_loc :
    ∃ w w' bundle bytes,
      outcome (compileBlob 0 4 (.external .loc) [1, 2, 3]) Workload.vacant =
        (.ok { size := 3 }, w) ∧
      outcome (overwrite 0 4 ((Layout.blob .little).encode (BlobHandle.store .little
        { size := 3 }))) w = (.ok (), w') ∧
      ofWorkload w' 0 = .ok bundle ∧ bundle.structBytes (baseAddress + 4) 20 = .ok bytes ∧
      let handle := BlobHandle.load .little ((Layout.blob .little).decode bytes)
      (bundle.readBlob ⟨"Weapon", "label"⟩ (.external .loc) handle).toOption = none ∧
        (bundle.setExternal .loc [7, 8, 9, 10]).readBlob ⟨"Weapon", "label"⟩ (.external .loc)
          handle = .ok [7, 8, 9] :=
  ⟨_, _, _, _, rfl, rfl, rfl, rfl, rfl, rfl⟩

end TagSchema
