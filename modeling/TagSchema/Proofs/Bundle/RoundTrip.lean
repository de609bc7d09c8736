import TagSchema.Proofs.Bundle.Following
import TagSchema.Proofs.Bundle.Linking
import TagSchema.Proofs.Bundle.Reachable
import TagSchema.Proofs.Bundle.Rebuilding
import TagSchema.Proofs.File.RoundTrip

/-!
# Values are read back from bundles

What was built is read back from the finished bundle, up to what bundles do not keep.
-/

namespace TagSchema

open Workload

variable {type : StructType} {w w' : Workload} {tag k : Nat} {value : type.Value}

/-- The workload with a base struct for a tag. -/
def Workload.based (w : Workload) (tag struct : Nat) : Workload :=
  { w with
    tags := w.tags.modify tag fun registered => { registered with baseStruct := some struct } }

theorem Workload.outcome_setBaseStruct_based (registered : tag < w.tags.length) :
    outcome (setBaseStruct tag k) w = (.ok (), w.based tag k) := by
  rw [outcome_setBaseStruct (List.getElem?_eq_getElem registered), based,
    List.modify_eq_set_getElem?, List.getElem?_eq_getElem registered]
  rfl

/-- Base structs do not matter for looking up tags. -/
theorem lookup_based {bundle : Bundle} (tags : bundle.tags = (w.based tag k).tags)
    {references : List (String × TagClass)} (registered : Registered w.tags references)
    (few : w.tags.length ≤ 65536) : ∀ reference ∈ references,
      bundle.lookup (.ofIndex (tagIndex w.tags reference.1 reference.2)) = .ok reference := by
  intro reference mem
  have inside := registered reference mem
  obtain ⟨found, here, path, tagClass⟩ := registered.getElem? mem
  have index := TagId.index?_ofIndex (Nat.lt_of_lt_of_le inside few)
  have kept : ∃ t, bundle.tags[tagIndex w.tags reference.1 reference.2]? = some t ∧
      t.path = reference.1 ∧ t.tagClass = reference.2 := by
    rw [tags, based, List.getElem?_modify, here]
    refine ⟨_, rfl, ?_⟩
    split
    · exact ⟨path, tagClass⟩
    · exact ⟨path, tagClass⟩
  obtain ⟨t, there, path, tagClass⟩ := kept
  rw [Bundle.lookup, index, Option.bind_some, there]
  dsimp only
  rw [path, tagClass]

/-- The bundle of a workload with a base struct that begins at an offset. -/
def Workload.bundled (w : Workload) (tag struct offset : Nat) : Bundle where
  memory := (w.structs.map (Bundle.linked (Bundle.address (Bundle.offsets 0 w.structs)))).flatMap
    Bundle.withPadding
  baseStruct := offset
  tag := tag
  tags := (w.based tag struct).tags
  rawData := w.rawData

/-- A workload whose pointers are sound becomes a bundle with every struct linked. -/
theorem ofWorkload_based (sound : w.Sound) (registered : tag < w.tags.length) {offset : Nat}
    (begins : (Bundle.offsets 0 w.structs)[k]? = some offset) :
    Bundle.ofWorkload (w.based tag k) tag = .ok (w.bundled tag k offset) := by
  have base : ((w.based tag k).tags[tag]?).bind (·.baseStruct) = some k := by
    rw [based, List.getElem?_modify, List.getElem?_eq_getElem registered]
    exact congrArg (Option.bind · _) (congrArg some (if_pos rfl))
  have laid : Bundle.layOut (w.based tag k).structs = .ok (w.bundled tag k offset).memory :=
    Bundle.layOut_eq_ok sound
  have found : (Bundle.offsets 0 (w.based tag k).structs)[k]? = some offset := begins
  unfold Bundle.ofWorkload
  rw [base]
  dsimp only
  rw [laid, found]
  rfl

/-- A bundle in which the structs of a plan can be read linked, and which has the raw data of the
plan, has what the linked plan describes. -/
theorem Built.LinksTo.has_of_loads {α β : Type} {a : Built α} {b : Built β}
    {address : Nat → UInt32} {start next rawData : Nat} {bytes linkedBytes : Bytes}
    (links : a.LinksTo address start bytes linkedBytes b) {bundle : Bundle}
    {tags : List RegisteredTag}
    (structs : ∀ (i : Nat) s, a.structs[i]? = some s →
      bundle.Loads (address (next + i)) (Bundle.linked address s))
    (raw : bundle.rawData.slice? rawData a.rawData.length = some a.rawData)
    (references : ∀ reference ∈ a.references,
      bundle.lookup (.ofIndex (tagIndex tags reference.1 reference.2)) = .ok reference)
    (numbers : ∀ n ∈ a.numbers, n < UInt32.size) :
    bundle.Has tags address next rawData b where
  structs i s found := by
    have linked : (a.structs.map (Bundle.linked address))[i]? = some s.data := by
      rw [links.structs, List.getElem?_map, found]
      rfl
    rw [List.getElem?_map, Option.map_eq_some_iff] at linked
    obtain ⟨t, there, same⟩ := linked
    exact same ▸ structs i t there
  rawData := links.rawData ▸ raw
  references := links.references ▸ references
  numbers := links.numbers ▸ numbers

/-- So has the bundle of a pool that ends with the structs of the plan. -/
theorem Built.LinksTo.has {α β : Type} {a : Built α} {b : Built β} {address : Nat → UInt32}
    {start : Nat} {bytes linkedBytes : Bytes} (links : a.LinksTo address start bytes linkedBytes b)
    (bundle : Bundle) {tags : List RegisteredTag} {structs : List PoolStruct}
    (before : List PoolStruct) {raw : Bytes}
    (loads : ∀ (i : Nat) s, structs[i]? = some s →
      bundle.Loads (address i) (Bundle.linked address s))
    (split : structs = before ++ a.structs) (rawData : bundle.rawData = raw ++ a.rawData)
    (references : ∀ reference ∈ a.references,
      bundle.lookup (.ofIndex (tagIndex tags reference.1 reference.2)) = .ok reference)
    (numbers : ∀ n ∈ a.numbers, n < UInt32.size) :
    bundle.Has tags address before.length raw.length b := by
  refine links.has_of_loads (fun i s found => loads _ s ?_) ?_ references numbers
  · rw [split, List.getElem?_append_right (Nat.le_add_right _ _), Nat.add_sub_cancel_left, found]
  · have whole := Bundle.slice?_append raw [] (Bundle.slice?_whole a.rawData)
    rwa [List.append_nil, Nat.add_zero, ← rawData] at whole

/-- A value can be read from the bundle of a workload once a struct is the base struct of a tag. -/
def StructType.ReadsBack (type : StructType) (w : Workload) (tag struct : Nat)
    (value : type.Value) : Prop :=
  ∃ based bundle, outcome (setBaseStruct tag struct) w = (.ok (), based) ∧
    Bundle.ofWorkload based tag = .ok bundle ∧ type.readPacked bundle none = .ok value

/-- What was built as the base struct of a tag is read back, up to what bundles do not keep. -/
theorem StructType.readsBack_of_compileTag (regular : type.members.isPackedRegular 0 = true)
    (sound : w'.Sound) (ends : outcome (type.compileTag tag value) w = (.ok k, w'))
    (registered : tag < w'.tags.length) (few : w'.tags.length ≤ 65536)
    (room : Bundle.baseAddress.toNat + Bundle.extent w'.structs < UInt32.size) :
    type.ReadsBack w' tag k (type.members.packedKept w'.tags value) := by
  obtain ⟨rfl, structs, tags, raw, numbers⟩ :=
    type.compileTag_eq_ok ends w'.tags (List.prefix_refl _)
  let address := Bundle.address (Bundle.offsets 0 w'.structs)
  have links := type.members.linksTo_plan w'.tags address 0 (w.structs.length + 1) w.rawData.length
    value regular
  generalize type.members.plan (fun _ => 0) w'.tags 0 value (w.structs.length + 1)
    w.rawData.length = built at structs tags raw numbers links
  let root : PoolStruct :=
    ⟨(type.members.layout .packed).encode built.stored, built.pointers, built.dependencies⟩
  have begins : (Bundle.offsets 0 w'.structs)[w.structs.length]? =
      some (0 + Bundle.extent w.structs) := by
    rw [structs]
    exact Bundle.getElem?_offsets 0
  let bundle := w'.bundled tag w.structs.length (0 + Bundle.extent w.structs)
  refine ⟨w'.based tag w.structs.length, bundle, outcome_setBaseStruct_based registered,
    ofWorkload_based sound registered begins, ?_⟩
  have loads (i : Nat) (s : PoolStruct) := Bundle.loads_struct bundle (i := i) (s := s) rfl
    (fun s hs => Bundle.length_foldl_link fun p hp => (sound s hs p hp).1) room
  -- The bundle has what the plan with the addresses of its structs describes.
  have has := links.has bundle (w.structs ++ [root]) (fun i s found => (loads i s found).1)
    (structs.trans (List.append_cons ..)) raw (lookup_based rfl (registered_of_eq tags) few) numbers
  rw [List.length_append] at has
  obtain ⟨-, offset, begins', window⟩ := loads w.structs.length root (by
    rw [structs, List.getElem?_append_right (Nat.le_refl _), Nat.sub_self]
    rfl)
  -- The base struct is the root, linked.
  cases begins'.symm.trans begins
  rw [links.linked_eq (s := root) rfl] at window
  have read := window _ _ (Bundle.slice?_whole _)
  rw [Layout.length_encode] at read
  have base := Bundle.baseBytes_eq_ok bundle (type.layout .packed).size read
  rw [readPacked]
  dsimp only
  rw [base]
  change type.members.readPacked bundle type.name ((type.members.layout .packed).decode _) = _
  rw [Layout.decode_encode]
  exact type.members.readPacked_plan type.name value regular has

/-! ### Building once more -/

/-- A new build with the same options that begins with a tag. -/
def Workload.restarted (w : Workload) (tag : RegisteredTag) : Workload :=
  (outcome (register tag.path tag.tagClass) { options := w.options }).2

theorem Workload.mirrors_restarted (w : Workload) (tag : RegisteredTag) :
    (w.restarted tag).Mirrors w where
  options := rfl
  rawData := Nat.zero_le _

/-- The tags of a build that was started again and makes the same references. -/
theorem Workload.length_tags_restarted {base : RegisteredTag} (registered : base ∈ w.tags)
    (references : List (String × TagClass)) :
    (registerAll (w.restarted base).tags references).length ≤
      (registerAll w.tags references).length :=
  length_registerAll_le (List.nodup_singleton _)
    (List.cons_subset.mpr ⟨List.mem_map.mpr ⟨base, registered, rfl⟩, List.nil_subset _⟩)

/-- Structs of the same sizes take up the same room. -/
theorem Bundle.extent_congr {structs structs' : List PoolStruct}
    (sizes : structs.map (·.data.length) = structs'.map (·.data.length)) :
    extent structs = extent structs' := by
  induction structs generalizing structs' with
  | nil => rw [List.map_eq_nil_iff.mp sizes.symm]
  | cons s rest ih =>
    obtain ⟨t, others, rfl, size, same⟩ := List.map_eq_cons_iff.mp sizes.symm
    rw [extent, extent, ih same.symm]
    rw [size]

/-- A build that begins with the given tag, and makes what resembles another build, needs no more
tags and no more room than the other one. -/
theorem StructType.fits_restarted {base : RegisteredTag} {v' : Workload} {k' : Nat}
    (ends : outcome (type.compileTag tag value) w = (.ok k, w')) (registered : base ∈ w.tags)
    (lower : ∀ path ∈ type.members.paths value, Text.lowercase path = path)
    (again : outcome (type.compileTag 0 (type.members.packedKept w'.tags value))
      (w.restarted base) = (.ok k', v')) :
    v'.tags.length ≤ w'.tags.length ∧ Bundle.extent v'.structs ≤ Bundle.extent w'.structs ∧
      (w.tags.length = 1 →
        v'.tags.map RegisteredTag.reference = w'.tags.map RegisteredTag.reference) := by
  -- Both workloads are as planned, and the plans resemble each other.
  obtain ⟨-, structs, tags, -, -⟩ := type.compileTag_eq_ok ends w'.tags (List.prefix_refl _)
  obtain ⟨-, structs', tags', -, -⟩ := type.compileTag_eq_ok again v'.tags (List.prefix_refl _)
  have alike := type.members.resembles_plan (fun _ => 0) (fun _ => 0) w'.tags v'.tags w'.tags 0 0
    (w.structs.length + 1) ((w.restarted base).structs.length + 1) w.rawData.length
    (w.restarted base).rawData.length lower
  generalize type.members.plan (fun _ => 0) w'.tags 0 value (w.structs.length + 1)
    w.rawData.length = built at structs tags alike
  generalize type.members.plan (fun _ => 0) v'.tags 0 (type.members.packedKept w'.tags value)
    ((w.restarted base).structs.length + 1) (w.restarted base).rawData.length = rebuilt
    at structs' tags' alike
  refine ⟨?_, ?_, fun single => ?_⟩
  · rw [tags', tags, ← alike.references]
    exact length_tags_restarted registered _
  · rw [structs', structs, Bundle.extent_append, Bundle.extent_append, Bundle.extent,
      Bundle.extent, Bundle.extent_congr alike.sizes, Layout.length_encode, Layout.length_encode]
    exact Nat.add_le_add_right (Nat.zero_le _) _
  · obtain ⟨tag, alone⟩ := List.length_eq_one_iff.mp single
    rw [alone, List.mem_singleton] at registered
    rw [tags', tags, ← alike.references, alone, ← registered]
    exact map_reference_registerAll_congr rfl

/-- Whatever is built for a tag is read back from the finished bundle, up to what bundles do not
keep. When all its paths are in lower case, what has been read can be built again, in a new build
that begins with the same tag, and is read back once more: except for identifiers it is the same,
and it is the same altogether if the tag was all that the first build began with. -/
theorem readPacked_compileTag (mem : type ∈ Catalog.types) (reachable : w.Reachable)
    (base : RegisteredTag) (registered : w.tags[tag]? = some base)
    (ends : outcome (type.compileTag tag value) w = (.ok k, w')) (few : w'.tags.length ≤ 65536)
    (room : Bundle.baseAddress.toNat + Bundle.extent w'.structs < UInt32.size) :
    type.ReadsBack w' tag k (type.members.packedKept w'.tags value) ∧
      ((∀ path ∈ type.members.paths value, Text.lowercase path = path) →
        ∃ k' v', outcome (type.compileTag 0 (type.members.packedKept w'.tags value))
            (w.restarted base) = (.ok k', v') ∧
          type.ReadsBack v' 0 k' (type.members.packedKept v'.tags value) ∧
          type.members.withoutIds (type.members.packedKept v'.tags value) =
            type.members.withoutIds (type.members.packedKept w'.tags value) ∧
          (w.tags.length = 1 →
            type.members.packedKept v'.tags value = type.members.packedKept w'.tags value)) := by
  have regular := Catalog.isPackedRegular_of_mem mem
  have reached := reachable.compileTag mem tag value
  have grown := type.extends_compileTag tag value regular w
  rw [ends] at reached grown
  have inside := (List.getElem?_eq_some_iff.mp registered).1
  refine ⟨type.readsBack_of_compileTag regular reached.sound ends
    (Nat.lt_of_lt_of_le inside grown.tags.length_le) few room, fun lower => ?_⟩
  -- The new build succeeds since the old one did, and fits since the old one does.
  obtain ⟨k', v', again⟩ := StructType.compileTag_packedKept 0 w'.tags ends
    (w.mirrors_restarted base) lower
  obtain ⟨tags, extent, same⟩ :=
    type.fits_restarted ends (List.mem_of_getElem? registered) lower again
  have restarted : (w.restarted base).Reachable := .register _ _ (.new w.options)
  have reached' := restarted.compileTag mem 0 (type.members.packedKept w'.tags value)
  have grown' := type.extends_compileTag 0 (type.members.packedKept w'.tags value) regular
    (w.restarted base)
  rw [again] at reached' grown'
  have first : 0 < v'.tags.length := Nat.lt_of_lt_of_le Nat.one_pos grown'.tags.length_le
  have back := type.readsBack_of_compileTag regular reached'.sound again first
    (Nat.le_trans tags few) (Nat.lt_of_le_of_lt (Nat.add_le_add_left extent _) room)
  rw [type.members.packedKept_packedKept lower] at back
  exact ⟨k', v', again, back, type.members.withoutIds_packedKept value,
    fun single => type.members.packedKept_congr (same single) value⟩

/-- The pistol of the catalog is read back from its bundle, and is then read back from the next one
without a change. -/
theorem readPacked_compileTag_pistol :
    let base : RegisteredTag := ⟨"weapons\\pistol", ⟨0x77656170⟩, none⟩
    let built := (outcome (Catalog.weapon.compileTag 0 Catalog.pistol) Catalog.armory).2
    let kept := Catalog.weapon.members.packedKept built.tags Catalog.pistol
    outcome (Catalog.weapon.compileTag 0 Catalog.pistol) Catalog.armory = (.ok 0, built) ∧
      Catalog.weapon.ReadsBack built 0 0 kept ∧
      ∃ k' v', outcome (Catalog.weapon.compileTag 0 kept) (Catalog.armory.restarted base) =
          (.ok k', v') ∧ Catalog.weapon.ReadsBack v' 0 k' kept := by
  have lower : ∀ path ∈ Catalog.weapon.members.paths Catalog.pistol,
      Text.lowercase path = path := by
    rw [Catalog.pistol_fits.2]
    decide +kernel
  have ends : outcome (Catalog.weapon.compileTag 0 Catalog.pistol) Catalog.armory = (.ok 0, _) :=
    outcome_eq_of_fst Catalog.pistol_compiles_eq_ok
  obtain ⟨-, few, room⟩ := Catalog.pistol_compiles
  obtain ⟨back, again⟩ := readPacked_compileTag Catalog.weapon_mem Catalog.armory_reachable
    ⟨"weapons\\pistol", ⟨0x77656170⟩, none⟩ rfl ends few room
  obtain ⟨k', v', rebuilt, back', -, same⟩ := again lower
  exact ⟨ends, back, k', v', rebuilt, same rfl ▸ back'⟩

end TagSchema
