import Mathlib.Data.List.Nodup
import TagSchema.Proofs.Bundle.Following
import TagSchema.Proofs.Bundle.Reachable

/-!
# What is built is a tree

The structs behind a value point to each other as the value is nested: every pointer has a slot of
its own and leads to a later struct, and every struct but the first has exactly one pointer to it.
This is read off the plan, which is well placed: its slots lie side by side in the window that it
fills, and its pointers lead to its structs, each once (`Members.placed_plan`).
-/

namespace TagSchema

/-- The bytes of a tag identifier in a bundle. -/
def TagId.bytes (id : TagId) : Bytes := Primitive.u32.encode .little id.code.toBitVec

/-- Whether the patches of a run of bytes that begins at `start` are right: pointers have slots of
their own, and dependencies hold the identifiers of registered tags. -/
structure Slots (tags : List RegisteredTag) (start : Nat) (bytes : Bytes)
    (pointers : List StructPointer) (dependencies : List StructDependency) : Prop where
  inside : ∀ p ∈ pointers, start ≤ p.offset ∧ p.offset + 4 ≤ start + bytes.length
  apart : pointers.Pairwise fun p q => p.offset + 4 ≤ q.offset
  identifiers : ∀ d ∈ dependencies, start ≤ d.offset ∧ d.offset + 16 ≤ start + bytes.length ∧
    d.tag < tags.length ∧
    (bytes.drop (d.offset - start + 12)).take 4 = (TagId.ofIndex d.tag).bytes

namespace Slots

variable {tags : List RegisteredTag} {start : Nat} {bytes bytes' : Bytes}
  {pointers pointers' : List StructPointer} {dependencies dependencies' : List StructDependency}

/-- Without pointers there are no slots to fill. -/
theorem nil (tags : List RegisteredTag) (start : Nat) (bytes : Bytes) :
    Slots tags start bytes [] [] :=
  ⟨fun _ h => (nomatch h), .nil, fun _ h => (nomatch h)⟩

/-- A single pointer has a slot to itself, if it lies in the bytes. -/
theorem pointer {offset target : Nat} (below : start ≤ offset)
    (above : offset + 4 ≤ start + bytes.length) : Slots tags start bytes [⟨offset, target⟩] [] :=
  ⟨fun _ hp => List.mem_singleton.mp hp ▸ ⟨below, above⟩, List.pairwise_singleton _ _,
    fun _ h => (nomatch h)⟩

/-- Two runs one after the other. -/
theorem append (h : Slots tags start bytes pointers dependencies)
    (h' : Slots tags (start + bytes.length) bytes' pointers' dependencies') :
    Slots tags start (bytes ++ bytes') (pointers ++ pointers') (dependencies ++ dependencies') where
  inside p hp := by
    rw [List.length_append]
    obtain first | second := List.mem_append.mp hp
    · have := h.inside p first
      omega
    · have := h'.inside p second
      omega
  apart := by
    refine List.pairwise_append.mpr ⟨h.apart, h'.apart, fun p hp q hq => ?_⟩
    have first := (h.inside p hp).2
    have second := (h'.inside q hq).1
    omega
  identifiers d hd := by
    rw [List.length_append]
    obtain first | second := List.mem_append.mp hd
    · obtain ⟨below, above, registered, holds⟩ := h.identifiers d first
      refine ⟨below, by omega, registered, ?_⟩
      rw [List.drop_append_of_le_length (by omega),
        List.take_append_of_le_length (by rw [List.length_drop]; omega)]
      exact holds
    · obtain ⟨below, above, registered, holds⟩ := h'.identifiers d second
      refine ⟨by omega, by omega, registered, ?_⟩
      have shift : d.offset - start + 12 =
          bytes.length + (d.offset - (start + bytes.length) + 12) := by
        omega
      rw [shift, List.drop_length_add_append]
      exact holds

end Slots

/-! ### Plans are well placed -/

/-- What is built fits together: the patches of the window and of the new structs are right, and the
pointers lead from structs to later ones, to each new struct once. -/
structure Built.Placed {α : Type} (tags : List RegisteredTag) (start next : Nat) (bytes : Bytes)
    (built : Built α) : Prop where
  window : Slots tags start bytes built.pointers built.dependencies
  inner : ∀ s ∈ built.structs, Slots tags 0 s.data s.pointers s.dependencies
  ascending : ∀ (i : Nat) s, built.structs[i]? = some s → ∀ p ∈ s.pointers, next + i < p.target
  targets : ((built.pointers ++ built.structs.flatMap (·.pointers)).map (·.target)).Perm
    (List.range' next built.structs.length)

namespace Built.Placed

variable {α β γ : Type} {tags : List RegisteredTag} {start next : Nat} {bytes bytes' : Bytes}
  {a : Built α} {b : Built β}

/-- What is placed in two runs of bytes is placed in both together: the slots of the second lie
behind those of the first, and so do its structs. -/
theorem combine (f : α → β → γ) (ha : a.Placed tags start next bytes)
    (hb : b.Placed tags (start + bytes.length) (next + a.structs.length) bytes') :
    (a.combine f b).Placed tags start next (bytes ++ bytes') where
  window := ha.window.append hb.window
  inner s hs := (List.mem_append.mp hs).elim (ha.inner s) (hb.inner s)
  ascending i s found p hp := by
    by_cases first : i < a.structs.length
    · exact ha.ascending i s ((List.getElem?_append_left first).symm.trans found) p hp
    · have second := (List.getElem?_append_right (Nat.not_lt.mp first)).symm.trans found
      have := hb.ascending _ s second p hp
      omega
  targets := by
    have both := (ha.targets.append hb.targets).trans (.of_eq List.range'_append_1)
    -- Pointers of the struct come before those of the structs behind it, so the two lists are
    -- shuffled together.
    have shuffled : ((a.pointers ++ b.pointers) ++
        (a.structs ++ b.structs).flatMap (·.pointers)).Perm
        ((a.pointers ++ a.structs.flatMap (·.pointers)) ++
          (b.pointers ++ b.structs.flatMap (·.pointers))) := by
      rw [List.flatMap_append, List.append_assoc, List.append_assoc]
      exact (List.perm_append_comm_assoc ..).append_left _
    rw [← List.map_append] at both
    refine (shuffled.map _).trans (both.trans (.of_eq ?_))
    rw [← List.length_append]
    rfl

/-- What is made of the stored value does not change where it is placed. -/
theorem map {f : α → β} {plan : Plan α} {rawData : Nat}
    (h : (plan next rawData).Placed tags start next bytes) :
    (plan.map f next rawData).Placed tags start next bytes :=
  ⟨h.window, h.inner, h.ascending, h.targets⟩

/-- A window without pointers leads nowhere. -/
theorem leaf (window : Slots tags start bytes a.pointers a.dependencies)
    (pointers : a.pointers = []) (structs : a.structs = []) : a.Placed tags start next bytes where
  window := window
  inner := by
    rw [structs]
    exact fun _ h => absurd h List.not_mem_nil
  ascending i s found := by
    rw [structs] at found
    cases found
  targets := by
    rw [pointers, structs]
    exact .nil

/-- What needs neither a struct nor a tag is placed anywhere. -/
theorem done (stored : α) (rawData : Nat) :
    (Plan.done stored next rawData).Placed tags start next bytes :=
  leaf (.nil tags start bytes) rfl rfl

/-- What lies behind a pointer: a struct in place, and what it leads to. -/
theorem behind {offset : Nat} {s : PoolStruct} {c : Built β} (below : start ≤ offset)
    (above : offset + 4 ≤ start + bytes.length) (placed : a.Placed tags 0 (next + 1) s.data)
    (own : s.pointers = a.pointers ∧ s.dependencies = a.dependencies)
    (pointer : c.pointers = [⟨offset, next⟩] ∧ c.dependencies = [])
    (structs : c.structs = s :: a.structs) : c.Placed tags start next bytes where
  window := by
    rw [pointer.1, pointer.2]
    exact .pointer below above
  inner t ht := by
    rw [structs] at ht
    obtain rfl | later := List.mem_cons.mp ht
    · rw [own.1, own.2]
      exact placed.window
    · exact placed.inner t later
  ascending i t found p hp := by
    rw [structs] at found
    cases i with
    | zero =>
      cases found
      -- The struct in front has the number `next`, and what it points to has a higher one.
      have target : p.target ∈ List.range' (next + 1) a.structs.length := by
        refine placed.targets.subset (List.mem_map_of_mem (List.mem_append_left _ ?_))
        exact own.1 ▸ hp
      have := (List.mem_range'_1.mp target).1
      omega
    | succ i =>
      have := placed.ascending i t found p hp
      omega
  targets := by
    rw [pointer.1, structs, List.flatMap_cons, own.1, List.length_cons, List.range'_succ]
    exact placed.targets.cons next

end Built.Placed

section plans

variable {α β : Type} {tags : List RegisteredTag} {address : Nat → UInt32}
  {place next rawData : Nat}

/-- The identifier is the last word of the handle. -/
theorem take_drop_dependency (handle : DependencyHandle) :
    (((Layout.dependency .little).encode (handle.store .little)).drop 12).take 4 =
      handle.id.bytes :=
  Primitive.take_drop_words [handle.tagClass.code.toBitVec, handle.pathPointer.toBitVec,
    handle.pathSize.toBitVec, handle.id.code.toBitVec] 3 (Nat.lt_succ_self 3)

/-- A reference has the slot of its tag in its own bytes, and the tag is registered. -/
theorem placed_dependency {d : Dependency}
    (registered : Registered tags (Plan.dependency tags place d next rawData).references) :
    (Plan.dependency tags place d next rawData).Placed tags place next
      ((Layout.dependency .little).encode
        ((Plan.dependency tags place d next rawData).stored.store .little)) := by
  by_cases null : d.isNull
  · rw [Plan.dependency_of_null null]
    exact .done _ _
  · rw [Plan.dependency_of_path null] at registered ⊢
    refine .leaf ⟨fun _ h => absurd h List.not_mem_nil, .nil, fun e he => ?_⟩ rfl rfl
    obtain rfl := List.mem_singleton.mp he
    have length : ((Layout.dependency .little).encode (DependencyHandle.store .little
        { tagClass := d.tagClass
          id := .ofIndex (tagIndex tags d.path d.tagClass) })).length = 16 :=
      Layout.length_encode _ _
    refine ⟨Nat.le_refl _, Nat.le_of_eq (congrArg (place + ·) length.symm),
      registered _ (List.mem_singleton_self _), ?_⟩
    rw [Nat.sub_self, Nat.zero_add]
    exact take_drop_dependency _

/-- A blob has one slot for its address, if it is pointed to, and no slot otherwise. -/
theorem placed_blob (selector : BlobSelector) (data : Bytes) :
    (Plan.blob address place selector data next rawData).Placed tags place next
      ((Layout.blob .little).encode
        ((Plan.blob address place selector data next rawData).stored.store .little)) := by
  have length (handle : BlobHandle) :
      ((Layout.blob .little).encode (handle.store .little)).length = 20 := Layout.length_encode _ _
  by_cases empty : data = []
  · subst empty
    exact .done _ rawData
  by_cases selected : selector = .pointer
  · subst selected
    rw [Plan.blob_pointer empty]
    refine .behind (a := Plan.done () (next + 1) rawData) (Nat.le_add_right _ _) ?_
      (.done () rawData) ⟨rfl, rfl⟩ ⟨rfl, rfl⟩ rfl
    rw [length]
    simp only [Workload.blobPointerOffset]
    omega
  · rw [Plan.blob_raw empty selected]
    exact .leaf (.nil _ _ _) rfl rfl

/-- Elements are placed one behind the other, in slots of their own. -/
theorem placed_elements (index : Nat) {single : Nat → α → Plan β} {encode : β → Bytes} {size : Nat}
    {items : List α} (sizes : ∀ stored, (encode stored).length = size)
    (each : ∀ place item next rawData, Registered tags (single place item next rawData).references →
      (single place item next rawData).Placed tags place next
        (encode (single place item next rawData).stored))
    (registered : Registered tags
      (Plan.elements single size index items next rawData).references) :
    (Plan.elements single size index items next rawData).Placed tags (index * size) next
      ((Plan.elements single size index items next rawData).stored.flatMap encode) := by
  induction items generalizing index next rawData with
  | nil => exact .done _ _
  | cons item rest ih =>
    obtain ⟨first, others⟩ := List.forall_mem_append.mp registered
    have placed := each (index * size) item next rawData first
    have rest := ih (index + 1) others
    refine placed.combine List.cons ?_
    rw [sizes, ← Nat.succ_mul]
    exact rest

/-- An array has one slot, for the address of the struct that its elements are placed in. -/
theorem placed_array (address : Nat → UInt32) {single : Nat → α → Plan β} {encode : β → Bytes}
    {size : Nat} {items : List α} {order : ByteOrder} (little : order = .little)
    (sizes : ∀ stored, (encode stored).length = size)
    (each : ∀ place item next rawData, Registered tags (single place item next rawData).references →
      (single place item next rawData).Placed tags place next
        (encode (single place item next rawData).stored))
    (registered : Registered tags
      (Plan.array address place size encode single items next rawData).references) :
    (Plan.array address place size encode single items next rawData).Placed tags place next
      ((Layout.reflexive order).encode
        ((Plan.array address place size encode single items next rawData).stored.store order)) := by
  subst little
  have length (handle : ArrayHandle) :
      ((Layout.reflexive .little).encode (handle.store .little)).length = 12 :=
    Layout.length_encode _ _
  by_cases empty : items = []
  · subst empty
    exact .done _ rawData
  rw [Plan.array_of_ne empty] at registered ⊢
  have placed := placed_elements 0 sizes each registered
  rw [Nat.zero_mul] at placed
  refine .behind (Nat.le_add_right _ _) ?_ placed ⟨rfl, rfl⟩ ⟨rfl, rfl⟩ rfl
  rw [length]
  simp only [Workload.arrayPointerOffset]
  omega

/-- A member that is no array is placed in the bytes of its layout. -/
theorem LeafType.placed_plan {order : ByteOrder} (type : LeafType) (value : type.Value)
    (regular : type.isPackedRegular order = true)
    (registered : Registered tags
      (type.plan address tags place order value next rawData).references) :
    (type.plan address tags place order value next rawData).Placed tags place next
      ((type.layout order).encode
        (type.plan address tags place order value next rawData).stored) := by
  cases type with
  | plain type => exact .done _ rawData
  | dependency classes nonNull =>
    obtain rfl : order = .little := by simpa [isPackedRegular] using regular
    exact .map (placed_dependency registered)
  | blob selector =>
    obtain ⟨rfl, -⟩ := isPackedRegular_blob.mp regular
    exact .map (placed_blob selector value)

/-- The plan of some members is well placed in the window of the members. -/
theorem Members.placed_plan (place : Nat) {offset : Nat} (members : Members) (value : members.Value)
    (regular : members.isPackedRegular offset = true)
    (registered : Registered tags (members.plan address tags place value next rawData).references) :
    (members.plan address tags place value next rawData).Placed tags (place + offset) next
      ((members.layout .packed).encode
        (members.plan address tags place value next rawData).stored) := by
  induction members generalizing place offset next rawData with
  | nil => exact .done _ rawData
  | leaf traits type rest ih =>
    obtain ⟨rfl, leafRegular, regular⟩ := isPackedRegular_leaf.mp regular
    obtain ⟨first, others⟩ := List.forall_mem_append.mp registered
    have head := type.placed_plan value.1 leafRegular first
    refine head.combine Prod.mk ?_
    rw [Layout.length_encode, Nat.add_assoc]
    exact ih place value.2 regular others
  | array traits limits name title element rest ihElement ih =>
    obtain ⟨rfl, little, elementRegular, regular⟩ := isPackedRegular_array.mp regular
    obtain ⟨first, others⟩ := List.forall_mem_append.mp registered
    -- The structs of the elements are numbered from the next free one, then those of the rest.
    have head := placed_array address little (Layout.length_encode _)
      (fun place item next rawData => ihElement place item elementRegular) first
    refine Built.Placed.combine Prod.mk (.map head) ?_
    rw [Layout.length_encode, Nat.add_assoc]
    exact ih place value.2 regular others

end plans

/-! ### Trees in the pool -/

/-- The structs of a pool from a root on form a tree: every pointer has a slot of its own inside its
struct and leads to a later struct, every struct but the root has one pointer of the pool to it, and
the root has none. Where they refer to tags, they hold the identifiers of registered ones. -/
structure Workload.FormsTree (w : Workload) (root : Nat) : Prop where
  exists_root : root < w.structs.length
  inside : ∀ (i : Nat) s, root ≤ i → w.structs[i]? = some s → ∀ p ∈ s.pointers,
    p.offset + 4 ≤ s.data.length
  disjoint : ∀ (i : Nat) s, root ≤ i → w.structs[i]? = some s →
    s.pointers.Pairwise fun p q => p.offset + 4 ≤ q.offset ∨ q.offset + 4 ≤ p.offset
  later : ∀ (i : Nat) s, root ≤ i → w.structs[i]? = some s → ∀ p ∈ s.pointers,
    i < p.target ∧ p.target < w.structs.length
  once : ∀ i, root < i → i < w.structs.length →
    (w.structs.flatMap (·.pointers)).countP (·.target = i) = 1
  root_free : ∀ s ∈ w.structs, ∀ p ∈ s.pointers, p.target ≠ root
  identifiers : ∀ (i : Nat) s, root ≤ i → w.structs[i]? = some s → ∀ d ∈ s.dependencies,
    d.offset + 16 ≤ s.data.length ∧ d.tag < w.tags.length ∧
      s.data.slice? (d.offset + 12) 4 = some (TagId.ofIndex d.tag).bytes

/-- A sound pool with well placed structs behind it. -/
theorem Built.Placed.formsTree {α : Type} {old : List PoolStruct} {root : PoolStruct}
    {built : Built α} {w : Workload} (placed : built.Placed w.tags 0 (old.length + 1) root.data)
    (own : root.pointers = built.pointers ∧ root.dependencies = built.dependencies)
    (structs : w.structs = old ++ root :: built.structs)
    (sound : ∀ s ∈ old, ∀ p ∈ s.pointers, p.target < old.length) : w.FormsTree old.length := by
  -- The new structs as they would lie behind a pointer to the root.
  have behind : Built.Placed (α := Unit) w.tags 0 old.length (Bytes.zeros 4)
      { stored := (), pointers := [⟨0, old.length⟩], structs := root :: built.structs } :=
    .behind (Nat.le_refl _) (Nat.le_refl _) placed own ⟨rfl, rfl⟩ rfl
  have length : w.structs.length = old.length + 1 + built.structs.length := by
    rw [structs, List.length_append, List.length_cons]
    omega
  have each (i : Nat) (s : PoolStruct) (new : old.length ≤ i) (found : w.structs[i]? = some s) :
      s ∈ root :: built.structs ∧ ∀ p ∈ s.pointers, i < p.target := by
    rw [structs, List.getElem?_append_right new] at found
    refine ⟨List.mem_of_getElem? found, fun p hp => ?_⟩
    have := behind.ascending _ s found p hp
    omega
  -- Each new struct but the root is a target once, since the targets are a permutation of them.
  have targets : (((root :: built.structs).flatMap (·.pointers)).map (·.target)).Perm
      (List.range' (old.length + 1) built.structs.length) := by
    rw [List.flatMap_cons, own.1]
    exact placed.targets
  have target (s : PoolStruct) (new : s ∈ root :: built.structs) (p : StructPointer)
      (hp : p ∈ s.pointers) : old.length < p.target ∧ p.target < w.structs.length := by
    have mem := targets.subset (List.mem_map_of_mem (List.mem_flatMap.mpr ⟨s, new, hp⟩))
    rw [length]
    have := List.mem_range'_1.mp mem
    omega
  refine ⟨by omega, fun i s new found p hp => ?_, fun i s new found => ?_,
    fun i s new found p hp => ?_, fun i after before => ?_, fun s hs p hp => ?_,
    fun i s new found d hd => ?_⟩
  · have := ((behind.inner s (each i s new found).1).inside p hp).2
    omega
  · exact (behind.inner s (each i s new found).1).apart.imp .inl
  · exact ⟨(each i s new found).2 p hp, (target s (each i s new found).1 p hp).2⟩
  · have none : (old.flatMap (·.pointers)).countP (·.target = i) = 0 := by
      refine List.countP_eq_zero.mpr fun p hp => ?_
      obtain ⟨s, hs, hp⟩ := List.mem_flatMap.mp hp
      have := sound s hs p hp
      simp only [decide_eq_true_eq]
      omega
    have one : ((root :: built.structs).flatMap (·.pointers)).countP (·.target = i) = 1 := by
      have count := targets.count_eq i
      rw [List.count_eq_one_of_mem List.nodup_range' (List.mem_range'_1.mpr (by omega)), List.count,
        List.countP_map] at count
      simpa only [Function.comp_def, beq_eq_decide] using count
    rw [structs, List.flatMap_append, List.countP_append, none, one]
  · rw [structs] at hs
    obtain earlier | new := List.mem_append.mp hs
    · have := sound s earlier p hp
      omega
    · have := (target s new p hp).1
      omega
  · obtain ⟨-, above, registered, holds⟩ := (behind.inner s (each i s new found).1).identifiers d hd
    refine ⟨by omega, registered, ?_⟩
    rw [Bytes.slice?, if_pos (by omega)]
    exact congrArg some holds

/-- Building a value leaves all that was there before as it is, whether it succeeds or fails. If it
succeeds, the value is a tree of new structs at the end of the pool. -/
theorem compileTag_formsTree {type : StructType} (mem : type ∈ Catalog.types) {w : Workload}
    (reachable : w.Reachable) (tag : Nat) (value : type.Value) :
    let result := outcome (type.compileTag tag value) w
    (∀ (i : Nat) s, w.structs[i]? = some s → result.2.structs[i]? = some s) ∧
      w.tags <+: result.2.tags ∧ w.rawData <+: result.2.rawData ∧
      w.diagnostics <+: result.2.diagnostics ∧
      ∀ k, result.1 = .ok k → k = w.structs.length ∧ result.2.FormsTree k := by
  have regular := Catalog.isPackedRegular_of_mem mem
  have grown := StructType.extends_compileTag tag value regular w
  refine ⟨fun i s found => grown.kept i (List.getElem?_eq_some_iff.mp found).1 s found, grown.tags,
    grown.rawData, grown.diagnostics, fun k succeeded => ?_⟩
  have ends : outcome (type.compileTag tag value) w =
      (.ok k, (outcome (type.compileTag tag value) w).2) := outcome_eq_of_fst succeeded
  obtain ⟨rfl, structs, tags, -, -⟩ := type.compileTag_eq_ok ends _ (List.prefix_refl _)
  refine ⟨rfl, ?_⟩
  have placed := type.members.placed_plan 0 value regular (registered_of_eq tags)
  exact placed.formsTree ⟨rfl, rfl⟩ structs fun s hs p hp => (reachable.sound s hs p hp).2

theorem compileTag_formsTree_pistol :
    Catalog.weapon ∈ Catalog.types ∧ Catalog.armory.Reachable ∧
      (outcome (Catalog.weapon.compileTag 0 Catalog.pistol) Catalog.armory).2.FormsTree 0 := by
  obtain ⟨-, -, -, -, tree⟩ :=
    compileTag_formsTree Catalog.weapon_mem Catalog.armory_reachable 0 Catalog.pistol
  exact ⟨Catalog.weapon_mem, Catalog.armory_reachable, (tree 0 Catalog.pistol_compiles_eq_ok).2⟩

end TagSchema
