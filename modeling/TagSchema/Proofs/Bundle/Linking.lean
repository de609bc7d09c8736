import TagSchema.Proofs.Bundle.Layout
import TagSchema.Proofs.Bundle.Plan
import TagSchema.Proofs.Regular

/-!
# Linked plans

A plan without addresses, linked, is the plan with addresses: filling the slots of its pointers
turns the window that it stores into the one that the other stores, and the same holds for every
struct that it builds.
-/

namespace TagSchema

open TagSchema.Bundle

/-- One plan, linked, is another. The windows begin at `start`. -/
structure Built.LinksTo {α β : Type} (address : Nat → UInt32) (start : Nat)
    (bytes linkedBytes : Bytes) (a : Built α) (b : Built β) : Prop where
  length : linkedBytes.length = bytes.length
  window : ∀ front back : Bytes, front.length = start →
    a.pointers.foldl (link address) (front ++ (bytes ++ back)) = front ++ (linkedBytes ++ back)
  structs : a.structs.map (linked address) = b.structs.map (·.data)
  rawData : b.rawData = a.rawData
  references : b.references = a.references
  numbers : b.numbers = a.numbers

namespace Built.LinksTo

variable {α α' β β' γ γ' : Type} {address : Nat → UInt32} {start : Nat}
  {bytes bytes' linkedBytes linkedBytes' : Bytes} {a : Built α} {b : Built α'} {c : Built β}
  {d : Built β'}

theorem length_structs (h : a.LinksTo address start bytes linkedBytes b) :
    b.structs.length = a.structs.length := by
  simpa using (congrArg List.length h.structs).symm

/-- A struct with what has been built stores what the other plan stores, once it is linked. -/
theorem linked_eq {s : PoolStruct} (h : a.LinksTo address 0 s.data linkedBytes b)
    (own : s.pointers = a.pointers) : linked address s = linkedBytes := by
  have whole := h.window [] [] rfl
  rw [List.append_nil, List.append_nil, List.nil_append, List.nil_append] at whole
  rw [linked, own, whole]

theorem combine (f : α → β → γ) (f' : α' → β' → γ')
    (h : a.LinksTo address start bytes linkedBytes b)
    (h' : c.LinksTo address (start + bytes.length) bytes' linkedBytes' d) :
    (a.combine f c).LinksTo address start (bytes ++ bytes') (linkedBytes ++ linkedBytes')
      (b.combine f' d) where
  length := by rw [List.length_append, List.length_append, h.length, h'.length]
  window front back begins := by
    -- The pointers of the first part are filled in first, and leave the bytes of the second as they
    -- are.
    have first := h.window front (bytes' ++ back) begins
    have second := h'.window (front ++ linkedBytes) back
      (by rw [List.length_append, h.length, begins])
    simp only [List.append_assoc] at second ⊢
    change (a.pointers ++ c.pointers).foldl (link address) _ = _
    rw [List.foldl_append, first, second]
  structs := by
    change (a.structs ++ c.structs).map _ = (b.structs ++ d.structs).map _
    rw [List.map_append, List.map_append, h.structs, h'.structs]
  rawData := by
    change b.rawData ++ d.rawData = a.rawData ++ c.rawData
    rw [h.rawData, h'.rawData]
  references := by
    change b.references ++ d.references = a.references ++ c.references
    rw [h.references, h'.references]
  numbers := by
    change b.numbers ++ d.numbers = a.numbers ++ c.numbers
    rw [h.numbers, h'.numbers]

theorem map (f : α → β) (f' : α' → β') {plan : Plan α} {plan' : Plan α'} {next rawData : Nat}
    (h : (plan next rawData).LinksTo address start bytes linkedBytes (plan' next rawData)) :
    (plan.map f next rawData).LinksTo address start bytes linkedBytes (plan'.map f' next rawData) :=
  ⟨h.length, h.window, h.structs, h.rawData, h.references, h.numbers⟩

/-- Without pointers and structs there is nothing to link. -/
theorem unlinked (pointers : a.pointers = []) (structs : a.structs = [])
    (structs' : b.structs = [])
    (same : b.rawData = a.rawData ∧ b.references = a.references ∧ b.numbers = a.numbers) :
    a.LinksTo address start bytes bytes b where
  length := rfl
  window front back _ := by rw [pointers]; rfl
  structs := by rw [structs, structs']; rfl
  rawData := same.1
  references := same.2.1
  numbers := same.2.2

/-- A slot for the address of a struct, which is linked in turn. -/
theorem behind (distance : Nat) {next : Nat} {s t : PoolStruct}
    (bound : distance + 4 ≤ bytes.length)
    (slot : bytes.overwrite distance (pointerBytes (address next)) = linkedBytes)
    (pointer : c.pointers = [⟨start + distance, next⟩])
    (inner : a.LinksTo address 0 s.data t.data b) (own : s.pointers = a.pointers)
    (structs : c.structs = s :: a.structs ∧ d.structs = t :: b.structs)
    (same : d.rawData = c.rawData ∧ d.references = c.references ∧ d.numbers = c.numbers) :
    c.LinksTo address start bytes linkedBytes d where
  length := by
    rw [← slot]
    exact Bytes.length_overwrite _ _ _ (by rw [length_pointerBytes]; exact bound)
  window front back begins := by
    rw [pointer, List.foldl_cons, List.foldl_nil, link, ← begins, Bytes.overwrite_append_right,
      Bytes.overwrite_append_left _ _ _ _ (by rw [length_pointerBytes]; exact bound), slot]
  structs := by
    rw [structs.1, structs.2, List.map_cons, List.map_cons, inner.structs, inner.linked_eq own]
  rawData := same.1
  references := same.2.1
  numbers := same.2.2

end Built.LinksTo

/-! ### Plans -/

section plans

variable {α β : Type} {tags : List RegisteredTag} {address : Nat → UInt32}
  {place next rawData : Nat}

theorem linksTo_blob (selector : BlobSelector) (data : Bytes) :
    (Plan.blob (fun _ => 0) place selector data next rawData).LinksTo address place
      ((Layout.blob .little).encode
        ((Plan.blob (fun _ => 0) place selector data next rawData).stored.store .little))
      ((Layout.blob .little).encode
        ((Plan.blob address place selector data next rawData).stored.store .little))
      (Plan.blob address place selector data next rawData) := by
  by_cases empty : data = []
  · subst empty
    exact .unlinked rfl rfl rfl ⟨rfl, rfl, rfl⟩
  by_cases selected : selector = .pointer
  · subst selected
    rw [Plan.blob_pointer empty, Plan.blob_pointer empty]
    have inner : (Plan.done () (next + 1) rawData).LinksTo address 0 data data
      (Plan.done () (next + 1) rawData) := .unlinked rfl rfl rfl ⟨rfl, rfl, rfl⟩
    refine .behind Workload.blobPointerOffset (s := ⟨data, [], []⟩) (t := ⟨data, [], []⟩)
      ?_ ?_ rfl inner rfl ⟨rfl, rfl⟩ ⟨rfl, rfl, rfl⟩
    · rw [Layout.length_encode]
      decide
    · exact Primitive.overwrite_words [UInt32.toBitVec _, 0, 0, 0, 0] 3
        (Nat.lt_of_sub_eq_succ rfl) _
  · rw [Plan.blob_raw empty selected, Plan.blob_raw empty selected]
    exact .unlinked rfl rfl rfl ⟨rfl, rfl, rfl⟩

theorem linksTo_elements (next rawData index : Nat) {single single' : Nat → α → Plan β}
    {encode : β → Bytes} {size : Nat} (items : List α)
    (sizes : ∀ stored, (encode stored).length = size)
    (each : ∀ place item next rawData, (single place item next rawData).LinksTo address place
      (encode (single place item next rawData).stored)
      (encode (single' place item next rawData).stored) (single' place item next rawData)) :
    (Plan.elements single size index items next rawData).LinksTo address (index * size)
      ((Plan.elements single size index items next rawData).stored.flatMap encode)
      ((Plan.elements single' size index items next rawData).stored.flatMap encode)
      (Plan.elements single' size index items next rawData) := by
  induction items generalizing index next rawData with
  | nil => exact .unlinked rfl rfl rfl ⟨rfl, rfl, rfl⟩
  | cons item rest ih =>
    have first := each (index * size) item next rawData
    have others := ih (next + (single (index * size) item next rawData).structs.length)
      (rawData + (single (index * size) item next rawData).rawData.length) (index + 1)
    -- Both plans go on behind the same numbers of structs and bytes.
    simp only [Plan.elements, Plan.andThen]
    rw [first.length_structs, first.rawData]
    refine first.combine List.cons List.cons ?_
    rw [sizes, ← Nat.succ_mul]
    exact others

theorem linksTo_array (address : Nat → UInt32) (place next rawData : Nat)
    {single single' : Nat → α → Plan β} {encode : β → Bytes} {size : Nat} (items : List α)
    {order : ByteOrder} (little : order = .little)
    (sizes : ∀ stored, (encode stored).length = size)
    (each : ∀ place item next rawData, (single place item next rawData).LinksTo address place
      (encode (single place item next rawData).stored)
      (encode (single' place item next rawData).stored) (single' place item next rawData)) :
    (Plan.array (fun _ => 0) place size encode single items next rawData).LinksTo address place
      ((Layout.reflexive order).encode
        ((Plan.array (fun _ => 0) place size encode single items next rawData).stored.store order))
      ((Layout.reflexive order).encode
        ((Plan.array address place size encode single' items next rawData).stored.store order))
      (Plan.array address place size encode single' items next rawData) := by
  subst little
  by_cases empty : items = []
  · subst empty
    exact .unlinked rfl rfl rfl ⟨rfl, rfl, rfl⟩
  rw [Plan.array_of_ne empty, Plan.array_of_ne empty]
  have inner := linksTo_elements (next + 1) rawData 0 items sizes each
  rw [Nat.zero_mul] at inner
  refine .behind Workload.arrayPointerOffset ?_ ?_ rfl inner rfl ⟨rfl, rfl⟩
    ⟨inner.rawData, inner.references, congrArg (List.cons items.length) inner.numbers⟩
  · rw [Layout.length_encode]
    decide
  · exact Primitive.overwrite_words [UInt32.toBitVec _, 0, 0] 1 (Nat.lt_of_sub_eq_succ rfl) _

theorem LeafType.linksTo_plan (tags : List RegisteredTag) (address : Nat → UInt32)
    (place next rawData : Nat) {order : ByteOrder} (type : LeafType) (value : type.Value)
    (regular : type.isPackedRegular order = true) :
    (type.plan (fun _ => 0) tags place order value next rawData).LinksTo address place
      ((type.layout order).encode
        (type.plan (fun _ => 0) tags place order value next rawData).stored)
      ((type.layout order).encode (type.plan address tags place order value next rawData).stored)
      (type.plan address tags place order value next rawData) := by
  cases type with
  | plain type => exact .unlinked rfl rfl rfl ⟨rfl, rfl, rfl⟩
  | dependency classes nonNull =>
    by_cases null : Dependency.isNull value
    · simp only [plan, Plan.dependency_of_null null]
      exact .unlinked rfl rfl rfl ⟨rfl, rfl, rfl⟩
    · simp only [plan, Plan.dependency_of_path null]
      exact .unlinked rfl rfl rfl ⟨rfl, rfl, rfl⟩
  | blob selector =>
    obtain ⟨rfl, -⟩ := isPackedRegular_blob.mp regular
    exact .map _ _ (linksTo_blob selector value)

/-- The plan of some members without addresses, linked, is the one with addresses. -/
theorem Members.linksTo_plan (tags : List RegisteredTag) (address : Nat → UInt32)
    (place next rawData : Nat) {offset : Nat} (members : Members) (value : members.Value)
    (regular : members.isPackedRegular offset = true) :
    (members.plan (fun _ => 0) tags place value next rawData).LinksTo address (place + offset)
      ((members.layout .packed).encode
        (members.plan (fun _ => 0) tags place value next rawData).stored)
      ((members.layout .packed).encode (members.plan address tags place value next rawData).stored)
      (members.plan address tags place value next rawData) := by
  -- What a member adds to the pool comes before what the next one adds, so positions move on with
  -- the plan.
  induction members generalizing place offset next rawData with
  | nil => exact .unlinked rfl rfl rfl ⟨rfl, rfl, rfl⟩
  | leaf traits type rest ih =>
    obtain ⟨rfl, leafRegular, regular⟩ := isPackedRegular_leaf.mp regular
    have head := type.linksTo_plan tags address (place + traits.offset) next rawData value.1
      leafRegular
    simp only [plan, Plan.andThen]
    rw [head.length_structs, head.rawData]
    refine head.combine Prod.mk Prod.mk ?_
    rw [Layout.length_encode, Nat.add_assoc]
    exact ih place _ _ value.2 regular
  | array traits limits name title element rest ihElement ih =>
    obtain ⟨rfl, little, elementRegular, regular⟩ := isPackedRegular_array.mp regular
    have head := linksTo_array address (place + traits.offset) next rawData value.1 little
      (Layout.length_encode (element.layout .packed))
      (fun place item next rawData => ihElement place next rawData item elementRegular)
    have handle := Built.LinksTo.map (ArrayHandle.store (traits.orderIn .packed))
      (ArrayHandle.store (traits.orderIn .packed)) head
    simp only [plan, Plan.andThen]
    rw [handle.length_structs, handle.rawData]
    refine handle.combine Prod.mk Prod.mk ?_
    rw [Layout.length_encode, Nat.add_assoc]
    exact ih place _ _ value.2 regular

end plans

end TagSchema
