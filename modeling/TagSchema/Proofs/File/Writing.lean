import TagSchema.Proofs.LayoutCodec
import TagSchema.Proofs.Outcome
import TagSchema.Proofs.Overwriting
import TagSchema.Struct.FileForm

/-!
# What is written into a tag file

A value has a head, which goes into the slot of its struct, and a tail, which is appended: the
paths, elements and blobs of its members in their order. Both depend on the value alone, and writing
succeeds wherever there is room for the head, provided that every length fits into a word.
-/

namespace TagSchema

/-! ### Slots -/

namespace Buffer

/-- A layout fits wherever its slot does. -/
theorem outcome_writeFixed (layout : Layout) (value : layout.Value) (position : Nat) (out : Bytes)
    (h : position + layout.size ≤ out.length) :
    outcome (writeFixed layout value position) out =
      (.ok (), out.overwrite position (layout.encode value)) := by
  unfold writeFixed
  rw [outcome_bind_ok (outcome_get out), if_neg (by omega)]
  rfl

theorem outcome_append (bytes out : Bytes) : outcome (append bytes) out = (.ok (), out ++ bytes) :=
  rfl

theorem outcome_writeDependency (d : Dependency) (out : Bytes) :
    outcome (writeDependency d) out =
      (.ok (), out ++ if d.isNull then [] else Text.utf8 d.path ++ [0]) := by
  unfold writeDependency
  split
  · rw [List.append_nil]
    rfl
  · rfl

/-- Elements that each fill their own slot and append a tail fill their slots one after another and
append their tails in the same order. -/
theorem outcome_writeElements {α : Type} (site : Site) {size : Nat}
    {write : Nat → α → Writing Unit} {head tail : α → Bytes} (hsize : ∀ a, (head a).length = size)
    (elements : List α) (index position : Nat) (out : Bytes)
    (hwrite : ∀ a ∈ elements, ∀ position out, position + size ≤ out.length →
      outcome (write position a) out = (.ok (), out.overwrite position (head a) ++ tail a))
    (h : position + elements.length * size ≤ out.length) :
    outcome (writeElements site size write index position elements) out =
      (.ok (), out.overwrite position (elements.flatMap head) ++ elements.flatMap tail) := by
  induction elements generalizing index position out with
  | nil => simp [writeElements, Bytes.overwrite_nil]
  | cons a rest ih =>
    rw [List.length_cons, Nat.add_mul, Nat.one_mul] at h
    have hfirst := hwrite a (List.mem_cons_self ..) position out (by omega)
    have hlength : (out.overwrite position (head a)).length = out.length :=
      Bytes.length_overwrite _ _ _ (by rw [hsize]; omega)
    have hrest := ih (index + 1) (position + size) (out.overwrite position (head a) ++ tail a)
      (fun b hb => hwrite b (List.mem_cons_of_mem _ hb))
      (by rw [List.length_append, hlength]; omega)
    have hflat : (rest.flatMap head).length = rest.length * size :=
      length_flatMap_of_length_eq hsize rest
    have hpatch := Bytes.overwrite_overwrite out (head a) (rest.flatMap head) position (by omega)
    rw [hsize] at hpatch
    rw [writeElements, outcome_bind_ok (outcome_adapt_ok hfirst), hrest,
      Bytes.overwrite_append_left _ _ _ _ (by rw [hlength, hflat]; omega), hpatch]
    simp [List.flatMap_cons, List.append_assoc]

/-- An array is appended as the heads of its elements, followed by their tails. -/
theorem outcome_writeArray {α : Type} {site : Site} {size : Nat}
    {write : Nat → α → Writing Unit} (head tail : α → Bytes) (hsize : ∀ a, (head a).length = size)
    (elements : List α)
    (hwrite : ∀ a ∈ elements, ∀ position out, position + size ≤ out.length →
      outcome (write position a) out = (.ok (), out.overwrite position (head a) ++ tail a))
    (out : Bytes) :
    outcome (writeArray site size write elements) out =
      (.ok (), out ++ (elements.flatMap head ++ elements.flatMap tail)) := by
  have hflat : (elements.flatMap head).length = elements.length * size :=
    length_flatMap_of_length_eq hsize elements
  have helements := outcome_writeElements site hsize elements 0 out.length
    (out ++ Bytes.zeros (elements.length * size)) hwrite (by simp)
  rw [← hflat, Bytes.append_zeros_overwrite, hflat] at helements
  unfold writeArray
  rw [outcome_bind_ok (outcome_get out), outcome_bind_ok (outcome_append _ out), helements,
    List.append_assoc]

end Buffer

/-! ### Members -/

namespace LeafType

/-- Whether the length of what a member stores behind its struct fits into a word. -/
def Fits : (type : LeafType) → type.Value → Prop
  | .plain _, _ => True
  | .dependency _ _, (d : Dependency) => (Text.utf8 d.path).length < UInt32.size
  | .blob _, (data : Bytes) => data.length < UInt32.size

/-- A member as the layout of tag files holds it when its length fits. -/
def fileHead (order : ByteOrder) : (type : LeafType) → type.Value → (type.layout order).Value
  | .plain type, value => type.store .file order value
  | .dependency classes _, (d : Dependency) =>
    DependencyHandle.store order
      { tagClass := Dependency.restoreClass (defaultClass classes) d.tagClass
        pathSize := UInt32.ofNat (Text.utf8 d.path).length }
  | .blob _, (data : Bytes) => BlobHandle.store order { size := UInt32.ofNat data.length }

/-- What a member stores behind its struct. -/
def fileTail : (type : LeafType) → type.Value → Bytes
  | .plain _, _ => []
  | .dependency _ _, (d : Dependency) => if d.isNull then [] else Text.utf8 d.path ++ [0]
  | .blob _, (data : Bytes) => data

theorem storeFile_eq (order : ByteOrder) (type : LeafType) {value : type.Value}
    (h : type.Fits value) : type.storeFile order value = .ok (type.fileHead order value) := by
  cases type with
  | plain type => rfl
  | dependency classes nonNull =>
    have hcount : countWord "dependency path" (Text.utf8 (value : Dependency).path).length = _ :=
      if_pos h
    simp only [storeFile, Buffer.dependencyHandle, hcount]
    rfl
  | blob selector =>
    have hcount : countWord "blob" (value : Bytes).length = _ := if_pos h
    simp only [storeFile, Buffer.blobHandle, hcount]
    rfl

theorem outcome_writeFile (type : LeafType) (value : type.Value) (out : Bytes) :
    outcome (type.writeFile value) out = (.ok (), out ++ type.fileTail value) := by
  cases type with
  | plain type =>
    simp only [fileTail, List.append_nil]
    rfl
  | dependency classes nonNull => exact Buffer.outcome_writeDependency value out
  | blob selector => exact Buffer.outcome_append value out

end LeafType

namespace Members

/-- Whether, at every depth, the lengths of all that tag files keep fit into words. -/
def Fits : (members : Members) → members.Value → Prop
  | .nil, _ => True
  | .leaf traits type rest, value =>
    (traits.isAbsentFromFiles = false → type.Fits value.1) ∧ rest.Fits value.2
  | .array traits _ _ _ element rest, value =>
    (traits.isAbsentFromFiles = false →
      List.length value.1 < UInt32.size ∧ ∀ item ∈ value.1, element.Fits item) ∧
    rest.Fits value.2

instance LeafType.decidableFits : (type : LeafType) → (value : type.Value) →
    Decidable (type.Fits value)
  | .plain _, _ => inferInstanceAs (Decidable True)
  | .dependency _ _, (d : Dependency) =>
    inferInstanceAs (Decidable ((Text.utf8 d.path).length < UInt32.size))
  | .blob _, (data : Bytes) => inferInstanceAs (Decidable (data.length < UInt32.size))

instance decidableFits : (members : Members) → (value : members.Value) →
    Decidable (members.Fits value)
  | .nil, _ => inferInstanceAs (Decidable True)
  | .leaf traits type rest, value =>
    have := rest.decidableFits value.2
    inferInstanceAs (Decidable ((traits.isAbsentFromFiles = false → type.Fits value.1) ∧
      rest.Fits value.2))
  | .array traits _ _ _ element rest, value =>
    have := rest.decidableFits value.2
    have (item : element.Value) := element.decidableFits item
    inferInstanceAs (Decidable ((traits.isAbsentFromFiles = false →
      List.length value.1 < UInt32.size ∧ ∀ item ∈ (value.1 : List element.Value),
        element.Fits item) ∧ rest.Fits value.2))

/-- The members as the layout of tag files holds them when their lengths fit. -/
def fileHead : (members : Members) → members.Value → (members.layout .file).Value
  | .nil, _ => ()
  | .leaf traits type rest, value =>
    (if traits.isAbsentFromFiles then (type.layout (traits.orderIn .file)).zero
      else type.fileHead (traits.orderIn .file) value.1, rest.fileHead value.2)
  | .array traits _ _ _ _ rest, value =>
    (if traits.isAbsentFromFiles then (Layout.reflexive (traits.orderIn .file)).zero
      else ArrayHandle.store (traits.orderIn .file) { count := UInt32.ofNat (List.length value.1) },
      rest.fileHead value.2)

/-- What the members store behind their struct. -/
def fileTail : (members : Members) → members.Value → Bytes
  | .nil, _ => []
  | .leaf traits type rest, value =>
    (if traits.isAbsentFromFiles then [] else type.fileTail value.1) ++ rest.fileTail value.2
  | .array traits _ _ _ element rest, value =>
    (if traits.isAbsentFromFiles then []
      else value.1.flatMap (fun item => (element.layout .file).encode (element.fileHead item)) ++
        value.1.flatMap element.fileTail) ++
    rest.fileTail value.2

theorem storeFile_eq (members : Members) {value : members.Value} (h : members.Fits value) :
    members.storeFile value = .ok (members.fileHead value) := by
  induction members with
  | nil => rfl
  | leaf traits type rest ih =>
    obtain ⟨hfirst, hrest⟩ := h
    simp only [storeFile, fileHead, ih hrest]
    cases habsent : traits.isAbsentFromFiles
    · rw [if_neg (by decide), if_neg (by decide), type.storeFile_eq _ (hfirst habsent)]
      rfl
    · rfl
  | array traits limits name title element rest ihElement ih =>
    obtain ⟨hfirst, hrest⟩ := h
    simp only [storeFile, fileHead, ih hrest]
    cases habsent : traits.isAbsentFromFiles
    · have hcount : countWord "array" (List.length value.1) = _ := if_pos (hfirst habsent).1
      simp only [Buffer.arrayHandle, hcount]
      rfl
    · rfl

/-- The tail of a struct is appended, whatever stands before it. -/
theorem outcome_writeFile (owner : String) (members : Members) {value : members.Value}
    (h : members.Fits value) (out : Bytes) :
    outcome (members.writeFile owner value) out = (.ok (), out ++ members.fileTail value) := by
  -- Members come one after the other, so the buffer has grown by the tails of those before.
  induction members generalizing owner out with
  | nil => exact congrArg (Prod.mk (Except.ok ())) (List.append_nil out).symm
  | leaf traits type rest ih =>
    obtain ⟨-, hrest⟩ := h
    simp only [writeFile, fileTail]
    cases habsent : traits.isAbsentFromFiles
    · exact (outcome_bind_ok (type.outcome_writeFile value.1 out)).trans
        ((ih owner hrest _).trans (by simp [List.append_assoc]))
    · exact ih owner hrest out
  | array traits limits name title element rest ihElement ih =>
    obtain ⟨hfirst, hrest⟩ := h
    simp only [writeFile, fileTail]
    cases habsent : traits.isAbsentFromFiles
    · refine (outcome_bind_ok (Buffer.outcome_writeArray
        (fun item => (element.layout .file).encode (element.fileHead item)) element.fileTail
        (fun item => Layout.length_encode _ _) value.1 ?_ out)).trans
        ((ih owner hrest _).trans (by simp [List.append_assoc]))
      -- The slots of the elements are there when they are written, so writing them cannot fail.
      intro item hitem position out hroom
      have hitem := (hfirst habsent).2 item hitem
      rw [element.storeFile_eq hitem]
      exact (outcome_bind_ok (Buffer.outcome_writeFixed _ _ position out hroom)).trans
        (ihElement name hitem _)
    · exact ih owner hrest out

end Members

namespace StructType

/-- Writing a value fills the slot with its head and appends its tail. -/
theorem outcome_writeFile (type : StructType) {value : type.Value} (h : type.members.Fits value)
    (position : Nat) (out : Bytes) (hroom : position + type.size .file ≤ out.length) :
    outcome (type.writeFile position value) out =
      (.ok (), out.overwrite position
        ((type.members.layout .file).encode (type.members.fileHead value)) ++
        type.members.fileTail value) := by
  unfold writeFile
  rw [type.members.storeFile_eq h]
  exact (outcome_bind_ok (Buffer.outcome_writeFixed _ _ position out hroom)).trans
    (type.members.outcome_writeFile type.name h _)

/-- The body of a tag file is the head of the value, followed by its tail. -/
theorem generateBody_eq (type : StructType) {value : type.Value} (h : type.members.Fits value) :
    type.generateBody value =
      .ok ((type.members.layout .file).encode (type.members.fileHead value) ++
        type.members.fileTail value) := by
  have hwrite := type.outcome_writeFile h 0 (Bytes.zeros (type.size .file)) (by simp)
  have hslot : Bytes.overwrite (Bytes.zeros (type.size .file)) 0
      ((type.members.layout .file).encode (type.members.fileHead value)) =
      (type.members.layout .file).encode (type.members.fileHead value) := by
    have hlength := Layout.length_encode (type.members.layout .file) (type.members.fileHead value)
    have h := Bytes.append_zeros_overwrite []
      ((type.members.layout .file).encode (type.members.fileHead value))
    rw [hlength] at h
    exact h
  rw [hslot] at hwrite
  have hrun : (type.writeFile 0 value).run.run (Bytes.zeros (type.size .file)) = _ := hwrite
  unfold generateBody
  rw [hrun]
  rfl

end StructType

end TagSchema
