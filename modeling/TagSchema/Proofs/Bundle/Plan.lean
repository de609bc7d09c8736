import TagSchema.Proofs.Bundle.Registry
import TagSchema.Struct.PackedForm

/-!
# What is built

A value determines what building it adds to a workload, once it is known how many structs and how
much raw data there are before it, and under which indices its references are registered. A plan
says so without any state. Its handles can be given any addresses for the structs: a build leaves
the addresses out, and linking puts them in.
-/

namespace TagSchema

/-- What building something gives and what it adds to the struct that it belongs to and to the
workload. -/
structure Built (α : Type) where
  stored : α
  pointers : List StructPointer := []
  dependencies : List StructDependency := []
  structs : List PoolStruct := []
  rawData : Bytes := []
  references : List (String × TagClass) := []
  /-- The lengths and offsets that are stored as words. -/
  numbers : List Nat := []

/-- What is built one after the other. -/
def Built.combine {α β γ : Type} (f : α → β → γ) (a : Built α) (b : Built β) : Built γ where
  stored := f a.stored b.stored
  pointers := a.pointers ++ b.pointers
  dependencies := a.dependencies ++ b.dependencies
  structs := a.structs ++ b.structs
  rawData := a.rawData ++ b.rawData
  references := a.references ++ b.references
  numbers := a.numbers ++ b.numbers

/-- What is built when there are a number of structs and a length of raw data before it. -/
abbrev Plan (α : Type) := (structs rawData : Nat) → Built α

namespace Plan

variable {α β γ : Type}

/-- Nothing is built. -/
def done (stored : α) : Plan α := fun _ _ => { stored }

/-- One plan after another. -/
def andThen (f : α → β → γ) (first : Plan α) (second : Plan β) : Plan γ := fun structs rawData =>
  let built := first structs rawData
  built.combine f (second (structs + built.structs.length) (rawData + built.rawData.length))

/-- A plan whose result is put in another form. -/
def map (f : α → β) (plan : Plan α) : Plan β := fun structs rawData =>
  let built := plan structs rawData
  { built with stored := f built.stored }

/-- The handle of a dependency at a place. -/
def dependency (tags : List RegisteredTag) (place : Nat) (d : Dependency) : Plan DependencyHandle :=
  fun _ _ =>
    if d.isNull then { stored := { tagClass := d.tagClass } }
    else
      let index := tagIndex tags d.path d.tagClass
      { stored := { tagClass := d.tagClass, id := .ofIndex index }
        dependencies := [⟨place, index⟩], references := [(d.path, d.tagClass)] }

/-- The handle of a blob at a place. -/
def blob (address : Nat → UInt32) (place : Nat) (selector : BlobSelector) (data : Bytes) :
    Plan BlobHandle := fun structs rawData =>
  let size := UInt32.ofNat data.length
  if data.isEmpty then { stored := { size } }
  else
    match selector with
    | .pointer =>
      { stored := { size, pointer := address structs }
        pointers := [⟨place + Workload.blobPointerOffset, structs⟩]
        structs := [⟨data, [], []⟩], numbers := [data.length] }
    | .fileOffset | .external _ =>
      { stored := { size, fileOffset := UInt32.ofNat rawData }, rawData := data
        numbers := [data.length, rawData] }

/-- Elements one after another, each at its offset, from an index on. -/
def elements (single : Nat → α → Plan β) (size : Nat) : Nat → List α → Plan (List β)
  | _, [] => done []
  | index, item :: rest =>
    andThen List.cons (single (index * size) item) (elements single size (index + 1) rest)

/-- The handle of an array at a place. -/
def array (address : Nat → UInt32) (place size : Nat) (encode : β → Bytes)
    (single : Nat → α → Plan β) (items : List α) : Plan ArrayHandle := fun structs rawData =>
  let count := UInt32.ofNat items.length
  if items.isEmpty then { stored := { count } }
  else
    let built := elements single size 0 items (structs + 1) rawData
    { stored := { count, pointer := address structs }
      pointers := [⟨place + Workload.arrayPointerOffset, structs⟩]
      structs := ⟨built.stored.flatMap encode, built.pointers, built.dependencies⟩ :: built.structs
      rawData := built.rawData, references := built.references
      numbers := items.length :: built.numbers }

/-! ### Plans case by case -/

section cases

variable {tags : List RegisteredTag} {address : Nat → UInt32} {place size : Nat} {d : Dependency}
  {selector : BlobSelector} {data : Bytes} {encode : β → Bytes} {single : Nat → α → Plan β}

theorem dependency_of_null (h : d.isNull = true) :
    dependency tags place d = done { tagClass := d.tagClass } := by
  funext structs rawData
  exact if_pos h

theorem dependency_of_path (h : ¬d.isNull = true) :
    dependency tags place d = fun _ _ =>
      { stored := { tagClass := d.tagClass, id := .ofIndex (tagIndex tags d.path d.tagClass) }
        dependencies := [⟨place, tagIndex tags d.path d.tagClass⟩]
        references := [(d.path, d.tagClass)] } := by
  funext structs rawData
  exact if_neg h

theorem blob_pointer (h : data ≠ []) :
    blob address place .pointer data = fun structs _ =>
      { stored := { size := UInt32.ofNat data.length, pointer := address structs }
        pointers := [⟨place + Workload.blobPointerOffset, structs⟩], structs := [⟨data, [], []⟩]
        numbers := [data.length] } := by
  funext structs rawData
  exact if_neg (by simpa using h)

theorem blob_raw (h : data ≠ []) (selected : selector ≠ .pointer) :
    blob address place selector data = fun _ rawData =>
      { stored := { size := UInt32.ofNat data.length, fileOffset := UInt32.ofNat rawData }
        rawData := data, numbers := [data.length, rawData] } := by
  funext structs rawData
  cases selector with
  | pointer => exact absurd rfl selected
  | fileOffset => exact if_neg (by simpa using h)
  | external source => exact if_neg (by simpa using h)

theorem array_of_ne {items : List α} (h : items ≠ []) :
    array address place size encode single items = fun structs rawData =>
      let built := elements single size 0 items (structs + 1) rawData
      { stored := { count := UInt32.ofNat items.length, pointer := address structs }
        pointers := [⟨place + Workload.arrayPointerOffset, structs⟩]
        structs :=
          ⟨built.stored.flatMap encode, built.pointers, built.dependencies⟩ :: built.structs
        rawData := built.rawData, references := built.references
        numbers := items.length :: built.numbers } := by
  funext structs rawData
  exact if_neg (by simpa using h)

end cases

theorem length_stored_elements (single : Nat → α → Plan β) (size index : Nat) (items : List α)
    (structs rawData : Nat) :
    (elements single size index items structs rawData).stored.length = items.length := by
  induction items generalizing index structs rawData with
  | nil => rfl
  | cons item rest ih => exact congrArg (· + 1) (ih _ _ _)

end Plan

/-- What is built for a member at a place. -/
def LeafType.plan (address : Nat → UInt32) (tags : List RegisteredTag) (place : Nat)
    (order : ByteOrder) : (type : LeafType) → type.Value → Plan (type.layout order).Value
  | .plain type, value => .done (type.store .packed order value)
  | .dependency _ _, value =>
    (Plan.dependency tags place value).map (DependencyHandle.store order)
  | .blob selector, value => (Plan.blob address place selector value).map (BlobHandle.store order)

/-- What is built for some members of a struct at a place. -/
def Members.plan (address : Nat → UInt32) (tags : List RegisteredTag) : (members : Members) →
    (place : Nat) → members.Value → Plan (members.layout .packed).Value
  | .nil, _, _ => .done ()
  | .leaf traits type rest, place, value =>
    .andThen Prod.mk
      (type.plan address tags (place + traits.offset) (traits.orderIn .packed) value.1)
      (rest.plan address tags place value.2)
  | .array traits _ _ _ element rest, place, value =>
    .andThen Prod.mk
      ((Plan.array address (place + traits.offset) (element.layout .packed).size
        (element.layout .packed).encode (fun place item => element.plan address tags place item)
        value.1).map (ArrayHandle.store (traits.orderIn .packed)))
      (rest.plan address tags place value.2)

end TagSchema
