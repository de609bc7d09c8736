import TagSchema.Proofs.Bundle.Steps

/-!
# Properties of whole builds

What a build does for a tag is put together from a few steps. A property of actions that the steps
have and that sequencing keeps is a property of the whole build (`BuildProperty.compileTag`), at
whatever depth an element is built.
-/

namespace TagSchema

/-- A property of actions that the steps of a build for a tag have. A struct has it if what its
handles stand for has it. -/
structure BuildProperty (tag : Nat) (P : (α : Type) → Building α → Prop) : Prop where
  pure {α : Type} (a : α) : P α (pure a)
  bind {α β : Type} {m : Building α} {f : α → Building β} (first : P α m)
    (next : ∀ a, P β (f a)) : P β (m >>= f)
  inElement {m : Building Unit} (site : Site) (index : Nat) (inside : P Unit m) :
    P Unit (ExceptT.adapt (.element .compile site index) m)
  countWord (what : String) (length : Nat) :
    P UInt32 (liftM (TagSchema.countWord what length) : Building UInt32)
  addStruct (data : Bytes) : P Nat (Workload.addStruct data)
  addPointer (owner offset target : Nat) : P Unit (Workload.addPointer owner offset target)
  addDependency (owner offset target : Nat) : P Unit (Workload.addDependency owner offset target)
  register (path : String) (tagClass : TagClass) : P Nat (Workload.register path tagClass)
  addRawData (data : Bytes) : P UInt32 (Workload.addRawData data)
  fail (site : Site) (violation : Violation) : P Unit (Workload.fail tag site violation)
  warn (stock length : Nat) (message : String) : P Unit (get >>= fun w =>
    if w.options.checkStockLimits ∧ stock < length then
      Workload.report .warning (some tag) message else Pure.pure ())
  compileAt (layout : Layout) (struct offset : Nat) (owner : String) (stack : ContainmentStack)
    (members : Members) (value : members.Value) {handles : Building layout.Value}
    (handled : P layout.Value handles) :
    P Unit (TagSchema.compileAt layout struct offset (members.check tag owner stack value) handles)

namespace BuildProperty

variable {tag : Nat} {P : (α : Type) → Building α → Prop} {α : Type}

theorem checkCount (law : BuildProperty tag P) (site : Site) (minimum maximum : Nat)
    (stockMaximum : Option Nat) (length : Nat) :
    P Unit (Workload.checkCount tag site minimum maximum stockMaximum length) := by
  unfold Workload.checkCount
  -- What follows the check of the maximum, and what follows that of the minimum.
  extract_lets stock most
  have stocked : ∀ r, P Unit (stock r) := by
    intro r
    dsimp only [stock]
    cases stockMaximum with
    | none => exact law.pure ()
    | some limit => exact law.warn limit length _
  have counted : ∀ r, P Unit (most r) := by
    intro r
    dsimp only [most]
    split
    · exact law.bind (law.fail _ _) stocked
    · exact stocked ()
  split
  · exact law.bind (law.fail _ _) counted
  · exact counted ()

/-! ### Handles -/

theorem compileDependency (law : BuildProperty tag P) (struct offset : Nat) (site : Site)
    (classes : List TagClass) (nonNull : Bool) (d : Dependency) :
    P DependencyHandle
      (Workload.compileDependency tag struct offset site classes nonNull d) := by
  unfold Workload.compileDependency
  have registered : P DependencyHandle (do
      let index ← Workload.register d.path d.tagClass
      Workload.addDependency struct offset index
      return { tagClass := d.tagClass, id := .ofIndex index }) :=
    law.bind (law.register _ _) fun _ => law.bind (law.addDependency _ _ _) fun _ => law.pure _
  split
  · cases nonNull with
    | false => exact law.pure _
    | true => exact law.bind (law.fail _ _) fun _ => law.pure _
  · split
    · exact law.bind (law.fail _ _) fun _ => registered
    · exact registered

theorem compileBlob (law : BuildProperty tag P) (struct offset : Nat) (selector : BlobSelector)
    (data : Bytes) : P BlobHandle (Workload.compileBlob struct offset selector data) := by
  unfold Workload.compileBlob
  refine law.bind (law.countWord _ _) fun size => ?_
  split
  · exact law.pure _
  · split
    · exact law.bind (law.addStruct _) fun blob =>
        law.bind (law.addPointer _ _ _) fun _ => law.pure _
    · exact law.bind (law.addRawData _) fun _ => law.pure _
    · exact law.bind (law.addRawData _) fun _ => law.pure _

theorem compileElements (law : BuildProperty tag P) {compile : Nat → α → Building Unit}
    (site : Site) (size : Nat) (single : ∀ offset item, P Unit (compile offset item)) (index : Nat)
    (items : List α) : P Unit (Workload.compileElements site size compile index items) := by
  induction items generalizing index with
  | nil => exact law.pure ()
  | cons item rest ih =>
    exact law.bind (law.inElement site index (single _ item)) fun _ => ih (index + 1)

theorem compileArray (law : BuildProperty tag P) {compile : Nat → Nat → α → Building Unit}
    (struct offset : Nat) (site : Site) (size : Nat)
    (single : ∀ array offset item, P Unit (compile array offset item)) (items : List α) :
    P ArrayHandle (Workload.compileArray struct offset site size compile items) := by
  unfold Workload.compileArray
  refine law.bind (law.countWord _ _) fun count => ?_
  cases items with
  | nil => exact law.pure _
  | cons item rest =>
    refine law.bind (law.addStruct _) fun array => law.bind (law.addPointer _ _ _) fun _ => ?_
    exact law.bind (law.compileElements site size (single array) 0 (item :: rest)) fun _ =>
      law.pure _

/-! ### Structs -/

theorem compileLeaf (law : BuildProperty tag P) (type : LeafType) (struct offset : Nat)
    (order : ByteOrder) (site : Site) (value : type.Value) :
    P (type.layout order).Value (type.compile tag struct offset order site value) := by
  cases type with
  | plain type => exact law.pure _
  | dependency classes nonNull =>
    exact law.bind (law.compileDependency _ _ _ _ _ _) fun _ => law.pure _
  | blob selector => exact law.bind (law.compileBlob _ _ _ _) fun _ => law.pure _

theorem compileMembers (law : BuildProperty tag P) (members : Members) (owner : String)
    (stack : ContainmentStack) (struct offset : Nat) (value : members.Value) :
    P (members.layout .packed).Value
      (members.compile tag owner stack struct offset value) := by
  induction members generalizing owner stack struct offset with
  | nil => exact law.pure ()
  | leaf traits type rest ih =>
    refine law.bind (law.compileLeaf type _ _ _ _ _) fun stored => ?_
    exact law.bind (ih owner stack struct offset value.2) fun others => law.pure _
  | array traits limits name title element rest ihElement ih =>
    refine law.bind (law.checkCount _ _ _ _ _) fun _ => ?_
    refine law.bind (law.compileArray _ _ _ _ (fun array position item => ?_) _) fun handle => ?_
    · exact law.compileAt _ _ _ _ _ element item (ihElement _ _ _ _ item)
    · exact law.bind (ih owner stack struct offset value.2) fun others => law.pure _

/-- What the steps of a build have, the build of a whole value has. -/
theorem compileTag (law : BuildProperty tag P) (type : StructType) (value : type.Value) :
    P Nat (type.compileTag tag value) := by
  refine law.bind (law.addStruct _) fun struct => law.bind ?_ fun _ => law.pure _
  exact law.compileAt _ _ _ _ _ type.members value (law.compileMembers _ _ _ _ _ value)

end BuildProperty

end TagSchema
