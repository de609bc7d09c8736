import Mathlib.Data.List.Forall2
import TagSchema.Proofs.File.Canonical

/-!
# What shows in a tag file

Two values look alike in files if they differ, at every depth, only in members that files leave out,
in flags that only bundles have, and in the identifiers of references. Alike values are written by
the same actions: the fixed parts are the same, and so is what is appended behind them. So they have
the same file, or fail to have one for the same reason, and nothing of what was left out can be
learned from either.
-/

namespace TagSchema

/-! ### Values that look alike -/

/-- Stored as a whole, two values differ at most in flags that only bundles have. -/
def PlainType.Alike : (type : PlainType) → type.Value → type.Value → Prop
  | .bitfield type, (a : (Primitive.ofWidth type.width).Word), b =>
    ∀ i, type.cacheOnlyMask.testBit i = false → a.getLsbD i = BitVec.getLsbD b i
  | .number .., a, b | .enum .., a, b | .index .., a, b | .tagId, a, b | .tagString, a, b
  | .fourCC, a, b | .padding .., a, b => a = b

/-- Two references differ at most in their identifiers. -/
def LeafType.Alike : (type : LeafType) → type.Value → type.Value → Prop
  | .plain type, a, b => type.Alike a b
  | .dependency _ _, (a : Dependency), (b : Dependency) =>
    a.tagClass = b.tagClass ∧ a.path = b.path
  | .blob _, a, b => a = b

/-- Members look alike, at every depth, unless they are only in bundles or unused. -/
def Members.Alike : (members : Members) → members.Value → members.Value → Prop
  | .nil, _, _ => True
  | .leaf traits type rest, a, b =>
    (traits.cacheOnly = false → traits.unused = false → type.Alike a.1 b.1) ∧ rest.Alike a.2 b.2
  | .array traits _ _ _ element rest, a, b =>
    (traits.cacheOnly = false → traits.unused = false → List.Forall₂ element.Alike a.1 b.1) ∧
      rest.Alike a.2 b.2

theorem PlainType.getLsbD_withoutHidden (type : ResolvedBitfield)
    (word : (Primitive.ofWidth type.width).Word) (i : Nat) :
    (withoutHidden type word).getLsbD i = (word.getLsbD i && !type.cacheOnlyMask.testBit i) := by
  rcases Nat.lt_or_ge i (8 * (Primitive.ofWidth type.width).size) with hi | hi
  · simp only [withoutHidden, BitVec.getLsbD_and, BitVec.getLsbD_not, BitVec.getLsbD_ofNat, hi,
      decide_true, Bool.true_and]
  · rw [BitVec.getLsbD_of_ge _ i hi, BitVec.getLsbD_of_ge _ i hi, Bool.false_and]

/-- Flags look alike if they are the same once those that only bundles have are cleared. -/
theorem PlainType.alike_bitfield {type : ResolvedBitfield}
    {a b : (Primitive.ofWidth type.width).Word} :
    (PlainType.bitfield type).Alike a b ↔ withoutHidden type a = withoutHidden type b := by
  constructor
  · intro h
    apply BitVec.eq_of_getLsbD_eq
    intro i _
    rw [getLsbD_withoutHidden, getLsbD_withoutHidden]
    cases hmask : type.cacheOnlyMask.testBit i with
    | true => simp
    | false => rw [h i hmask]
  · intro h i hmask
    have hbit := congrArg (BitVec.getLsbD · i) h
    simpa only [getLsbD_withoutHidden, hmask, Bool.not_false, Bool.and_true] using hbit

/-! ### Telling whether values look alike -/

instance NumberShape.decidableEqValue : (shape : NumberShape) → DecidableEq shape.Value
  | .scalar type => inferInstanceAs (DecidableEq type.Word)
  | .compound type => inferInstanceAs (DecidableEq (Vector type.component.Word type.count))
  | .bounds shape =>
    have := shape.decidableEqValue
    inferInstanceAs (DecidableEq (shape.Value × shape.Value))
  | .array count shape =>
    have := shape.decidableEqValue
    inferInstanceAs (DecidableEq (Vector shape.Value count))

instance PlainType.decidableAlike : (type : PlainType) → (a b : type.Value) →
    Decidable (type.Alike a b)
  | .bitfield _, _, _ => decidable_of_iff _ alike_bitfield.symm
  | .number shape _, a, b => shape.decidableEqValue a b
  | .enum type _, a, b => (inferInstance : DecidableEq (Primitive.ofWidth type.width).Word) a b
  | .index _, a, b => (inferInstance : DecidableEq Primitive.u16.Word) a b
  | .tagId, a, b => (inferInstance : DecidableEq TagId) a b
  | .tagString, a, b => (inferInstance : DecidableEq FixedText) a b
  | .fourCC, a, b => (inferInstance : DecidableEq TagClass) a b
  | .padding _, _, _ => .isTrue rfl

instance LeafType.decidableAlike : (type : LeafType) → (a b : type.Value) →
    Decidable (type.Alike a b)
  | .plain type, a, b => type.decidableAlike a b
  | .dependency _ _, (a : Dependency), (b : Dependency) =>
    inferInstanceAs (Decidable (a.tagClass = b.tagClass ∧ a.path = b.path))
  | .blob _, a, b => (inferInstance : DecidableEq Bytes) a b

instance Members.decidableAlike : (members : Members) → (a b : members.Value) →
    Decidable (members.Alike a b)
  | .nil, _, _ => .isTrue trivial
  | .leaf traits type rest, a, b =>
    have := rest.decidableAlike a.2 b.2
    inferInstanceAs (Decidable ((traits.cacheOnly = false → traits.unused = false →
      type.Alike a.1 b.1) ∧ rest.Alike a.2 b.2))
  | .array traits _ _ _ element rest, a, b =>
    have := element.decidableAlike
    have := rest.decidableAlike a.2 b.2
    inferInstanceAs (Decidable ((traits.cacheOnly = false → traits.unused = false →
      List.Forall₂ element.Alike a.1 b.1) ∧ rest.Alike a.2 b.2))

/-! ### Alike values are written in the same way -/

theorem FieldTraits.isAbsentFromFiles_eq_false {traits : FieldTraits} :
    traits.isAbsentFromFiles = false ↔ traits.cacheOnly = false ∧ traits.unused = false :=
  Bool.or_eq_false_iff

theorem PlainType.store_eq_of_alike (order : ByteOrder) {type : PlainType} {a b : type.Value}
    (h : type.Alike a b) : type.store .file order a = type.store .file order b := by
  cases type with
  | bitfield type => exact alike_bitfield.mp h
  | number | enum | index | tagId | tagString | fourCC | padding =>
    obtain rfl := h
    rfl

namespace LeafType

theorem storeFile_eq_of_alike (order : ByteOrder) {type : LeafType} {a b : type.Value}
    (h : type.Alike a b) : type.storeFile order a = type.storeFile order b := by
  cases type with
  | plain type => exact congrArg Except.ok (PlainType.store_eq_of_alike order h)
  | dependency classes nonNull =>
    obtain ⟨hclass, hpath⟩ := h
    simp only [storeFile, Buffer.dependencyHandle, hclass, hpath]
    rfl
  | blob selector =>
    obtain rfl := h
    rfl

theorem writeFile_eq_of_alike {type : LeafType} {a b : type.Value} (h : type.Alike a b) :
    type.writeFile a = type.writeFile b := by
  cases type with
  | plain type => rfl
  | dependency classes nonNull =>
    obtain ⟨-, hpath⟩ := h
    simp only [writeFile, Buffer.writeDependency, Dependency.isNull, hpath]
    rfl
  | blob selector =>
    obtain rfl := h
    rfl

end LeafType

/-- Arrays of elements that are written in the same way are. -/
theorem Buffer.writeArray_congr {α : Type} {relation : α → α → Prop} (site : Site) (size : Nat)
    {write : Nat → α → Writing Unit}
    (hwrite : ∀ a b, relation a b → ∀ position, write position a = write position b)
    {first second : List α} (h : List.Forall₂ relation first second) :
    writeArray site size write first = writeArray site size write second := by
  have helements : ∀ index position, writeElements site size write index position first =
      writeElements site size write index position second := by
    induction h with
    | nil =>
      intro index position
      rfl
    | cons hab hrest ih =>
      intro index position
      rw [writeElements, writeElements, hwrite _ _ hab position, ih]
  unfold writeArray
  rw [h.length_eq]
  simp only [helements]

namespace Members

theorem storeFile_eq_of_alike {members : Members} {a b : members.Value} (h : members.Alike a b) :
    members.storeFile a = members.storeFile b := by
  induction members with
  | nil => rfl
  | leaf traits type rest ih =>
    obtain ⟨hfirst, hrest⟩ := h
    simp only [storeFile, ih hrest]
    cases habsent : traits.isAbsentFromFiles with
    | true => rfl
    | false =>
      obtain ⟨hcache, hunused⟩ := FieldTraits.isAbsentFromFiles_eq_false.mp habsent
      rw [LeafType.storeFile_eq_of_alike _ (hfirst hcache hunused)]
  | array traits limits name title element rest ihElement ih =>
    obtain ⟨hfirst, hrest⟩ := h
    simp only [storeFile, ih hrest]
    cases habsent : traits.isAbsentFromFiles with
    | true => rfl
    | false =>
      obtain ⟨hcache, hunused⟩ := FieldTraits.isAbsentFromFiles_eq_false.mp habsent
      rw [(hfirst hcache hunused).length_eq]

/-- Nothing is appended for members that files leave out, and the same for those that look alike. -/
theorem writeFile_eq_of_alike (owner : String) {members : Members} {a b : members.Value}
    (h : members.Alike a b) : members.writeFile owner a = members.writeFile owner b := by
  induction members generalizing owner with
  | nil => rfl
  | leaf traits type rest ih =>
    obtain ⟨hfirst, hrest⟩ := h
    simp only [writeFile, ih owner hrest]
    -- Only a member that is written has to be the same on both sides.
    cases habsent : traits.isAbsentFromFiles with
    | true => rfl
    | false =>
      obtain ⟨hcache, hunused⟩ := FieldTraits.isAbsentFromFiles_eq_false.mp habsent
      rw [LeafType.writeFile_eq_of_alike (hfirst hcache hunused)]
  | array traits limits name title element rest ihElement ih =>
    obtain ⟨hfirst, hrest⟩ := h
    simp only [writeFile, ih owner hrest]
    cases habsent : traits.isAbsentFromFiles with
    | true => rfl
    | false =>
      obtain ⟨hcache, hunused⟩ := FieldTraits.isAbsentFromFiles_eq_false.mp habsent
      rw [Buffer.writeArray_congr (traits.site owner) (element.layout .file).size
        (fun item other hitem position => ?_) (hfirst hcache hunused)]
      rw [storeFile_eq_of_alike hitem, ihElement name hitem]

end Members

/-- **Files keep what only bundles have to themselves.** Values that look alike in files have the
same file of every class, header and checksum included, or neither has one, for the same reason. -/
theorem generateFile_eq_of_alike (type : StructType) {a b : type.Value}
    (h : type.members.Alike a b) (tagClass : TagClass) :
    type.generateFile tagClass a = type.generateFile tagClass b := by
  have hwrite : type.writeFile 0 a = type.writeFile 0 b := by
    unfold StructType.writeFile
    rw [Members.storeFile_eq_of_alike h, Members.writeFile_eq_of_alike type.name h]
  unfold StructType.generateFile StructType.generateBody
  rw [hwrite]

/-- The value that is read from a body, after some changes of its members. -/
def StructType.readChanged (type : StructType) (body : Bytes) (changes : List (String × Edit)) :
    Option type.Value :=
  match (type.readBody false body).1 with
  | .error _ => none
  | .ok value => changes.foldlM
    (fun value (identifier, change) => (type.members.edit identifier change value).toOption) value

/-- The jeep with the given byte as its type, with the given flags, and with a model of the given
identifier. -/
def Catalog.jeepWith (objectType : UInt8) (flags : Nat) (id : TagId) : Option vehicle.Value :=
  vehicle.readChanged (jeep.set 1 objectType) [("flags", .setWord flags),
    ("model", .setDependency ⟨⟨0x6D6F6465⟩, "vehicles\\jeep", id⟩)]

open Catalog in
/-- The jeep of a bundle, which has a type, the flag that its builder sets and an identifier, has
the same file as the one without them. -/
theorem generateFile_eq_of_alike_jeep :
    ∃ a b, jeepWith 2 0x001F ⟨0xE1740000⟩ = some a ∧ jeepWith 0 0x000F .null = some b ∧
      vehicle.members.Alike a b ∧
      vehicle.generateFile ⟨0x76656869⟩ a = vehicle.generateFile ⟨0x76656869⟩ b := by
  have halike : ∃ a ∈ jeepWith 2 0x001F ⟨0xE1740000⟩, ∃ b ∈ jeepWith 0 0x000F .null,
      vehicle.members.Alike a b := by
    decide +kernel
  obtain ⟨a, ha, b, hb, h⟩ := halike
  exact ⟨a, b, ha, hb, h, generateFile_eq_of_alike vehicle h ⟨0x76656869⟩⟩

end TagSchema
