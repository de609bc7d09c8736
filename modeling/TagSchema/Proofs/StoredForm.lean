import TagSchema.Proofs.LayoutCodec
import TagSchema.Struct.Type

/-!
# Stored members are loaded back

What a member becomes when it is stored in a layout and loaded again: numbers, enums, indices and
texts stay as they are, flags that are not kept are dropped, and identifiers become null. A layout
full of zeros holds the value that was never set.
-/

namespace TagSchema

/-! ### Zeros -/

namespace Bytes

theorem take_zeros (n m : Nat) (h : n ≤ m) : (zeros m).take n = zeros n := by
  rw [zeros, List.take_replicate, Nat.min_eq_left h]
  rfl

theorem drop_zeros (n m : Nat) : (zeros m).drop n = zeros (m - n) := by
  rw [zeros, List.drop_replicate]
  rfl

@[simp] theorem reverse_zeros (n : Nat) : List.reverse (zeros n) = zeros n := by
  rw [zeros, List.reverse_replicate]

@[simp] theorem toNatLittle_zeros (n : Nat) : toNatLittle (zeros n) = 0 := by
  induction n with
  | zero => rfl
  | succ n ih =>
    change (0 : UInt8).toNat + 256 * toNatLittle (zeros n) = 0
    rw [ih]
    rfl

end Bytes

theorem Primitive.decode_zeros (type : Primitive) (order : ByteOrder) {n : Nat}
    (h : type.size ≤ n) : type.decode order (Bytes.zeros n) = 0 := by
  unfold decode
  rw [Bytes.take_zeros _ _ h]
  cases order <;> simp

/-- A run of words that are all zero. -/
theorem Layout.decode_zeros_words (order : ByteOrder) (type : Primitive) (count : Nat) {n : Nat}
    (h : count * type.size ≤ n) :
    (words order type count).decode (Bytes.zeros n) =
      (Vector.replicate count 0 : Vector type.Word count) := by
  refine Vector.ext fun i hi => ?_
  have hsize : (i + 1) * type.size ≤ count * type.size := Nat.mul_le_mul_right _ hi
  rw [Nat.add_mul, Nat.one_mul] at hsize
  change (Vector.ofFn fun j : Fin count => type.decode order
    ((Bytes.zeros n).drop (j * type.size)))[i] = (Vector.replicate count (0 : type.Word))[i]
  rw [Vector.getElem_ofFn, Vector.getElem_replicate, Bytes.drop_zeros]
  exact type.decode_zeros order (by dsimp only; omega)

namespace NumberShape

theorem load_store_array {order : ByteOrder} {s : NumberShape}
    (h : ∀ value, s.load order (s.store order value) = value) {count : Nat}
    (value : Vector s.Value count) : (value.map (s.store order)).map (s.load order) = value := by
  refine Vector.ext fun i hi => ?_
  rw [Vector.getElem_map, Vector.getElem_map, h]

/-- A value stored in a layout is loaded back. -/
theorem load_store (order : ByteOrder) (s : NumberShape) (value : s.Value) :
    s.load order (s.store order value) = value := by
  induction s with
  | scalar type => rfl
  | compound type => rfl
  | bounds s ih => exact Prod.ext (ih value.1) (ih value.2)
  | array count s ih => exact load_store_array ih value

/-- Zeros hold the value with all bits zero. -/
theorem load_decode_zeros (order : ByteOrder) (s : NumberShape) {n : Nat}
    (h : (s.layout order).size ≤ n) :
    s.load order ((s.layout order).decode (Bytes.zeros n)) = s.zero := by
  -- Each part of a number is read from the zeros that are left behind the parts before it.
  induction s generalizing n with
  | scalar type => exact type.decode_zeros order h
  | compound type => exact Layout.decode_zeros_words order type.component type.count h
  | bounds s ih =>
    have hsize : 2 * (s.layout order).size ≤ n := h
    have hpart (i : Nat) (hi : i < 2) : s.load order ((s.layout order).decode
        ((Bytes.zeros n).drop (i * (s.layout order).size))) = s.zero := by
      have hend := Nat.mul_le_mul_right (s.layout order).size hi
      rw [Nat.succ_mul] at hend
      rw [Bytes.drop_zeros]
      exact ih (by omega)
    exact Prod.ext (hpart 0 (by decide)) (hpart 1 (by decide))
  | array count s ih =>
    refine Vector.ext fun i hi => ?_
    have hcount : count * (s.layout order).size ≤ n := h
    have hsize : (i + 1) * (s.layout order).size ≤ count * (s.layout order).size :=
      Nat.mul_le_mul_right _ hi
    rw [Nat.add_mul, Nat.one_mul] at hsize
    change ((Vector.ofFn fun j : Fin count => (s.layout order).decode
      ((Bytes.zeros n).drop (j * (s.layout order).size))).map (s.load order))[i] =
      (Vector.replicate count s.zero)[i]
    rw [Vector.getElem_map, Vector.getElem_ofFn, Vector.getElem_replicate, Bytes.drop_zeros]
    exact ih (by dsimp only; omega)

end NumberShape

/-! ### Handles -/

/-- A class is restored once. -/
theorem Dependency.restoreClass_restoreClass (default : Option TagClass) (tagClass : TagClass) :
    restoreClass default (restoreClass default tagClass) = restoreClass default tagClass := by
  unfold restoreClass
  split
  · split <;> rfl
  · rfl

theorem DependencyHandle.load_store (order : ByteOrder) (handle : DependencyHandle) :
    load order (handle.store order) = handle := rfl

theorem ArrayHandle.load_store (order : ByteOrder) (handle : ArrayHandle) :
    load order (handle.store order) = handle := rfl

theorem BlobHandle.load_store (order : ByteOrder) (handle : BlobHandle) :
    load order (handle.store order) = handle := rfl

theorem ArrayHandle.load_zero (order : ByteOrder) :
    load order (Layout.reflexive order).zero = ⟨0, 0, 0⟩ :=
  congrArg (load order) (Layout.decode_zeros_words order .u32 3 (Nat.le_refl _))

theorem BlobHandle.load_zero (order : ByteOrder) :
    load order (Layout.blob order).zero = ⟨0, 0, 0, 0, 0⟩ :=
  congrArg (load order) (Layout.decode_zeros_words order .u32 5 (Nat.le_refl _))

/-! ### Plain members -/

namespace PlainType

/-- What a form keeps of a member that is stored as a whole: of a bitfield the flags that are
defined, but in tag files not those that only bundles have; of an identifier nothing. -/
def kept (form : Form) : (type : PlainType) → type.Value → type.Value
  | .bitfield type, (word : (Primitive.ofWidth type.width).Word) =>
    match form with
    | .file => word &&& BitVec.ofNat _ type.fullMask &&& ~~~(BitVec.ofNat _ type.cacheOnlyMask)
    | .packed => word &&& BitVec.ofNat _ type.fullMask
  | .tagId, _ => TagId.null
  | .number _ _, value | .enum _ _, value | .index _, value | .tagString, value | .fourCC, value
  | .padding _, value => value

/-- Hidden flags are cleared when a word is stored and once more when it is loaded. -/
theorem withoutHidden_withoutHidden (type : ResolvedBitfield)
    (word mask : (Primitive.ofWidth type.width).Word) :
    withoutHidden type (withoutHidden type word &&& mask) = withoutHidden type (word &&& mask) := by
  unfold withoutHidden
  rw [BitVec.and_assoc word, BitVec.and_comm _ mask, ← BitVec.and_assoc word, BitVec.and_assoc,
    BitVec.and_self]

/-- What is loaded is what the form keeps of what was stored. -/
theorem load_store (form : Form) (order : ByteOrder) (type : PlainType) (value : type.Value) :
    type.load form order (type.store form order value) = type.kept form value := by
  cases type with
  | number shape rule => exact shape.load_store order value
  | bitfield type =>
    cases form with
    | file => exact withoutHidden_withoutHidden type value _
    | packed => rfl
  | enum | index | tagId | tagString | fourCC | padding => rfl

/-- Flags that were dropped are not there any more. -/
theorem kept_load (order : ByteOrder) (type : PlainType)
    (stored : (type.layout order).Value) :
    type.kept .file (type.load .file order stored) = type.load .file order stored := by
  cases type with
  | bitfield type =>
    have twice (word mask : (Primitive.ofWidth type.width).Word) :
        word &&& mask &&& mask = word &&& mask := by rw [BitVec.and_assoc, BitVec.and_self]
    exact (withoutHidden_withoutHidden type _ _).trans
      (congrArg (withoutHidden type) (twice stored _))
  | number | enum | index | tagId | tagString | fourCC | padding => rfl

/-- Zeros hold the member that was never set. -/
theorem load_zero (form : Form) (order : ByteOrder) (type : PlainType) :
    type.load form order (type.layout order).zero = type.zero := by
  cases type with
  | number shape rule => exact shape.load_decode_zeros order (Nat.le_refl _)
  | enum type shifted => exact (Primitive.ofWidth type.width).decode_zeros order (Nat.le_refl _)
  | bitfield type =>
    have h := (Primitive.ofWidth type.width).decode_zeros order (Nat.le_refl _)
    cases form <;> simp only [load, layout, Layout.zero, Layout.decode, Layout.size, h, zero]
    · exact (congrArg (withoutHidden type) BitVec.zero_and).trans BitVec.zero_and
    · exact BitVec.zero_and
  | index target => exact Primitive.u16.decode_zeros order (Nat.le_refl _)
  | tagId => rfl
  | tagString => rfl
  | fourCC =>
    exact congrArg (fun word : BitVec 32 => (⟨⟨word⟩⟩ : TagClass))
      (Primitive.u32.decode_zeros order (Nat.le_refl _))
  | padding => rfl

end PlainType

end TagSchema
