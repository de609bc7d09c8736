import Mathlib.Data.List.Basic
import TagSchema.Handle
import TagSchema.Proofs.Overwriting

/-!
# Layouts are read back

The encoding of a value takes exactly the size of its layout, and decoding looks at nothing behind
it. So decoding what was encoded gives the value again, whatever follows.
-/

namespace TagSchema

/-! ### Runs of equal length -/

/-- Pieces of the same length, one after the other. -/
theorem length_flatMap_of_length_eq {α β : Type} {f : α → List β} {size : Nat}
    (h : ∀ a, (f a).length = size) (items : List α) :
    (items.flatMap f).length = items.length * size := by
  induction items with
  | nil => simp
  | cons a rest ih =>
    rw [List.flatMap_cons, List.length_append, h, ih, List.length_cons, Nat.add_mul, Nat.one_mul,
      Nat.add_comm]

/-- Behind the first `i` runs comes the next one. -/
theorem drop_flatMap_append {α : Type} {f : α → Bytes} {size : Nat}
    (h : ∀ a, (f a).length = size) (items : List α) (i : Nat) (hi : i < items.length)
    (tail : Bytes) :
    (items.flatMap f ++ tail).drop (i * size) =
      f items[i] ++ ((items.drop (i + 1)).flatMap f ++ tail) := by
  have hsplit : items = items.take i ++ items[i] :: items.drop (i + 1) := by simp
  have hlen : ((items.take i).flatMap f).length = i * size := by
    rw [length_flatMap_of_length_eq h, List.length_take, Nat.min_eq_left (Nat.le_of_lt hi)]
  conv_lhs => rw [hsplit]
  rw [List.flatMap_append, List.flatMap_cons, List.append_assoc, ← hlen, List.drop_left,
    List.append_assoc]

/-! ### Words -/

namespace Primitive

@[simp] theorem length_encode (type : Primitive) (order : ByteOrder) (word : type.Word) :
    (type.encode order word).length = type.size := by
  cases order <;> simp [encode]

/-- A word is as large as its bytes allow. -/
theorem toNat_lt_shift (type : Primitive) (word : type.Word) :
    word.toNat < 1 <<< (8 * type.size) := by
  rw [Nat.shiftLeft_eq, Nat.one_mul]
  exact word.isLt

/-- A word is read back from its bytes, whatever follows them. -/
theorem decode_encode_append (type : Primitive) (order : ByteOrder) (word : type.Word)
    (tail : Bytes) : type.decode order (type.encode order word ++ tail) = word := by
  have htake : (type.encode order word ++ tail).take type.size = type.encode order word := by
    rw [List.take_left' (type.length_encode order word)]
  have hdigits := Bytes.toNatLittle_ofNatLittle type.size word.toNat (type.toNat_lt_shift word)
  unfold decode
  rw [htake]
  cases order <;> simp [encode, hdigits]

/-- One of some words that are stored one after another. -/
theorem take_drop_words (words : List u32.Word) (i : Nat) (hi : i < words.length) :
    ((words.flatMap (u32.encode .little)).drop (i * 4)).take 4 = u32.encode .little words[i] := by
  have front := drop_flatMap_append (u32.length_encode .little) words i hi []
  rw [List.append_nil] at front
  exact (congrArg (List.take 4) front).trans (List.take_left' (u32.length_encode .little _))

/-- Writing over one of some words that are stored one after another. -/
theorem overwrite_words (words : List u32.Word) (i : Nat) (hi : i < words.length)
    (word : u32.Word) :
    Bytes.overwrite (words.flatMap (u32.encode .little)) (i * 4) (u32.encode .little word) =
      (words.set i word).flatMap (u32.encode .little) := by
  have split : words = words.take i ++ words[i] :: words.drop (i + 1) := by simp
  have front : ((words.take i).flatMap (u32.encode .little)).length = i * 4 := by
    rw [length_flatMap_of_length_eq (u32.length_encode .little), List.length_take,
      Nat.min_eq_left (Nat.le_of_lt hi)]
    rfl
  have middle := Bytes.overwrite_middle ((words.take i).flatMap (u32.encode .little))
    (u32.encode .little words[i]) ((words.drop (i + 1)).flatMap (u32.encode .little))
    (u32.encode .little word) ((u32.length_encode _ _).trans (u32.length_encode _ _).symm)
  conv_lhs => rw [split]
  rw [List.flatMap_append, List.flatMap_cons, ← front, middle, List.set_eq_take_append_cons_drop,
    if_pos hi, List.flatMap_append, List.flatMap_cons]

end Primitive

namespace FixedText

/-- A fixed text is read back from its bytes, whatever follows them. -/
theorem ofBytes_bytes_append (text : FixedText) (tail : Bytes) :
    ofBytes (text.bytes ++ tail) = text := by
  have hlen := text.length_bytes
  cases text with
  | mk bytes _ =>
    simp only [ofBytes, FixedText.mk.injEq] at hlen ⊢
    rw [List.take_left' hlen, List.length_append, hlen]
    simp [Bytes.zeros]

end FixedText

/-! ### Layouts -/

namespace Layout

/-- An array takes the bytes of its elements. -/
theorem length_encode_array {count : Nat} {element : Layout}
    (h : ∀ value, (element.encode value).length = element.size)
    (value : Vector element.Value count) :
    ((array count element).encode value).length = count * element.size := by
  change (value.toList.flatMap element.encode).length = _
  rw [length_flatMap_of_length_eq h, Vector.length_toList]

@[simp] theorem length_encode (layout : Layout) (value : layout.Value) :
    (layout.encode value).length = layout.size := by
  induction layout with
  | word order type => exact type.length_encode order value
  | array count element ih => exact length_encode_array ih value
  | text => exact value.length_bytes
  | padding count => exact Bytes.length_zeros count
  | seq first second ih₁ ih₂ => simp [encode, size, ih₁, ih₂]

theorem decode_encode_append_array {count : Nat} {element : Layout}
    (h : ∀ value tail, element.decode (element.encode value ++ tail) = value)
    (value : Vector element.Value count) (tail : Bytes) :
    (array count element).decode ((array count element).encode value ++ tail) = value := by
  change (Vector.ofFn fun i : Fin count => element.decode
    ((value.toList.flatMap element.encode ++ tail).drop (i * element.size))) = value
  refine Vector.ext fun i hi => ?_
  rw [Vector.getElem_ofFn, drop_flatMap_append (length_encode element) _ i (by simpa using hi), h]
  exact Vector.getElem_toList _

/-- Decoding is a left inverse of encoding, whatever bytes follow. -/
theorem decode_encode_append (layout : Layout) (value : layout.Value) (tail : Bytes) :
    layout.decode (layout.encode value ++ tail) = value := by
  induction layout generalizing tail with
  | word order type => exact type.decode_encode_append order value tail
  | array count element ih => exact decode_encode_append_array ih value tail
  | text => exact FixedText.ofBytes_bytes_append value tail
  | padding count => rfl
  | seq first second ih₁ ih₂ =>
    rw [decode, encode, List.append_assoc, ih₁,
      List.drop_left' (first.length_encode value.1), ih₂]
    rfl

/-- A value is read back from its bytes. -/
theorem decode_encode (layout : Layout) (value : layout.Value) :
    layout.decode (layout.encode value) = value := by
  simpa using layout.decode_encode_append value []

end Layout

/-! ### Decoding looks at nothing behind -/

theorem Primitive.decode_append (type : Primitive) (order : ByteOrder) {bytes : Bytes}
    (h : type.size ≤ bytes.length) (tail : Bytes) :
    type.decode order (bytes ++ tail) = type.decode order bytes := by
  unfold decode
  rw [List.take_append_of_le_length h]

theorem FixedText.ofBytes_append {bytes : Bytes} (h : 32 ≤ bytes.length) (tail : Bytes) :
    ofBytes (bytes ++ tail) = ofBytes bytes := by
  have full (data : Bytes) (h : 32 ≤ data.length) : Bytes.zeros (32 - data.length) = [] := by
    rw [Nat.sub_eq_zero_of_le h]
    rfl
  have long : 32 ≤ (bytes ++ tail).length := by
    rw [List.length_append]
    exact Nat.le_add_right_of_le h
  rw [ofBytes, ofBytes, FixedText.mk.injEq, full _ h, full _ long, List.take_append_of_le_length h]

/-- What lies behind the bytes of a layout is not looked at. -/
theorem Layout.decode_append (layout : Layout) {bytes : Bytes} (h : layout.size ≤ bytes.length)
    (tail : Bytes) : layout.decode (bytes ++ tail) = layout.decode bytes := by
  induction layout generalizing bytes with
  | word order type => exact type.decode_append order h tail
  | array count element ih =>
    refine Vector.ext fun i inside => ?_
    -- An element ends at the end of the array at the latest, and so within the first bytes.
    have reached := Nat.mul_le_mul_right element.size (show i + 1 ≤ count from inside)
    have whole : count * element.size ≤ bytes.length := h
    rw [Nat.succ_mul] at reached
    change (Vector.ofFn fun i : Fin count => _)[i] = (Vector.ofFn fun i : Fin count => _)[i]
    rw [Vector.getElem_ofFn, Vector.getElem_ofFn,
      List.drop_append_of_le_length (by dsimp only; omega)]
    exact ih (by rw [List.length_drop]; dsimp only; omega)
  | text => exact FixedText.ofBytes_append h tail
  | padding count => rfl
  | seq first second ih₁ ih₂ =>
    have whole : first.size + second.size ≤ bytes.length := h
    rw [decode, decode, ih₁ (by omega), List.drop_append_of_le_length (by omega),
      ih₂ (by rw [List.length_drop]; omega)]

end TagSchema
