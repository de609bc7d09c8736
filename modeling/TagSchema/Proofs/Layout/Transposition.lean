import Mathlib.Algebra.GroupWithZero.Nat
import TagSchema.Proofs.Layout.Padding

/-!
# The other byte order

A value of a layout is one of the opposite layout, too: its words keep all their bits, those of a
NaN included, and its bytes are the same with each word reversed (`Layout.encode_transpose`). Doing
so twice gives the value again. With what is known of reading and writing, these are the laws on
which everything stored rests (`Layout.codec_laws`).
-/

namespace TagSchema

/-! ### Bytes that are reversed in parts -/

namespace Bytes

/-- The bytes with each of the parts of the given lengths reversed. -/
def reverseParts : List Nat → Bytes → Bytes
  | [], bytes => bytes
  | length :: rest, bytes => (bytes.take length).reverse ++ reverseParts rest (bytes.drop length)

variable {bytes : Bytes} {n : Nat}

/-- Parts are reversed one by one, each in its own bytes. -/
theorem reverseParts_append {parts : List Nat} (h : bytes.length = parts.sum) (parts' : List Nat)
    (bytes' : Bytes) :
    reverseParts (parts ++ parts') (bytes ++ bytes') =
      reverseParts parts bytes ++ reverseParts parts' bytes' := by
  induction parts generalizing bytes with
  | nil =>
    obtain rfl := List.length_eq_zero_iff.mp h
    rfl
  | cons length rest ih =>
    rw [List.sum_cons] at h
    have behind : (bytes.drop length).length = rest.sum := by
      rw [List.length_drop]
      omega
    rw [List.cons_append, reverseParts, reverseParts, List.take_append_of_le_length (by omega),
      List.drop_append_of_le_length (by omega), ih behind, List.append_assoc]

theorem reverseParts_single (h : bytes.length = n) : reverseParts [n] bytes = bytes.reverse := by
  rw [reverseParts, reverseParts, ← h, List.take_length, List.drop_length, List.append_nil]

theorem reverseParts_ones (h : bytes.length = n) :
    reverseParts (List.replicate n 1) bytes = bytes := by
  subst h
  induction bytes with
  | nil => rfl
  | cons byte rest ih => exact congrArg (byte :: ·) ih

end Bytes

/-! ### One transposition -/

theorem ByteOrder.opposite_opposite (order : ByteOrder) : order.opposite.opposite = order := by
  cases order <;> rfl

theorem Primitive.encode_opposite (type : Primitive) (order : ByteOrder) (word : type.Word) :
    type.encode order.opposite word = (type.encode order word).reverse := by
  cases order <;> simp [encode, ByteOrder.opposite]

namespace Layout

/-- The lengths of the parts of the run that keep their places in either byte order: words, and
single bytes of texts and padding. -/
def parts : Layout → List Nat
  | .word _ type => [type.size]
  | .array count element => (List.replicate count element.parts).flatten
  | .text => List.replicate 32 1
  | .padding count => List.replicate count 1
  | .seq first second => first.parts ++ second.parts

/-- The parts of a layout are as long as the layout. -/
theorem sum_parts (layout : Layout) : layout.parts.sum = layout.size := by
  induction layout with
  | word order type => exact List.sum_singleton
  | array count element ih => simp [parts, size, List.sum_flatten, ih]
  | text | padding => simp [parts, size]
  | seq first second ih₁ ih₂ => simp [parts, size, ih₁, ih₂]

/-- Items are transposed one by one. -/
theorem encode_transpose_items {element : Layout}
    (h : ∀ value, element.opposite.encode (element.transpose value) =
      Bytes.reverseParts element.parts (element.encode value)) (items : List element.Value) :
    (items.map element.transpose).flatMap element.opposite.encode =
      Bytes.reverseParts (List.replicate items.length element.parts).flatten
        (items.flatMap element.encode) := by
  induction items with
  | nil => rfl
  | cons item rest ih =>
    have whole : (element.encode item).length = element.parts.sum := by
      rw [length_encode, sum_parts]
    rw [List.map_cons, List.flatMap_cons, List.flatMap_cons, List.length_cons,
      List.replicate_succ, List.flatten_cons, Bytes.reverseParts_append whole, h, ih]

/-- In the other byte order the bytes of each word are reversed, and all others stay. -/
theorem encode_transpose (layout : Layout) (value : layout.Value) :
    layout.opposite.encode (layout.transpose value) =
      Bytes.reverseParts layout.parts (layout.encode value) := by
  -- A word is reversed as a whole; texts and padding are bytes, which stay in order.
  induction layout with
  | word order type =>
    exact (type.encode_opposite order value).trans
      (Bytes.reverseParts_single (type.length_encode order value)).symm
  | array count element ih =>
    have items (value : Vector element.Value count) :
        (value.map element.transpose).toList.flatMap element.opposite.encode =
          Bytes.reverseParts (List.replicate count element.parts).flatten
            (value.toList.flatMap element.encode) := by
      rw [Vector.toList_map, encode_transpose_items ih, Vector.length_toList]
    exact items value
  | text => exact (Bytes.reverseParts_ones (length_encode .text value)).symm
  | padding count => exact (Bytes.reverseParts_ones (length_encode (.padding count) value)).symm
  | seq first second ih₁ ih₂ =>
    have whole : (first.encode value.1).length = first.parts.sum := by
      rw [length_encode, sum_parts]
    exact (congrArg₂ (· ++ ·) (ih₁ value.1) (ih₂ value.2)).trans
      (Bytes.reverseParts_append whole _ _).symm

/-- Every word stands for the same number in the other byte order. -/
theorem numbers_transpose (layout : Layout) (value : layout.Value) :
    layout.opposite.numbers (layout.transpose value) = layout.numbers value := by
  induction layout with
  | word | text | padding => rfl
  | array count element ih =>
    have items (value : Vector element.Value count) :
        (value.map element.transpose).toList.flatMap element.opposite.numbers =
          value.toList.flatMap element.numbers := by
      rw [Vector.toList_map, List.flatMap_map]
      exact List.flatMap_congr fun item _ => ih item
    exact items value
  | seq first second ih₁ ih₂ => exact congrArg₂ (· ++ ·) (ih₁ value.1) (ih₂ value.2)

/-! ### And back -/

/-- The opposite of the opposite order is the order itself. -/
theorem opposite_opposite (layout : Layout) : layout.opposite.opposite = layout := by
  induction layout with
  | word order type => exact congrArg (word · type) order.opposite_opposite
  | array count element ih => exact congrArg (array count) ih
  | text | padding => rfl
  | seq first second ih₁ ih₂ => exact congrArg₂ seq ih₁ ih₂

/-- A map that leaves every item as it is, but for the name of its type, does so to a vector of
them. -/
theorem heq_map {α β : Type} {n : Nat} (same : β = α) {f : α → β} (each : ∀ a, f a ≍ a)
    (items : Vector α n) : items.map f ≍ items := by
  subst same
  have unchanged : f = id := funext fun a => eq_of_heq (each a)
  rw [unchanged, Vector.map_id]

theorem heq_prod {α α' β β' : Type} {pair : α × β} {pair' : α' × β'} (first : pair.1 ≍ pair'.1)
    (second : pair.2 ≍ pair'.2) : pair ≍ pair' := by
  obtain ⟨a, b⟩ := pair
  obtain ⟨a', b'⟩ := pair'
  cases first
  cases second
  rfl

/-- The value comes back. It is one of the same layout, but only by a proof. -/
theorem transpose_transpose (layout : Layout) (value : layout.Value) :
    layout.opposite.transpose (layout.transpose value) ≍ value := by
  induction layout with
  | word | text | padding => rfl
  | array count element ih =>
    have items (value : Vector element.Value count) :
        (value.map element.transpose).map element.opposite.transpose ≍ value := by
      rw [Vector.map_map]
      exact heq_map (congrArg Value element.opposite_opposite) ih value
    exact items value
  | seq first second ih₁ ih₂ => exact heq_prod (ih₁ value.1) (ih₂ value.2)

/-! ### All laws together -/

/-- A content as one of the opposite layout. Padding becomes zero. -/
def transposed (layout : Layout) (content : layout.Content) : layout.opposite.Content :=
  layout.opposite.padded (layout.transpose (layout.value content))

/-- Transposing the content of a layout is transposing its value. -/
theorem value_transposed (layout : Layout) (content : layout.Content) :
    layout.opposite.value (layout.transposed content) = layout.transpose (layout.value content) :=
  layout.opposite.value_padded _

/-- A content that is transposed twice has its value again, with padding of zeros. -/
theorem transposed_transposed (layout : Layout) (content : layout.Content) :
    layout.opposite.transposed (layout.transposed content) ≍
      layout.padded (layout.value content) := by
  have same {layout layout' : Layout} (h : layout = layout') {value : layout.Value}
      {value' : layout'.Value} (values : value ≍ value') :
      layout.padded value ≍ layout'.padded value' := by
    subst h
    cases values
    rfl
  rw [transposed, value_transposed]
  exact same layout.opposite_opposite (layout.transpose_transpose (layout.value content))

/-- Transposing twice loses what is in the padding, and nothing else. -/
theorem transposed_transposed_iff (layout : Layout) (content : layout.Content) :
    layout.opposite.transposed (layout.transposed content) ≍ content ↔ layout.IsBlank content := by
  have back := layout.transposed_transposed content
  rw [← padded_value_iff]
  constructor
  · intro same
    exact eq_of_heq (back.symm.trans same)
  · intro same
    exact back.trans (heq_of_eq same)

/-- Reading fails only if there are too few bytes, and says how many it needs and how many there
are. -/
theorem read_eq_error_iff {layout : Layout} {bytes : Bytes} :
    layout.read bytes = .error (.outOfBounds (.buffer layout.size bytes.length)) ↔
      bytes.length < layout.size := by
  unfold read
  split
  · exact iff_of_true rfl ‹_›
  · exact iff_of_false nofun ‹_›

/-- Otherwise the first bytes are decoded, and those behind them do not matter. -/
theorem read_eq_ok {layout : Layout} {bytes : Bytes} (h : layout.size ≤ bytes.length) :
    layout.read bytes = .ok (layout.decode (bytes.take layout.size)) := by
  rw [read, if_neg (Nat.not_lt.mpr h), layout.decode_take h]

/-- Writing fails only if there is too little room. -/
theorem write_eq_error_iff {layout : Layout} {value : layout.Value} {out : Bytes} :
    layout.write value out = .error (.outOfBounds (.buffer layout.size out.length)) ↔
      out.length < layout.size := by
  unfold write
  split
  · exact iff_of_true rfl ‹_›
  · exact iff_of_false nofun ‹_›

/-- Otherwise the first bytes are written, and those behind them stay. -/
theorem write_eq_ok {layout : Layout} (value : layout.Value) {out : Bytes}
    (h : layout.size ≤ out.length) :
    layout.write value out = .ok (layout.encode value ++ out.drop layout.size) := by
  rw [write, if_neg (Nat.not_lt.mpr h), Bytes.overwrite, length_encode, List.take_zero,
    List.nil_append, Nat.zero_add]

/-- What becomes of a content that is written, and of one that is transposed. -/
structure Keeps (layout : Layout) (content : layout.Content) : Prop where
  length_encode : (layout.encode (layout.value content)).length = layout.size
  write_short : ∀ out, layout.write (layout.value content) out =
    .error (.outOfBounds (.buffer layout.size out.length)) ↔ out.length < layout.size
  /-- Where there is room, the rest of the buffer is left alone. -/
  write_full : ∀ out, layout.size ≤ out.length → layout.write (layout.value content) out =
    .ok (layout.encode (layout.value content) ++ out.drop layout.size)
  /-- A content is read back just if its padding is zero. -/
  restored : layout.padded (layout.decode (layout.encode (layout.value content))) = content ↔
    layout.IsBlank content
  numbers_transposed : layout.opposite.numbers (layout.opposite.value (layout.transposed content)) =
    layout.numbers (layout.value content)
  /-- The bytes of each word are reversed, and all others stay. -/
  encode_transposed : layout.opposite.encode (layout.opposite.value (layout.transposed content)) =
    Bytes.reverseParts layout.parts (layout.encode (layout.value content))
  /-- A content is transposed back just if its padding is zero. -/
  transposed_back : layout.opposite.transposed (layout.transposed content) ≍ content ↔
    layout.IsBlank content

/-- What becomes of bytes that are read. -/
structure Restores (layout : Layout) (bytes : Bytes) : Prop where
  read_short : layout.read bytes = .error (.outOfBounds (.buffer layout.size bytes.length)) ↔
    bytes.length < layout.size
  read_full : layout.size ≤ bytes.length →
    layout.read bytes = .ok (layout.decode (bytes.take layout.size))
  isBlank_decode : layout.IsBlank (layout.padded (layout.decode bytes))
  /-- A whole run is written back, with zeros for the padding. -/
  encode_decode : bytes.length = layout.size →
    layout.encode (layout.decode bytes) = bytes.blank layout.paddingMarks

end Layout

/-- For every layout, encoding writes just the bytes of its run, decoding and encoding are inverse
but for padding, which is read and written as zeros, and buffers that are too short are refused. A
value in the other byte order has the same words and is the same value again when it is turned
back. The handles of dependencies, arrays and blobs are among the layouts. -/
theorem Layout.codec_laws (layout : Layout) :
    (∀ content, layout.Keeps content) ∧ ∀ bytes, layout.Restores bytes := by
  refine ⟨fun content => ?_, fun bytes => ?_⟩
  · exact
      { length_encode := layout.length_encode _
        write_short := fun _ => write_eq_error_iff
        write_full := fun _ => write_eq_ok _
        restored := by rw [decode_encode, padded_value_iff]
        numbers_transposed := by rw [value_transposed, numbers_transpose]
        encode_transposed := by rw [value_transposed, encode_transpose]
        transposed_back := layout.transposed_transposed_iff content }
  · exact
      { read_short := read_eq_error_iff
        read_full := read_eq_ok
        isBlank_decode := layout.isBlank_padded _
        encode_decode := layout.encode_decode }

/-- The bytes of each word change places. -/
example :
    let layout : Layout := .seq (.array 2 (.word .little .u16)) (.padding 1)
    let value : layout.Value := ((#v[0x0102, 0x0304] : Vector (BitVec 16) 2), ())
    layout.encode value = [2, 1, 4, 3, 0] ∧
      layout.opposite.encode (layout.transpose value) = [1, 2, 3, 4, 0] := by
  decide +kernel

end TagSchema
