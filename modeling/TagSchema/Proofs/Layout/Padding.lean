import TagSchema.Proofs.LayoutCodec

/-!
# Bytes are written back, padding is not

A layout holds every byte of its run that is not padding: what was decoded is encoded into the same
bytes, with zeros for the padding (`Layout.encode_decode`). The other way round, a value with the
bytes of its padding comes back from its encoding just if these are zero
(`Layout.padded_value_iff`).
-/

namespace TagSchema

/-! ### Marked bytes -/

namespace Bytes

/-- The bytes with zeros in the marked places. -/
def blank (marks : List Bool) (bytes : Bytes) : Bytes :=
  List.zipWith (fun marked byte => if marked then 0 else byte) marks bytes

/-- Bytes are blanked one by one, each by its own mark. -/
theorem blank_append {marks : List Bool} {bytes : Bytes} (h : marks.length = bytes.length)
    (marks' : List Bool) (bytes' : Bytes) :
    blank (marks ++ marks') (bytes ++ bytes') = blank marks bytes ++ blank marks' bytes' :=
  List.zipWith_append h

/-- Where nothing is marked nothing is blanked. -/
theorem blank_unmarked {bytes : Bytes} {n : Nat} (h : bytes.length = n) :
    blank (List.replicate n false) bytes = bytes := by
  subst h
  induction bytes with
  | nil => rfl
  | cons byte rest ih => exact congrArg (byte :: ·) ih

/-- Where everything is marked there are zeros left. -/
theorem blank_marked {bytes : Bytes} {n : Nat} (h : bytes.length = n) :
    blank (List.replicate n true) bytes = zeros n := by
  subst h
  induction bytes with
  | nil => rfl
  | cons byte rest ih => exact congrArg (0 :: ·) ih

end Bytes

/-! ### Decoded bytes are encoded again -/

/-- A word loses nothing of the bytes that it was read from. -/
theorem Primitive.encode_decode (type : Primitive) (order : ByteOrder) {bytes : Bytes}
    (h : bytes.length = type.size) : type.encode order (type.decode order bytes) = bytes := by
  have digits (bytes : Bytes) (h : bytes.length = type.size) : Bytes.ofNatLittle type.size
      (BitVec.ofNat (8 * type.size) (Bytes.toNatLittle bytes)).toNat = bytes := by
    have small := Bytes.toNatLittle_lt bytes
    rw [h, Nat.shiftLeft_eq, Nat.one_mul] at small
    rw [BitVec.toNat_ofNat, Nat.mod_eq_of_lt small, ← h]
    exact Bytes.ofNatLittle_toNatLittle bytes
  unfold decode
  rw [List.take_of_length_le (Nat.le_of_eq h)]
  cases order with
  | little => exact digits bytes h
  | big =>
    refine (congrArg List.reverse (digits bytes.reverse ?_)).trans bytes.reverse_reverse
    rw [List.length_reverse, h]

/-- Nor does a fixed text of its 32 bytes. -/
theorem FixedText.bytes_ofBytes {bytes : Bytes} (h : bytes.length = 32) :
    (ofBytes bytes).bytes = bytes := by
  simp [ofBytes, h, Bytes.zeros, List.take_of_length_le]

namespace Layout

/-- Which bytes of the run are padding. -/
def paddingMarks : Layout → List Bool
  | .word _ type => List.replicate type.size false
  | .array count element => (List.replicate count element.paddingMarks).flatten
  | .text => List.replicate 32 false
  | .padding count => List.replicate count true
  | .seq first second => first.paddingMarks ++ second.paddingMarks

/-- There is a mark for every byte. -/
theorem length_paddingMarks (layout : Layout) : layout.paddingMarks.length = layout.size := by
  induction layout with
  | word | text | padding => exact List.length_replicate
  | array count element ih => simp [paddingMarks, size, ih]
  | seq first second ih₁ ih₂ => simp [paddingMarks, size, ih₁, ih₂]

/-- Only the bytes of the layout are read. -/
theorem decode_take (layout : Layout) {bytes : Bytes} (h : layout.size ≤ bytes.length) :
    layout.decode (bytes.take layout.size) = layout.decode bytes := by
  conv_rhs => rw [← List.take_append_drop layout.size bytes]
  refine (layout.decode_append ?_ _).symm
  rw [List.length_take]
  omega

/-- The marks of a run and of what comes behind it. -/
theorem blank_paddingMarks_append (layout : Layout) {bytes : Bytes}
    (h : layout.size ≤ bytes.length) (marks : List Bool) :
    bytes.blank (layout.paddingMarks ++ marks) =
      Bytes.blank layout.paddingMarks (bytes.take layout.size) ++
        Bytes.blank marks (bytes.drop layout.size) := by
  have front : layout.paddingMarks.length = (bytes.take layout.size).length := by
    rw [length_paddingMarks, List.length_take]
    omega
  conv_lhs => rw [← List.take_append_drop layout.size bytes]
  exact Bytes.blank_append front marks _

/-- An array is its first element and then the array of the others. -/
theorem encode_decode_array_succ (count : Nat) (element : Layout) (bytes : Bytes) :
    (array (count + 1) element).encode ((array (count + 1) element).decode bytes) =
      element.encode (element.decode bytes) ++
        (array count element).encode ((array count element).decode (bytes.drop element.size)) := by
  change (Vector.ofFn fun i : Fin (count + 1) => _).toList.flatMap _ =
    _ ++ (Vector.ofFn fun i : Fin count => _).toList.flatMap _
  rw [Vector.toList_ofFn, Vector.toList_ofFn, List.ofFn_succ, List.flatMap_cons]
  simp only [Fin.val_zero, Nat.zero_mul, List.drop_zero, Fin.val_succ, Nat.succ_mul,
    List.drop_drop, Nat.add_comm]

/-- Encoding what was decoded gives the same bytes again, with zeros for the padding. -/
theorem encode_decode (layout : Layout) {bytes : Bytes} (h : bytes.length = layout.size) :
    layout.encode (layout.decode bytes) = bytes.blank layout.paddingMarks := by
  -- The runs inside an array and a sequence are followed by others.
  have inside {part : Layout} {bytes : Bytes} (fits : part.size ≤ bytes.length)
      (ih : ∀ {bytes : Bytes}, bytes.length = part.size →
        part.encode (part.decode bytes) = bytes.blank part.paddingMarks) :
      part.encode (part.decode bytes) = Bytes.blank part.paddingMarks (bytes.take part.size) := by
    rw [← part.decode_take fits]
    refine ih ?_
    rw [List.length_take]
    omega
  induction layout generalizing bytes with
  | word order type =>
    exact (type.encode_decode order h).trans (Bytes.blank_unmarked h).symm
  | array count element ih =>
    induction count generalizing bytes with
    | zero => rfl
    | succ count ihCount =>
      have whole : bytes.length = count * element.size + element.size :=
        h.trans (Nat.succ_mul count element.size)
      have marks : (array (count + 1) element).paddingMarks =
          element.paddingMarks ++ (array count element).paddingMarks := rfl
      have behind : (bytes.drop element.size).length = (array count element).size := by
        rw [List.length_drop, whole, Nat.add_sub_cancel]
        rfl
      rw [encode_decode_array_succ, inside (by omega) ih, ihCount behind, marks,
        element.blank_paddingMarks_append (by omega)]
  | text => exact (FixedText.bytes_ofBytes h).trans (Bytes.blank_unmarked h).symm
  | padding count => exact (Bytes.blank_marked h).symm
  | seq first second ih₁ ih₂ =>
    have whole : bytes.length = first.size + second.size := h
    have behind : (bytes.drop first.size).length = second.size := by
      rw [List.length_drop]
      omega
    have parts : (seq first second).encode ((seq first second).decode bytes) =
        first.encode (first.decode bytes) ++
          second.encode (second.decode (bytes.drop first.size)) := rfl
    have marks : (seq first second).paddingMarks = first.paddingMarks ++ second.paddingMarks := rfl
    rw [parts, inside (by omega) ih₁, ih₂ behind, marks,
      first.blank_paddingMarks_append (by omega)]

/-! ### Values with the bytes of their padding -/

/-- What is kept in memory of a run with this layout: padding has its bytes there, too. -/
def Content : Layout → Type
  | .word _ type => type.Word
  | .array count element => Vector element.Content count
  | .text => FixedText
  | .padding count => Vector UInt8 count
  | .seq first second => first.Content × second.Content

/-- The value of a content. The bytes of the padding do not matter for it. -/
def value : (layout : Layout) → layout.Content → layout.Value
  | .word _ _, content => content
  | .array _ element, (content : Vector element.Content _) => content.map element.value
  | .text, content => content
  | .padding _, _ => ()
  | .seq first second, content => (first.value content.1, second.value content.2)

/-- A value with padding of zeros. -/
def padded : (layout : Layout) → layout.Value → layout.Content
  | .word _ _, value => value
  | .array _ element, (value : Vector element.Value _) => value.map element.padded
  | .text, value => value
  | .padding count, _ => Vector.replicate count (0 : UInt8)
  | .seq first second, value => (first.padded value.1, second.padded value.2)

/-- Whether all bytes of the padding are zero. -/
def IsBlank : (layout : Layout) → layout.Content → Prop
  | .word _ _, _ => True
  | .array _ element, (content : Vector element.Content _) =>
    ∀ item ∈ content.toList, element.IsBlank item
  | .text, _ => True
  | .padding _, (content : Vector UInt8 _) => ∀ byte ∈ content.toList, byte = 0
  | .seq first second, content => first.IsBlank content.1 ∧ second.IsBlank content.2

theorem value_padded_array {element : Layout} {count : Nat}
    (h : ∀ value, element.value (element.padded value) = value)
    (value : Vector element.Value count) :
    (value.map element.padded).map element.value = value := by
  refine Vector.ext fun i hi => ?_
  rw [Vector.getElem_map, Vector.getElem_map, h]

/-- Filling the padding with zeros does not change the value. -/
theorem value_padded (layout : Layout) (value : layout.Value) :
    layout.value (layout.padded value) = value := by
  induction layout with
  | word | text | padding => rfl
  | array count element ih => exact value_padded_array ih value
  | seq first second ih₁ ih₂ => exact Prod.ext (ih₁ value.1) (ih₂ value.2)

/-- An array is blank if all of its items are. -/
theorem padded_value_array_iff {element : Layout} {count : Nat}
    (h : ∀ content, element.padded (element.value content) = content ↔ element.IsBlank content)
    (content : Vector element.Content count) :
    (content.map element.value).map element.padded = content ↔
      ∀ item ∈ content.toList, element.IsBlank item := by
  have each : content.toList.map (element.padded ∘ element.value) = content.toList.map id ↔
      ∀ item ∈ content.toList, element.padded (element.value item) = item := List.map_inj_left
  rw [List.map_id] at each
  rw [Vector.map_map, ← Vector.toList_inj, Vector.toList_map, each]
  exact forall₂_congr fun item _ => h item

theorem replicate_zero_eq_iff {count : Nat} (bytes : Vector UInt8 count) :
    Vector.replicate count 0 = bytes ↔ ∀ byte ∈ bytes.toList, byte = 0 := by
  rw [← Vector.toList_inj, Vector.toList_replicate, eq_comm, List.eq_replicate_iff]
  exact and_iff_right Vector.length_toList

/-- A content is made up of its value just if its padding is zero. -/
theorem padded_value_iff (layout : Layout) (content : layout.Content) :
    layout.padded (layout.value content) = content ↔ layout.IsBlank content := by
  induction layout with
  | word | text => exact iff_of_true rfl trivial
  | array count element ih => exact padded_value_array_iff ih content
  | padding count => exact replicate_zero_eq_iff content
  | seq first second ih₁ ih₂ => exact Prod.ext_iff.trans (and_congr (ih₁ content.1) (ih₂ content.2))

/-- Decoded padding is zero. -/
theorem isBlank_padded (layout : Layout) (value : layout.Value) :
    layout.IsBlank (layout.padded value) := by
  rw [← padded_value_iff, value_padded]

end Layout

end TagSchema
