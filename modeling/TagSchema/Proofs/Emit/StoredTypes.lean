import TagSchema.Emit.Snippet
import TagSchema.Proofs.Schema.Extents

/-!
# Types of stored fields

The fields of emitted layouts have types, and what is emitted is their spelling. Here such a type is
a tree with the layout that the runtime gives it. No spelling of a tree begins the spelling of
another (`StoredType.spelling_append_inj`), so a text takes at most one number of bytes, and for the
type of a field that is the size that was computed from its kind, if the rules could give the field
that kind (`takesBytes_layoutType_iff`).
-/

namespace TagSchema

namespace Text

/-- What comes before the first of some characters, and what comes after. -/
theorem append_cons_inj {stop : Char} {a b r s : List Char} (ha : stop ∉ a) (hb : stop ∉ b)
    (same : a ++ stop :: r = b ++ stop :: s) : a = b ∧ r = s := by
  induction a generalizing b with
  | nil =>
    cases b with
    | nil => exact ⟨rfl, (List.cons.inj same).2⟩
    | cons c b => exact absurd (List.cons.inj same).1 (List.ne_of_not_mem_cons hb)
  | cons c a ih =>
    cases b with
    | nil => exact absurd (List.cons.inj same).1.symm (List.ne_of_not_mem_cons ha)
    | cons d b =>
      obtain ⟨rfl, tail⟩ := List.cons.inj same
      obtain ⟨rfl, rest⟩ :=
        ih (List.not_mem_of_not_mem_cons ha) (List.not_mem_of_not_mem_cons hb) tail
      exact ⟨rfl, rest⟩

/-- A number ends where something comes that is no digit. -/
theorem number_append_inj {m n : Nat} {stop : Char} {r s : List Char} (ends : ¬ stop.isDigit)
    (same : (toString m).toList ++ stop :: r = (toString n).toList ++ stop :: s) :
    m = n ∧ r = s := by
  have digits : ∀ k, (toString k).toList = Nat.toDigits 10 k := by simp
  have outside : ∀ k, stop ∉ Nat.toDigits 10 k := fun k mem =>
    ends (Nat.isDigit_of_mem_toDigits (by decide) (by decide) mem)
  rw [digits, digits] at same
  obtain ⟨number, rest⟩ := append_cons_inj (outside m) (outside n) same
  refine ⟨?_, rest⟩
  calc m = Nat.ofDigitChars 10 (Nat.toDigits 10 m) 0 := Nat.ofDigitChars_ten_toDigits.symm
    _ = Nat.ofDigitChars 10 (Nat.toDigits 10 n) 0 := by rw [number]
    _ = n := Nat.ofDigitChars_ten_toDigits

end Text

/-- The kinds of handles. -/
inductive HandleKind where
  | dependency
  | reflexive
  | blob

namespace HandleKind

/-- The type of a handle, up to the type of its members. -/
def typeName : HandleKind → String
  | .dependency => "DependencyLayout"
  | .reflexive => "ReflexiveLayout"
  | .blob => "DataLayout"

/-- The number of members of a handle. -/
def memberCount : HandleKind → Nat
  | .dependency => 4
  | .reflexive => 3
  | .blob => 5

end HandleKind

/-- The type of a field in an emitted layout. -/
inductive StoredType where
  | word (order : ByteOrder) (type : Primitive)
  | array (element : StoredType) (count : Nat)
  | handle (kind : HandleKind) (member : StoredType)
  | text
  | padding (count : Nat)

namespace StoredType

/-- How a type is written. -/
def spelling : StoredType → String
  | .word order type => Emit.wordOf order ++ "<" ++ type.name ++ ">"
  | .array element count => "[" ++ element.spelling ++ "; " ++ toString count ++ "]"
  | .handle kind member => kind.typeName ++ "<" ++ member.spelling ++ ">"
  | .text => "TagString"
  | .padding count => "Padding<" ++ toString count ++ ">"

/-- What the runtime reads and writes for a type. -/
def layout : StoredType → Layout
  | .word order type => .word order type
  | .array element count => .array count element.layout
  | .handle kind member => .array kind.memberCount member.layout
  | .text => .text
  | .padding count => .padding count

/-- The size of the type is evaluated, and so are the sizes of its parts: sizes are constants of the
emitted code, and a constant that overflows does not build. -/
def IsSized : StoredType → Prop
  | .word .. | .text => True
  | .array element count =>
    element.IsSized ∧ count < UInt64.size ∧ count * element.layout.size < UInt64.size
  | .handle kind member =>
    member.IsSized ∧ kind.memberCount * member.layout.size < UInt64.size
  | .padding count => count < UInt64.size

/-! ### Reading a spelling -/

/-- Different primitive types have different names, none of which closes a bracket. -/
theorem name_append_inj {type type' : Primitive} {r s : List Char}
    (same : type.name.toList ++ '>' :: r = type'.name.toList ++ '>' :: s) :
    type = type' ∧ r = s := by
  have outside : ∀ type : Primitive, '>' ∉ type.name.toList := fun type => by
    cases type <;> decide
  have named : ∀ type : Primitive, Primitive.ofName? type.name = some type := fun type => by
    cases type <;> rfl
  obtain ⟨names, rest⟩ := Text.append_cons_inj (outside type) (outside type') same
  refine ⟨Option.some.inj ?_, rest⟩
  rw [← named, ← named, String.toList_inj.mp names]

theorem wordOf_append_inj {order order' : ByteOrder} {r s : List Char}
    (same : (Emit.wordOf order).toList ++ r = (Emit.wordOf order').toList ++ s) :
    order = order' ∧ r = s := by
  cases order <;> cases order' <;> simp_all [Emit.wordOf]

theorem typeName_append_inj {kind kind' : HandleKind} {r s : List Char}
    (same : kind.typeName.toList ++ r = kind'.typeName.toList ++ s) : kind = kind' ∧ r = s := by
  cases kind <;> cases kind' <;> simp_all [HandleKind.typeName]

/-- The kind of type that a spelling with the given first character is of. -/
def sortOf : Char → Nat
  | 'B' | 'L' => 0
  | '[' => 1
  | 'D' | 'R' => 2
  | 'T' => 3
  | _ => 4

theorem sortOf_head (t : StoredType) (r : List Char) :
    (t.spelling.toList ++ r).head?.map sortOf = some t.ctorIdx := by
  cases t with
  | word order type => cases order <;> simp [spelling, Emit.wordOf, sortOf] <;> rfl
  | handle kind member => cases kind <;> simp [spelling, HandleKind.typeName, sortOf] <;> rfl
  | array | text | padding => simp [spelling, sortOf]; rfl

theorem ctorIdx_eq {t t' : StoredType} {r s : List Char}
    (same : t.spelling.toList ++ r = t'.spelling.toList ++ s) : t.ctorIdx = t'.ctorIdx := by
  refine Option.some.inj ?_
  rw [← sortOf_head t r, same, sortOf_head]

/-- No spelling begins another. -/
theorem spelling_append_inj {t t' : StoredType} {r s : List Char}
    (same : t.spelling.toList ++ r = t'.spelling.toList ++ s) : t = t' ∧ r = s := by
  -- Types of different form begin differently; those of the same form are told apart part by part,
  -- and each part says where it ends.
  induction t generalizing t' r s with
  | word order type =>
    cases t' with
    | word order' type' =>
      have whole : (Emit.wordOf order).toList ++ '<' :: (type.name.toList ++ '>' :: r) =
          (Emit.wordOf order').toList ++ '<' :: (type'.name.toList ++ '>' :: s) := by
        simpa [spelling] using same
      obtain ⟨rfl, named⟩ := wordOf_append_inj whole
      obtain ⟨rfl, rest⟩ := name_append_inj (List.cons.inj named).2
      exact ⟨rfl, rest⟩
    | _ => cases ctorIdx_eq same
  | array element count ih =>
    cases t' with
    | array element' count' =>
      have whole :
          element.spelling.toList ++ ("; ".toList ++ ((toString count).toList ++ ']' :: r)) =
            element'.spelling.toList ++
              ("; ".toList ++ ((toString count').toList ++ ']' :: s)) := by
        simpa [spelling] using same
      obtain ⟨rfl, counted⟩ := ih whole
      obtain ⟨rfl, rest⟩ := Text.number_append_inj (by decide) (List.append_cancel_left counted)
      exact ⟨rfl, rest⟩
    | _ => cases ctorIdx_eq same
  | handle kind member ih =>
    cases t' with
    | handle kind' member' =>
      simp only [spelling, String.toList_append, List.append_assoc] at same
      obtain ⟨rfl, inner⟩ := typeName_append_inj same
      obtain ⟨rfl, closed⟩ := ih (List.append_cancel_left inner)
      exact ⟨rfl, List.append_cancel_left closed⟩
    | _ => cases ctorIdx_eq same
  | text =>
    cases t' with
    | text => exact ⟨rfl, List.append_cancel_left same⟩
    | _ => cases ctorIdx_eq same
  | padding count =>
    cases t' with
    | padding count' =>
      have whole : (toString count).toList ++ '>' :: r = (toString count').toList ++ '>' :: s := by
        simpa [spelling] using same
      obtain ⟨rfl, rest⟩ := Text.number_append_inj (by decide) whole
      exact ⟨rfl, rest⟩
    | _ => cases ctorIdx_eq same

/-- Two types with one spelling are one type. -/
theorem spelling_inj {t t' : StoredType} : t.spelling = t'.spelling ↔ t = t' := by
  refine ⟨fun same => ?_, congrArg spelling⟩
  exact (spelling_append_inj (r := []) (s := []) (by rw [same])).1

/-- A type, as an array if there is a count. -/
def repeated (element : StoredType) : Option Nat → StoredType
  | some count => .array element count
  | none => element

theorem spelling_repeated (element : StoredType) (count : Option Nat) :
    (element.repeated count).spelling = FieldKind.counted element.spelling count := by
  cases count <;> rfl

theorem size_repeated (element : StoredType) (count : Option Nat) :
    (element.repeated count).layout.size = element.layout.size * count.getD 1 := by
  cases count with
  | none => exact (Nat.mul_one _).symm
  | some count => exact Nat.mul_comm count _

/-- In an array of items that take some bytes there are fewer items than bytes. -/
theorem isSized_array_iff {element : StoredType} {count : Nat} (sized : element.IsSized)
    (positive : 0 < element.layout.size) :
    (array element count).IsSized ↔ (array element count).layout.size < UInt64.size := by
  refine ⟨fun h => h.2.2, fun h => ⟨sized, Nat.lt_of_le_of_lt ?_ h, h⟩⟩
  exact Nat.le_mul_of_pos_right count positive

theorem isSized_handle_iff {kind : HandleKind} {member : StoredType} (sized : member.IsSized) :
    (handle kind member).IsSized ↔ (handle kind member).layout.size < UInt64.size :=
  and_iff_right sized

theorem isSized_repeated_iff {element : StoredType} {count : Option Nat} (sized : element.IsSized)
    (positive : 0 < element.layout.size) (small : element.layout.size < UInt64.size) :
    (element.repeated count).IsSized ↔ (element.repeated count).layout.size < UInt64.size := by
  cases count with
  | none => exact iff_of_true sized small
  | some count => exact isSized_array_iff sized positive

end StoredType

/-! ### Fields -/

/-- The type of a field in a layout. -/
def ClassifiedField.storedType (field : ClassifiedField) (form : Form) : StoredType :=
  let word := StoredType.word (field.orderIn form)
  match field.kind with
  | .scalar number count bounds .. =>
    if bounds then .array (word number.primitive) 2 else (word number.primitive).repeated count
  | .compound math count .. => (StoredType.array (word math.component) math.count).repeated count
  | .enum _ width _ | .bitfield _ width => word (.ofWidth width)
  | .dependency .. => .handle .dependency (word .u32)
  | .reflexive .. => .handle .reflexive (word .u32)
  | .blob _ => .handle .blob (word .u32)
  | .index _ => word .u16
  | .tagId | .fourCC => word .u32
  | .tagString => .text
  | .padding size => .padding size

theorem Emit.storageType_eq (width : Nat) :
    Emit.storageType width = (Primitive.ofWidth width).name := by
  unfold Emit.storageType Primitive.ofWidth
  split
  · rfl
  · split <;> rfl

/-- What is emitted for a field is the spelling of its type. -/
theorem ClassifiedField.spelling_storedType (field : ClassifiedField) (form : Form) :
    (field.storedType form).spelling = Emit.layoutType field form := by
  have two : Nat.toDigits 10 2 = ['2'] := by decide
  unfold storedType Emit.layoutType
  -- The pieces of a text are put together in different orders.
  cases field.kind with
  | scalar number count bounds =>
    cases bounds with
    | false => exact StoredType.spelling_repeated _ count
    | true =>
      rw [← String.toList_inj]
      simp [StoredType.spelling, ToString.toString, Emit.word, two]
  | compound math count =>
    refine (StoredType.spelling_repeated _ count).trans (congrArg (FieldKind.counted · count) ?_)
    rw [← String.toList_inj]
    simp [StoredType.spelling, ToString.toString, Emit.word]
  | enum name width | bitfield name width =>
    dsimp only
    rw [Emit.storageType_eq]
    rfl
  | _ =>
    rw [← String.toList_inj]
    simp [StoredType.spelling, HandleKind.typeName, Primitive.name, ToString.toString, Emit.word]

/-- What the rules leave of a kind: bounds are one pair, and an enum or a bitfield is as wide as a
word. -/
def FieldKind.IsStorable : FieldKind → Prop
  | .scalar _ count bounds .. => bounds = true → count = none
  | .enum _ width _ | .bitfield _ width => width = 8 ∨ width = 16 ∨ width = 32
  | _ => True

/-- The runtime gives a field the bytes that its kind takes. -/
theorem ClassifiedField.size_storedType {field : ClassifiedField} (storable : field.kind.IsStorable)
    (form : Form) : (field.storedType form).layout.size = field.kind.extent := by
  unfold storedType FieldKind.extent
  revert storable
  -- Bounds are a pair, and are stored once only; all other kinds are counted as they are repeated.
  cases field.kind with
  | scalar number count bounds =>
    intro single
    cases bounds with
    | false =>
      exact (StoredType.size_repeated _ count).trans (by simp [StoredType.layout, Layout.size])
    | true =>
      rw [single rfl]
      simp [StoredType.layout, Layout.size, Nat.mul_comm]
  | compound math count =>
    intro _
    refine (StoredType.size_repeated _ count).trans ?_
    simp [StoredType.layout, Layout.size, Nat.mul_comm]
  | enum name width | bitfield name width =>
    rintro (rfl | rfl | rfl) <;> rfl
  | _ => exact fun _ => rfl

/-- The size of the type of a field is evaluated unless it is too large for a word: everything that
is evaluated on the way is smaller. -/
theorem ClassifiedField.isSized_storedType_iff {field : ClassifiedField}
    (storable : field.kind.IsStorable) (form : Form) :
    (field.storedType form).IsSized ↔ field.kind.extent < UInt64.size := by
  have word (type : Primitive) : 0 < type.size ∧ type.size < UInt64.size := by
    cases type <;> decide
  rw [← field.size_storedType storable form]
  unfold storedType
  cases field.kind with
  | scalar number count bounds =>
    obtain ⟨positive, small⟩ := word number.primitive
    cases bounds with
    | false => exact StoredType.isSized_repeated_iff trivial positive small
    | true => exact StoredType.isSized_array_iff trivial positive
  | compound math count =>
    -- The components are an array themselves.
    have components : 0 < math.count * math.component.size ∧
        math.count * math.component.size < UInt64.size := by cases math <;> decide
    refine StoredType.isSized_repeated_iff ?_ components.1 components.2
    have component : (StoredType.word (field.orderIn form) math.component).IsSized := trivial
    exact (StoredType.isSized_array_iff component (word math.component).1).mpr components.2
  | enum _ width | bitfield _ width => exact iff_of_true trivial (word (.ofWidth width)).2
  | dependency | reflexive | blob => exact StoredType.isSized_handle_iff trivial
  | index => exact iff_of_true trivial (word .u16).2
  | tagId | fourCC => exact iff_of_true trivial (word .u32).2
  | tagString => exact iff_of_true trivial (show 32 < UInt64.size by decide)
  | padding size => exact Iff.rfl

/-- The text is a type whose size is evaluated to a number of bytes. -/
def TakesBytes (text : String) (size : Nat) : Prop :=
  ∃ type : StoredType, type.spelling = text ∧ type.IsSized ∧ type.layout.size = size

/-- What is emitted for the type of a field takes the size of the field, if a word can hold that. -/
theorem takesBytes_layoutType_iff {field : ClassifiedField} (storable : field.kind.IsStorable)
    {form : Form} {size : Nat} :
    TakesBytes (Emit.layoutType field form) size ↔
      field.kind.extent < UInt64.size ∧ size = field.size := by
  rw [← field.spelling_storedType form, ← field.isSized_storedType_iff storable form]
  have exact (sized : (field.storedType form).IsSized) :
      (field.storedType form).layout.size = field.size := by
    rw [field.size_storedType storable form]
    exact (FieldKind.size_eq_extent ((field.isSized_storedType_iff storable form).mp sized)).symm
  constructor
  · rintro ⟨type, same, sized, rfl⟩
    obtain rfl := StoredType.spelling_inj.mp same
    exact ⟨sized, exact sized⟩
  · rintro ⟨sized, rfl⟩
    exact ⟨_, rfl, sized, exact sized⟩

end TagSchema
