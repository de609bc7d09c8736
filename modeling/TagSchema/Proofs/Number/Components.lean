import TagSchema.Proofs.LayoutCodec
import TagSchema.Struct.Edit

/-!
# Components and their edits

The components of a number with structure are its words, in the order of declaration, so the parts
of a value take up stretches of them: the upper bound comes behind the lower one, the items of an
array come one behind the other. An edit finds its component by passing over whole parts. It changes
one word (`NumberShape.words_setComponent`), and it is refused just where there is none.
-/

namespace TagSchema

/-- The change of one entry in a run is the change of one entry in all runs together. -/
theorem flatMap_set {α β : Type} {f : α → List β} {size : Nat} (lengths : ∀ a, (f a).length = size)
    {items : List α} {i j : Nat} {a : α} {b : β} (hi : i < items.length) (hj : j < size)
    (changed : f a = (f items[i]).set j b) :
    (items.set i a).flatMap f = (items.flatMap f).set (i * size + j) b := by
  induction items generalizing i with
  | nil => exact absurd hi (Nat.not_lt_zero i)
  | cons first rest ih =>
    cases i with
    | zero =>
      rw [List.set_cons_zero, List.flatMap_cons, List.flatMap_cons, changed, Nat.zero_mul,
        Nat.zero_add, List.set_append_left _ _ (by rw [lengths]; exact hj)]
      rfl
    | succ i =>
      -- The place is counted from the end of the first part on.
      have behind : (i + 1) * size + j = (f first).length + (i * size + j) := by
        rw [lengths, Nat.succ_mul]
        omega
      rw [List.set_cons_succ, List.flatMap_cons, List.flatMap_cons,
        ih (Nat.lt_of_succ_lt_succ hi) changed, behind, List.set_append_right _ _ (by omega),
        Nat.add_sub_cancel_left]

namespace NumberShape

/-! ### Numbers with structure -/

/-- A number has as many words as its shape has components. -/
theorem length_words (shape : NumberShape) (value : shape.Value) :
    (shape.words value).length = shape.count := by
  induction shape with
  | scalar type => rfl
  | compound type => exact Vector.length_toList
  | bounds shape ih =>
    obtain ⟨lower, upper⟩ := value
    change (shape.words lower ++ shape.words upper).length = 2 * shape.count
    rw [List.length_append, ih, ih, Nat.two_mul]
  | array count shape ih =>
    have all (items : Vector shape.Value count) :
        (items.toList.flatMap shape.words).length = count * shape.count := by
      rw [length_flatMap_of_length_eq ih, Vector.length_toList]
    exact all value

/-- The components of a value are as many as those of its shape. -/
theorem length_components (shape : NumberShape) (value : shape.Value) :
    (shape.components value).length = shape.count :=
  List.length_map _ |>.trans (shape.length_words value)

/-! ### Finding a component -/

/-- Among parts of one length, passing over parts divides the index by the length. -/
theorem locate_replicate (count length index : Nat) :
    locate (List.replicate count length) index =
      if index < count * length then some (index / length, index % length) else none := by
  induction count generalizing index with
  | zero => simp [locate]
  | succ count ih =>
    rw [List.replicate_succ, locate, ih, Nat.succ_mul]
    -- The first part has the component, or it is passed and its length taken off.
    by_cases first : index < length
    · rw [if_pos first, if_pos (by omega), Nat.div_eq_of_lt first, Nat.mod_eq_of_lt first]
    · rw [if_neg first]
      by_cases inside : index < count * length + length
      · have positive : 0 < length := by
          refine Nat.pos_of_ne_zero fun none => ?_
          rw [none, Nat.mul_zero] at inside
          exact Nat.not_lt_zero _ inside
        have passed : index / length = (index - length) / length + 1 :=
          Nat.div_eq_sub_div positive (by omega)
        rw [if_pos inside, if_pos (by omega), passed, Nat.mod_eq_sub_mod (Nat.not_lt.mp first)]
        rfl
      · rw [if_neg inside, if_neg (by omega)]
        rfl

variable {shape : NumberShape} {count index : Nat} {number : Float}

/-- The parts of an array have the same length, so going through them one by one is division with
remainder. -/
theorem locate_items (items : Vector shape.Value count) (index : Nat) :
    locate (items.toList.map fun part => (shape.components part).length) index =
      if index < count * shape.count then some (index / shape.count, index % shape.count)
      else none := by
  have lengths : (items.toList.map fun part => (shape.components part).length) =
      List.replicate count shape.count := by
    rw [List.eq_replicate_iff, List.length_map, Vector.length_toList]
    refine ⟨rfl, fun length mem => ?_⟩
    obtain ⟨part, -, rfl⟩ := List.mem_map.mp mem
    exact shape.length_components part
  rw [lengths, locate_replicate]

/-- An edit of one item of an array. -/
theorem setComponent_array (items : Vector shape.Value count)
    (inAll : index < count * shape.count) (inside : index / shape.count < count) :
    (array count shape).setComponent index number items =
      (shape.setComponent (index % shape.count) number items[index / shape.count]).map
        fun edited => items.set (index / shape.count) edited := by
  have found := (locate_items items index).trans (if_pos inAll)
  rw [setComponent]
  simp only [found, dif_pos inside]
  rfl

/-- An edit of the lower one of two bounds. -/
theorem setComponent_lower (value : (bounds shape).Value) (first : index < shape.count) :
    (bounds shape).setComponent index number value =
      (shape.setComponent index number value.1).map fun lower => (lower, value.2) := by
  rw [setComponent]
  simp only [length_components, locate, if_pos first]
  rfl

/-- An edit of the upper one. -/
theorem setComponent_upper (value : (bounds shape).Value) (past : shape.count ≤ index)
    (last : index - shape.count < shape.count) :
    (bounds shape).setComponent index number value =
      (shape.setComponent (index - shape.count) number value.2).map
        fun upper => (value.1, upper) := by
  rw [setComponent]
  simp only [length_components, locate, if_neg (Nat.not_lt.mpr past), if_pos last]
  rfl

/-! ### Editing a component -/

/-- Behind the last component there is nothing to edit. -/
theorem setComponent_of_count_le (h : shape.count ≤ index) (number : Float)
    (value : shape.Value) : shape.setComponent index number value = none := by
  cases shape with
  | scalar type => exact if_neg (Nat.ne_of_gt h)
  | compound type => exact dif_neg (Nat.not_lt.mpr h)
  | bounds shape =>
    have past : 2 * shape.count ≤ index := h
    rw [setComponent]
    simp only [length_components, locate, if_neg (show ¬ index < shape.count by omega),
      if_neg (show ¬ index - shape.count < shape.count by omega)]
    rfl
  | array count shape =>
    have all (items : Vector shape.Value count) :
        (array count shape).setComponent index number items = none := by
      have missing := (locate_items items index).trans (if_neg (Nat.not_lt.mpr h))
      rw [setComponent]
      simp only [missing]
    exact all value

/-- At a component an edit changes one word. -/
theorem words_setComponent (h : index < shape.count) (number : Float) (value : shape.Value) :
    ∃ edited, shape.setComponent index number value = some edited ∧
      shape.words edited = (shape.words value).set index (shape.component.ofFloat number) := by
  induction shape generalizing index with
  | scalar type =>
    obtain rfl : index = 0 := Nat.lt_one_iff.mp h
    exact ⟨_, rfl, rfl⟩
  | compound type => exact ⟨_, dif_pos h, Vector.toList_set h⟩
  -- The upper bound begins where the words of the lower one end.
  | bounds shape ih =>
    obtain ⟨lower, upper⟩ := value
    have length := shape.length_words lower
    by_cases first : index < shape.count
    · obtain ⟨edited, done, changed⟩ := ih first lower
      refine ⟨(edited, upper),
        (setComponent_lower _ first).trans (congrArg (Option.map _) done), ?_⟩
      change shape.words edited ++ shape.words upper =
        (shape.words lower ++ shape.words upper).set index (shape.component.ofFloat number)
      rw [changed, List.set_append_left _ _ (by omega)]
    · have last : index < 2 * shape.count := h
      have inUpper : index - shape.count < shape.count := by omega
      obtain ⟨edited, done, changed⟩ := ih inUpper upper
      refine ⟨(lower, edited), (setComponent_upper _ (Nat.not_lt.mp first) inUpper).trans
        (congrArg (Option.map _) done), ?_⟩
      change shape.words lower ++ shape.words edited =
        (shape.words lower ++ shape.words upper).set index (shape.component.ofFloat number)
      rw [changed, List.set_append_right _ _ (by omega), length]
  | array count shape ih =>
    have inAll : index < count * shape.count := h
    have some : 0 < shape.count := by
      refine Nat.pos_of_ne_zero fun none => ?_
      rw [none, Nat.mul_zero] at inAll
      exact Nat.not_lt_zero _ inAll
    have inside : index / shape.count < count := (Nat.div_lt_iff_lt_mul some).mpr inAll
    have within : index % shape.count < shape.count := Nat.mod_lt _ some
    -- The component lies in one item, and all items have the same number of words.
    have all (items : Vector shape.Value count) : ∃ edited : Vector shape.Value count,
        (array count shape).setComponent index number items = Option.some edited ∧
          edited.toList.flatMap shape.words =
            (items.toList.flatMap shape.words).set index (shape.component.ofFloat number) := by
      obtain ⟨item, done, changed⟩ := ih within items[index / shape.count]
      refine ⟨items.set (index / shape.count) item, ?_, ?_⟩
      · rw [setComponent_array items inAll inside, done]
        rfl
      · have here : index / shape.count < items.toList.length := by rwa [Vector.length_toList]
        have both := flatMap_set shape.length_words here within changed
        rw [Nat.div_add_mod' index shape.count] at both
        rw [Vector.toList_set, both]
    exact all value

/-- Whether an edit is done depends on the index alone. -/
theorem isSome_setComponent_iff {value : shape.Value} :
    (shape.setComponent index number value).isSome ↔ index < shape.count := by
  by_cases h : index < shape.count
  · obtain ⟨edited, done, -⟩ := words_setComponent h number value
    rw [done]
    exact iff_of_true rfl h
  · rw [setComponent_of_count_le (Nat.not_lt.mp h)]
    exact iff_of_false Bool.false_ne_true h

end NumberShape

/-! ### What an editor sees -/

/-- A number as a component of a member keeps it, where the member is seen as numbers. -/
def LeafType.converted : LeafType → Float → Float
  | .plain (.number shape _), number => shape.component.toFloat (shape.component.ofFloat number)
  | .plain (.index _), number => Primitive.u16.toFloat (Primitive.u16.ofFloat number)
  | .plain .fourCC, number => Primitive.u32.toFloat (Primitive.u32.ofFloat number)
  | _, number => number

/-- If a member is seen as numbers, an edit of one of them changes this one only, and an edit behind
the last one is refused. -/
def LeafType.EditsOne (type : LeafType) (value : type.Value) (index : Nat) (number : Float) :
    Prop :=
  ∀ components, type.access? value = some (.number components) →
    if index < components.length then
      ∃ edited, type.edit (.setComponent index number) value = .ok edited ∧
        type.access? edited = some (.number (components.set index (type.converted number)))
    else type.edit (.setComponent index number) value = .error .refused

namespace LeafType

/-- An edit of a number replaces one component, or fails where there is none. -/
theorem editsOne_number (shape : NumberShape) (rule : NumberRule) (value : shape.Value)
    (index : Nat) (number : Float) :
    EditsOne (.plain (.number shape rule)) value index number := by
  rintro components ⟨⟩
  rw [shape.length_components value]
  split
  · rename_i inside
    obtain ⟨edited, done, changed⟩ := shape.words_setComponent inside number value
    refine ⟨edited, ?_, congrArg (some <| Access.number ·) ?_⟩
    · simp only [edit, done]
    · exact (congrArg (List.map shape.component.toFloat) changed).trans List.map_set
  · rename_i outside
    simp only [edit, NumberShape.setComponent_of_count_le (Nat.not_lt.mp outside)]

/-- A member that holds a single number. -/
theorem editsOne_single {type : LeafType} {value edited : type.Value} {index : Nat} {number : Float}
    {only : Float} (seen : type.access? value = some (.number [only]))
    (seen' : type.access? edited = some (.number [type.converted number]))
    (edit : type.edit (.setComponent index number) value =
      if index = 0 then .ok edited else .error .refused) :
    type.EditsOne value index number := by
  intro components numeric
  obtain rfl : [only] = components := Access.number.inj (Option.some.inj (seen.symm.trans numeric))
  cases index with
  | zero => exact ⟨edited, edit, seen'⟩
  | succ index => exact edit

/-- An edit of any member does. -/
theorem editsOne (type : LeafType) (value : type.Value) (index : Nat) (number : Float) :
    type.EditsOne value index number := by
  match type, value with
  | .plain (.number shape rule), value => exact editsOne_number shape rule value index number
  | .plain (.index _), _ => exact editsOne_single rfl rfl rfl
  | .plain .fourCC, _ => exact editsOne_single rfl rfl rfl
  | .plain (.enum ..), _ | .plain (.bitfield _), _ | .plain .tagString, _ | .plain .tagId, _
  | .plain (.padding _), _ | .dependency .., _ | .blob _, _ => rintro components ⟨⟩

end LeafType

/-- **Editing a component.** A value has as many words as its structure says. An edit is done
exactly at an index of one of them; this word becomes the number in the type of the components, and
all others stay. An editor sees the same of every member that it is shown as numbers, classes and
indices among them. -/
theorem setComponent_touches_one (index : Nat) (number : Float) :
    (∀ (shape : NumberShape) (value : shape.Value),
      (shape.words value).length = shape.count ∧
      ((shape.setComponent index number value).isSome ↔ index < shape.count) ∧
      ∀ edited, shape.setComponent index number value = some edited →
        shape.words edited = (shape.words value).set index (shape.component.ofFloat number)) ∧
    ∀ (type : LeafType) (value : type.Value), type.EditsOne value index number := by
  refine ⟨fun shape value => ⟨shape.length_words value, ?_, ?_⟩, ?_⟩
  · exact NumberShape.isSome_setComponent_iff
  · intro edited done
    have inside : index < shape.count := by
      rw [← NumberShape.isSome_setComponent_iff, done]
      rfl
    obtain ⟨edited', done', changed⟩ := NumberShape.words_setComponent inside number value
    obtain rfl := Option.some.inj (done.symm.trans done')
    exact changed
  · intro type value
    exact type.editsOne value index number

/-- Two boxes, each from a lower to an upper corner. -/
def NumberShape.boxes : NumberShape := .array 2 (.bounds (.compound .point2D))

/-- The second box has its lower corner moved up. -/
theorem setComponent_touches_one_boxes :
    5 < NumberShape.boxes.count ∧
    ∃ edited,
      NumberShape.boxes.setComponent 5 0.5
        (NumberShape.boxes.ofNumbers [1, 2, 3, 4, -1, -2, -3, -4]) = some edited ∧
      (NumberShape.boxes.words edited).map (BitVec.toNat ·) =
        [0x3F800000, 0x40000000, 0x40400000, 0x40800000, 0xBF800000, 0x3F000000, 0xC0400000,
          0xC0800000] := by
  have inside : 5 < NumberShape.boxes.count := by decide
  obtain ⟨-, done_iff, touched⟩ := (setComponent_touches_one 5 0.5).1 NumberShape.boxes
    (NumberShape.boxes.ofNumbers [1, 2, 3, 4, -1, -2, -3, -4])
  obtain ⟨edited, done⟩ := Option.isSome_iff_exists.mp (done_iff.mpr inside)
  refine ⟨inside, edited, done, ?_⟩
  rw [touched edited done]
  decide +kernel

end TagSchema
