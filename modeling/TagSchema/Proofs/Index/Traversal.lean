import Mathlib.Data.List.Basic
import TagSchema.Proofs.Every
import TagSchema.Proofs.Index.Places

/-!
# The validator finds the bad indices

While the validator walks through a value, the stack has the frame of the root below the frames of
the elements on the way. No index points into one of these elements, so it finds the array of the
root (`ContainmentStack.Holds.arrayLength?_eq`). The verdict on each index is then that of its
route, and the walk puts the verdicts together.
-/

namespace TagSchema

/-! ### The frame of the root -/

namespace ContainmentStack

variable {stack : ContainmentStack} {root frame : Frame} {inside : List String}

/-- The outermost frame is that of the root, and those above it are of structs of the given names,
the innermost one first. -/
structure Holds (stack : ContainmentStack) (root : Frame) (inside : List String) : Prop where
  valid : ∀ position ∈ stack.positions, position < stack.arena.length
  frames : ∃ above, stack.frames = above ++ [root] ∧ above.map (·.struct) = inside

/-- The innermost frame is the one that was entered last. -/
theorem frames_enter (valid : ∀ position ∈ stack.positions, position < stack.arena.length)
    (frame : Frame) : (stack.enter frame).frames = frame :: stack.frames := by
  have last : (stack.arena ++ [frame])[stack.arena.length]? = some frame :=
    List.getElem?_concat_length
  simp only [frames, enter, List.reverse_append, List.reverse_singleton, List.singleton_append,
    List.filterMap_cons, last]
  refine congrArg (frame :: ·) (List.filterMap_congr fun position h => ?_)
  exact List.getElem?_append_left (valid position (List.mem_reverse.mp h))

theorem Holds.enter (holds : stack.Holds root inside) (frame : Frame) :
    (stack.enter frame).Holds root (frame.struct :: inside) where
  valid position h := by
    have length : (stack.enter frame).arena.length = stack.arena.length + 1 := by
      simp [ContainmentStack.enter]
    rw [length]
    obtain old | new := List.mem_append.mp h
    · exact Nat.lt_succ_of_lt (holds.valid position old)
    · exact List.mem_singleton.mp new ▸ Nat.lt_succ_self _
  frames := by
    obtain ⟨above, frames, names⟩ := holds.frames
    exact ⟨frame :: above, by rw [frames_enter holds.valid, frames, List.cons_append],
      by rw [List.map_cons, names]⟩

theorem holds_root (root : Frame) : (enter {} root).Holds root [] :=
  ⟨by simp [enter], [], rfl, rfl⟩

/-- An index into none of the structs above the root finds the array of the root, if it points into
the root at all. -/
theorem Holds.arrayLength?_eq (holds : stack.Holds root inside) {structs : List String}
    (avoids : ∀ name ∈ inside, name ∉ structs) (member : String) :
    stack.arrayLength? structs member =
      if root.struct ∈ structs then (root.lengths.find? (·.1 = member)).map (·.2) else none := by
  obtain ⟨above, frames, rfl⟩ := holds.frames
  have missing : above.find? (fun frame => structs.contains frame.struct) = none := by
    refine List.find?_eq_none.mpr fun frame h => ?_
    simpa using avoids frame.struct (List.mem_map_of_mem h)
  rw [arrayLength?, frames, List.find?_append, missing, Option.none_or]
  by_cases into : root.struct ∈ structs
  · simp [into]
  · simp [into]

end ContainmentStack

open ContainmentStack

variable {routes : List IndexRoute} {root : Frame} {inside arrays : List String}
  {stack : ContainmentStack}

/-! ### The verdict on one index -/

/-- The verdict of the routes on an index at a place below a root. -/
def passesAny (routes : List IndexRoute) (root : Frame) (place : Place)
    (index : Primitive.u16.Word) : Bool :=
  routes.any (·.isPassed root.lengths place index)

/-- Only the routes to a place have a say on its index. -/
theorem passesAny_eq (place : Place) (index : Primitive.u16.Word) :
    passesAny routes root place index =
      ((routes.filter fun route => decide (route.arrays = place.elements.map Prod.fst ∧
        route.member = place.member)).map (·.target)).any fun target =>
          decide (index.toNat ≠ nullIndex.toNat) &&
            (root.lengths.find? (·.1 = target)).any (·.2 ≤ index.toNat) := by
  rw [passesAny, List.any_map, List.any_filter]
  congr 1
  funext route
  simp only [IndexRoute.isPassed, Function.comp, Bool.decide_and, Bool.and_assoc]

/-- Where a member is routed, the stack says of its index what the routes say. -/
theorem isSome_passedLength? (holds : stack.Holds root inside) {target : IndexTarget}
    (avoids : (LeafType.plain (.index (some target))).avoids inside = true)
    {place : Place} (routed : (routes.filter fun route =>
        decide (route.arrays = place.elements.map Prod.fst ∧ route.member = place.member)).map
          (·.target) = (LeafType.plain (.index (some target))).rootTargets root.struct)
    (index : Primitive.u16.Word) :
    (stack.passedLength? target.tags target.member index.toNat).isSome =
      passesAny routes root place index := by
  have names : ∀ name ∈ inside, name ∉ target.tags := by
    simpa [LeafType.avoids] using avoids
  rw [passesAny_eq, routed, passedLength?, holds.arrayLength?_eq names, LeafType.rootTargets]
  by_cases isNull : index.toNat = nullIndex.toNat
  · split <;> simp [isNull]
  · by_cases into : root.struct ∈ target.tags
    · rw [if_neg isNull, if_pos into, if_pos into]
      cases found : root.lengths.find? (·.1 = target.member) with
      | none => simp [found]
      | some length => simp [found, isNull, Option.isSome_filter]
    · simp [isNull, into]

/-! ### The walk -/

/-- Sets the indices to null that the routes say are passed. -/
def nullPassed (routes : List IndexRoute) (root : Frame) (place : Place)
    (index : Primitive.u16.Word) : Primitive.u16.Word :=
  if passesAny routes root place index then nullIndex.toBitVec else index

/-- The check of a routed member. -/
theorem LeafCheck.indices_eq (holds : stack.Holds root inside) (type : LeafType) (place : Place)
    (avoids : type.avoids inside = true)
    (routed : (routes.filter fun route =>
        decide (route.arrays = place.elements.map Prod.fst ∧ route.member = place.member)).map
          (·.target) = type.rootTargets root.struct) (fix : Bool) (value : type.Value) :
    LeafCheck.indices fix stack type value =
      ((type.index? value).any (passesAny routes root place),
        if fix then type.mapIndex (nullPassed routes root place) value else value) := by
  cases type with
  | dependency | blob => cases fix <;> rfl
  | plain type =>
    cases type with
    | index target =>
      cases target with
      | none =>
        -- An index into nothing has no route.
        have passes : passesAny routes root place = fun _ => false := by
          funext index
          rw [passesAny_eq, routed]
          rfl
        have mends : nullPassed routes root place = id := by
          funext index
          rw [nullPassed, passes]
          rfl
        rw [passes, mends]
        cases fix <;> rfl
      | some target =>
        have verdict : ∀ index : Primitive.u16.Word,
            (if (stack.passedLength? target.tags target.member index.toNat).isSome then
              (true, if fix then nullIndex.toBitVec else index) else (false, index)) =
            (passesAny routes root place index,
              if fix then nullPassed routes root place index else index) := by
          intro index
          rw [isSome_passedLength? holds avoids routed, nullPassed]
          cases passesAny routes root place index <;> cases fix <;> rfl
        exact verdict value
    | number | enum | bitfield | tagId | tagString | fourCC | padding => cases fix <;> rfl

/-- A check of items in turn, when the check of each is known by its position. -/
theorem checkAll_eq {α : Type} {fix : Bool} {check : α → Bool × α} {finds : α → Nat → Bool}
    {mend : α → Nat → α}
    (each : ∀ item i, check item = (finds item i, if fix then mend item i else item))
    (items : List α) (start : Nat) :
    checkAll fix check items = ((items.zipIdx start).any fun entry => finds entry.1 entry.2,
      if fix then (items.zipIdx start).map fun entry => mend entry.1 entry.2 else items) := by
  induction items generalizing start with
  | nil => cases fix <;> rfl
  | cons item rest ih =>
    rw [checkAll, each item start, ih (start + 1), List.zipIdx_cons, List.any_cons, List.map_cons]
    cases fix <;> cases finds item start <;> rfl

/-- The validator finds the indices that the routes say are passed, and mends them. -/
theorem Members.traverse_indices (members : Members) (above : List (String × Nat))
    (holds : stack.Holds root inside)
    (routed : members.isRouted routes root.struct inside (above.map Prod.fst) = true) (fix : Bool)
    (value : members.Value) :
    members.traverse .indices fix stack value =
      ((members.indices above value).any fun entry => passesAny routes root entry.1 entry.2,
        if fix then members.mapIndices (nullPassed routes root) above value else value) := by
  induction members generalizing stack inside above with
  | nil => cases fix <;> rfl
  | leaf traits type rest ih =>
    simp only [isRouted, Bool.and_eq_true, decide_eq_true_eq] at routed
    obtain ⟨⟨avoids, here⟩, others⟩ := routed
    have first := LeafCheck.indices_eq holds type ⟨above, traits.identifier⟩ avoids here fix value.1
    rw [traverse, first, ih above holds others value.2]
    refine (andThen_eq ..).trans (Prod.ext ?_ rfl)
    rw [indices, List.any_append, List.any_map]
    cases type.index? value.1 with
    | none => rfl
    | some index => exact congrArg (· || _) (Bool.or_false _).symm
  | array traits limits name title element rest ihElement ih =>
    simp only [isRouted, Bool.and_eq_true] at routed
    obtain ⟨inner, others⟩ := routed
    -- An element is traversed with its place added to the way above, and so routed like the member.
    have each : ∀ item i, element.traverse .indices fix
          (stack.enter { struct := name, lengths := element.lengths item }) item =
        ((element.indices (above ++ [(traits.identifier, i)]) item).any
            fun entry => passesAny routes root entry.1 entry.2,
          if fix then element.mapIndices (nullPassed routes root)
            (above ++ [(traits.identifier, i)]) item else item) := by
      intro item i
      refine ihElement _ (holds.enter _) ?_ item
      rwa [List.map_append]
    rw [traverse, checkAll_eq each value.1 0, ih above holds others value.2]
    refine (andThen_eq ..).trans (Prod.ext ?_ rfl)
    rw [indices, List.any_append, List.any_flatMap]

end TagSchema
