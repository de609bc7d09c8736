import Mathlib.Data.List.Basic
import TagSchema.Proofs.Every

/-!
# What a validator does to a value

A validator that mends changes the members of a value one by one, each inside the same structs as
before: the lengths of arrays stay as they are. So what it does to the value is what its check does
to a single member, spread over all of them, and laws of single members are laws of values.
-/

namespace TagSchema

variable {α β : Type}

/-! ### Checks that can be relied on -/

/-- What a check finds does not depend on whether it mends, it changes something only if it mends,
and then nothing unless it has found something. -/
def Mends (check : (fix : Bool) → α → Bool × α) (mend : α → α) : Prop :=
  ∀ a, ∃ found, (∀ fix, check fix a = (found, if fix then mend a else a)) ∧
    (found = false → mend a = a)

namespace Mends

variable {check : Bool → α → Bool × α} {mend : α → α}

/-- A check that is not told to mend leaves the value as it is. -/
theorem keeps (h : Mends check mend) (a : α) : (check false a).2 = a := by
  obtain ⟨found, eq, -⟩ := h a
  rw [eq]
  rfl

theorem mended (h : Mends check mend) (a : α) : (check true a).2 = mend a := by
  obtain ⟨found, eq, -⟩ := h a
  rw [eq]
  rfl

/-- What is found does not depend on whether it is mended. -/
theorem found_eq (h : Mends check mend) (fix : Bool) (a : α) :
    (check fix a).1 = (check false a).1 := by
  obtain ⟨found, eq, -⟩ := h a
  rw [eq, eq]

/-- Where nothing is found there is nothing to mend. -/
theorem idle (h : Mends check mend) {a : α} (nothing : (check false a).1 = false) :
    mend a = a := by
  obtain ⟨found, eq, idle⟩ := h a
  rw [eq] at nothing
  exact idle nothing

/-- A check that either finds nothing or has something to put in the place of what it finds. -/
theorem of_cases (h : ∀ a, (∀ fix, check fix a = (false, a)) ∨
    ∃ b, ∀ fix, check fix a = (true, if fix then b else a)) :
    Mends check fun a => (check true a).2 := by
  intro a
  obtain nothing | ⟨b, something⟩ := h a
  · have kept : (check true a).2 = a := by rw [nothing]
    exact ⟨false, fun fix => by simp only [nothing, ite_self], fun _ => kept⟩
  · exact ⟨true, fun fix => by simp only [something, if_true], fun h => by cases h⟩

theorem congr {check' : Bool → α → Bool × α} (h : Mends check mend)
    (same : ∀ fix a, check' fix a = check fix a) : Mends check' fun a => (check' true a).2 := by
  intro a
  obtain ⟨found, eq, idle⟩ := h a
  have mended : (check' true a).2 = mend a := by rw [same, h.mended]
  refine ⟨found, fun fix => ?_, fun nothing => mended.trans (idle nothing)⟩
  dsimp only
  rw [same, eq, mended]

/-- A check of the items of a list mends each of them. -/
theorem checkAll (h : Mends check mend) :
    Mends (fun fix items => checkAll fix (check fix) items) (List.map mend) := by
  intro items
  induction items with
  | nil => exact ⟨false, fun fix => by cases fix <;> rfl, fun _ => rfl⟩
  | cons item rest ih =>
    obtain ⟨found, here, idle⟩ := h item
    obtain ⟨later, there, idle'⟩ := ih
    refine ⟨found || later, fun fix => ?_, fun nothing => ?_⟩
    · dsimp only at there ⊢
      rw [TagSchema.checkAll, here, there]
      cases fix <;> cases found <;> rfl
    · obtain ⟨hfound, hlater⟩ := Bool.or_eq_false_iff.mp nothing
      rw [List.map_cons, idle hfound, idle' hlater]

/-- A check of all items of a vector mends each of them. -/
theorem vector (h : Mends check mend) (n : Nat) :
    Mends (fun fix (items : Vector α n) =>
      (((items.map (check fix)).map (·.1)).any id, (items.map (check fix)).map (·.2)))
      (Vector.map mend) := by
  intro items
  simp only [Vector.map_map]
  refine ⟨(items.map fun item => (check false item).1).any id, fun fix => Prod.ext ?_ ?_,
    fun nothing => ?_⟩
  · exact congrArg (fun f => (items.map f).any id) (funext fun item => h.found_eq fix item)
  · cases fix with
    | true => exact congrArg (items.map ·) (funext h.mended)
    | false => exact (congrArg (items.map ·) (funext h.keeps)).trans (Vector.map_id ..)
  · refine Vector.ext fun i hi => ?_
    rw [Vector.getElem_map]
    refine h.idle ?_
    rw [Vector.any_eq_false] at nothing
    simpa using nothing i hi

end Mends

/-! ### Changes of members -/

/-- A change of single members inside of some structs. -/
abbrev LeafChange := ContainmentStack → (type : LeafType) → type.Value → type.Value

namespace Members

/-- All members changed, at every depth. The stack has the frame of the struct that the members
belong to. -/
def mapLeaves (change : LeafChange) (stack : ContainmentStack) : (members : Members) →
    members.Value → members.Value
  | .nil, _ => ()
  | .leaf _ type rest, value => (change stack type value.1, rest.mapLeaves change stack value.2)
  | .array _ _ name _ element rest, value =>
    (value.1.map fun item => element.mapLeaves change (stack.enter (element.frame name item)) item,
      rest.mapLeaves change stack value.2)

/-- The types of all members that are no arrays, at every depth. -/
def leaves : Members → List LeafType
  | .nil => []
  | .leaf _ type rest => type :: rest.leaves
  | .array _ _ _ _ element rest => element.leaves ++ rest.leaves

variable {change change' : LeafChange} {stack : ContainmentStack}

@[simp] theorem lengths_mapLeaves (members : Members) (value : members.Value) :
    members.lengths (members.mapLeaves change stack value) = members.lengths value := by
  induction members with
  | nil => rfl
  | leaf traits type rest ih => exact ih value.2
  | array traits limits name title element rest ihElement ih =>
    refine List.cons_eq_cons.mpr ⟨?_, ih value.2⟩
    exact congrArg (Prod.mk traits.identifier) (List.length_map ..)

/-- The frame of a struct does not see changes of members. -/
@[simp] theorem frame_mapLeaves (members : Members) (name : String) (value : members.Value) :
    members.frame name (members.mapLeaves change stack value) = members.frame name value := by
  rw [frame, lengths_mapLeaves, frame]

/-- Changes to single members are made one after the other: neither touches what the other needs to
know of the structs around. -/
theorem mapLeaves_mapLeaves (members : Members) (value : members.Value) :
    members.mapLeaves change' stack (members.mapLeaves change stack value) =
      members.mapLeaves (fun stack type value => change' stack type (change stack type value))
        stack value := by
  induction members generalizing stack with
  | nil => rfl
  | leaf traits type rest ih => exact Prod.ext rfl (ih value.2)
  | array traits limits name title element rest ihElement ih =>
    refine Prod.ext ?_ (ih value.2)
    simp only [mapLeaves, List.map_map]
    refine List.map_congr_left fun item _ => ?_
    simp only [Function.comp, frame_mapLeaves]
    exact ihElement item

/-- A property of the changed members is one of the members. -/
theorem every_mapLeaves {own inner : LeafProperty} (members : Members) (value : members.Value) :
    members.Every own inner stack (members.mapLeaves change stack value) ↔
      members.Every (fun stack type value => own stack type (change stack type value))
        (fun stack type value => inner stack type (change stack type value)) stack value := by
  induction members generalizing own stack with
  | nil => rfl
  | leaf traits type rest ih => exact and_congr_right' (ih value.2)
  | array traits limits name title element rest ihElement ih =>
    refine and_congr ?_ (ih value.2)
    simp only [mapLeaves, List.forall_mem_map, frame_mapLeaves]
    exact forall₂_congr fun item _ => ihElement item

/-- A property that all values of the members' types have is one of every member. -/
theorem every_of_leaves {property : LeafProperty} (members : Members)
    (h : ∀ type ∈ members.leaves, ∀ stack value, property stack type value)
    (value : members.Value) : members.Every property property stack value := by
  induction members generalizing stack with
  | nil => trivial
  | leaf traits type rest ih =>
    obtain ⟨here, later⟩ := List.forall_mem_cons.mp h
    exact ⟨here _ _, ih later value.2⟩
  | array traits limits name title element rest ihElement ih =>
    obtain ⟨inside, later⟩ := List.forall_mem_append.mp h
    exact ⟨fun item _ => ihElement inside item, ih later value.2⟩

end Members

/-! ### Validators -/

namespace LeafCheck

/-- What the check makes of a member when it mends. -/
def mend (check : LeafCheck) : LeafChange := fun stack type value => (check true stack type value).2

/-- Whether the check can be relied on at every member. -/
def IsExact (check : LeafCheck) : Prop :=
  ∀ stack type, Mends (fun fix value => check fix stack type value) (check.mend stack type)

end LeafCheck

variable {check : LeafCheck}

/-- A validator mends each member of a value. -/
theorem Members.mends_traverse (exact : check.IsExact) (members : Members)
    (stack : ContainmentStack) :
    Mends (fun fix value => members.traverse check fix stack value)
      (members.mapLeaves check.mend stack) := by
  induction members generalizing stack with
  | nil => exact fun value => ⟨false, fun fix => by cases fix <;> rfl, fun _ => rfl⟩
  | leaf traits type rest ih =>
    intro value
    obtain ⟨found, here, idle⟩ := exact stack type value.1
    obtain ⟨later, there, idle'⟩ := ih stack value.2
    refine ⟨found || later, fun fix => ?_, fun nothing => ?_⟩
    · dsimp only at here there ⊢
      rw [traverse, here, there]
      exact andThen_eq ..
    · obtain ⟨hfound, hlater⟩ := Bool.or_eq_false_iff.mp nothing
      exact Prod.ext (idle hfound) (idle' hlater)
  | array traits limits name title element rest ihElement ih =>
    intro value
    have items : Mends (fun fix item => element.traverse check fix
          (stack.enter (element.frame name item)) item)
        (fun item => element.mapLeaves check.mend (stack.enter (element.frame name item)) item) :=
      fun item => ihElement _ item
    -- Mending an element does not change what those inside it see of the structs around.
    obtain ⟨found, here, idle⟩ := items.checkAll value.1
    obtain ⟨later, there, idle'⟩ := ih stack value.2
    refine ⟨found || later, fun fix => ?_, fun nothing => ?_⟩
    · have here := here fix
      dsimp only [frame] at here there ⊢
      rw [traverse, here, there]
      exact andThen_eq ..
    · obtain ⟨hfound, hlater⟩ := Bool.or_eq_false_iff.mp nothing
      exact Prod.ext (idle hfound) (idle' hlater)

namespace StructType

/-- All members of a value changed, at every depth. -/
def mapLeaves (change : LeafChange) (type : StructType) (value : type.Value) : type.Value :=
  type.members.mapLeaves change (ContainmentStack.enter {} (type.members.frame type.name value))
    value

variable (type : StructType)

/-- A validator mends what its check does, member by member, and finds something if the check does
anywhere. -/
theorem mends_traverse (exact : check.IsExact) :
    Mends (fun fix value => type.traverse check fix value) (type.mapLeaves check.mend) :=
  fun value => type.members.mends_traverse exact _ value

theorem mapLeaves_mapLeaves (change change' : LeafChange) (value : type.Value) :
    type.mapLeaves change' (type.mapLeaves change value) =
      type.mapLeaves (fun stack type value => change' stack type (change stack type value))
        value := by
  rw [mapLeaves, mapLeaves, Members.frame_mapLeaves]
  exact type.members.mapLeaves_mapLeaves value

/-- A property of a changed value is one of the members of the value. -/
theorem every_mapLeaves (property : LeafProperty) (change : LeafChange) (value : type.Value) :
    type.Every property (type.mapLeaves change value) ↔
      type.Every (fun stack type value => property stack type (change stack type value)) value := by
  rw [Every, mapLeaves, Members.frame_mapLeaves]
  exact type.members.every_mapLeaves value

/-- After mending, a validator finds nothing if and only if its check finds nothing in any mended
member. -/
theorem traverse_mapLeaves_eq_false (value : type.Value) :
    (type.traverse check false (type.mapLeaves check.mend value)).1 = false ↔
      type.Every (fun stack type value =>
        (check false stack type (check.mend stack type value)).1 = false) value :=
  (type.traverse_eq_false check).trans (type.every_mapLeaves ..)

end StructType

end TagSchema
