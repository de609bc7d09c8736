import TagSchema.Struct.PackedForm
import TagSchema.Struct.Validate

/-!
# Properties of every member

A property of single members extends to whole values: all members have it, the elements of arrays
included. A property may depend on the structs around a member, so it is given the stack that
validators and builds have when they come to the member. A validator finds nothing exactly if its
check finds nothing in any member.
-/

namespace TagSchema

/-- A property of single members inside of some structs. -/
abbrev LeafProperty := ContainmentStack → (type : LeafType) → type.Value → Prop

namespace LeafProperty

/-- Both properties. -/
def both (p q : LeafProperty) : LeafProperty :=
  fun stack type value => p stack type value ∧ q stack type value

/-- The property that all members have. -/
def any : LeafProperty := fun _ _ _ => True

instance (stack : ContainmentStack) (type : LeafType) (value : type.Value) :
    Decidable (any stack type value) := .isTrue trivial

theorem any_both (p : LeafProperty) : any.both p = p := by
  funext stack type value
  exact true_and _

/-- What the property of finding nothing is for a check. -/
def unfound (check : LeafCheck) : LeafProperty :=
  fun stack type value => (check false stack type value).1 = false

end LeafProperty

open LeafProperty

namespace Members

/-- All members have the property `own`, and all inside of their arrays have the property `inner`,
at every depth. The stack has the frame of the struct that the members belong to. -/
def Every (own inner : LeafProperty) (stack : ContainmentStack) : (members : Members) →
    members.Value → Prop
  | .nil, _ => True
  | .leaf _ type rest, value => own stack type value.1 ∧ rest.Every own inner stack value.2
  | .array _ _ name _ element rest, value =>
    (∀ item ∈ value.1, element.Every inner inner (stack.enter (element.frame name item)) item) ∧
      rest.Every own inner stack value.2

instance decidableEvery (own inner : LeafProperty)
    [∀ stack type value, Decidable (own stack type value)]
    [∀ stack type value, Decidable (inner stack type value)] (stack : ContainmentStack) :
    (members : Members) → (value : members.Value) → Decidable (members.Every own inner stack value)
  | .nil, _ => .isTrue trivial
  | .leaf _ type rest, value =>
    have := rest.decidableEvery own inner stack value.2
    inferInstanceAs (Decidable (own stack type value.1 ∧ rest.Every own inner stack value.2))
  | .array _ _ name _ element rest, value =>
    have := fun item =>
      element.decidableEvery inner inner (stack.enter (element.frame name item)) item
    have := rest.decidableEvery own inner stack value.2
    inferInstanceAs (Decidable ((∀ item ∈ value.1,
      element.Every inner inner (stack.enter (element.frame name item)) item) ∧
        rest.Every own inner stack value.2))

variable {own inner own' inner' : LeafProperty} {stack : ContainmentStack}

theorem Every.mono (members : Members) {value : members.Value}
    (h : members.Every own inner stack value)
    (hown : ∀ stack type value, own stack type value → own' stack type value)
    (hinner : ∀ stack type value, inner stack type value → inner' stack type value) :
    members.Every own' inner' stack value := by
  induction members generalizing own own' stack with
  | nil => trivial
  | leaf traits type rest ih => exact ⟨hown _ _ _ h.1, ih h.2 hown⟩
  | array traits limits name title element rest ihElement ih =>
    exact ⟨fun item mem => ihElement (h.1 item mem) hinner, ih h.2 hown⟩

theorem every_both (members : Members) {value : members.Value} :
    members.Every (own.both own') (inner.both inner') stack value ↔
      members.Every own inner stack value ∧ members.Every own' inner' stack value := by
  induction members generalizing own own' stack with
  | nil => exact (and_self_iff).symm
  | leaf traits type rest ih =>
    rw [Every, Every, Every, ih]
    exact and_and_and_comm
  | array traits limits name title element rest ihElement ih =>
    simp only [Every, ih, ihElement, forall_and]
    exact and_and_and_comm

theorem every_any (members : Members) (value : members.Value) :
    members.Every any any stack value := by
  induction members generalizing stack with
  | nil => trivial
  | leaf traits type rest ih => exact ⟨trivial, ih value.2⟩
  | array traits limits name title element rest ihElement ih =>
    exact ⟨fun item _ => ihElement item, ih value.2⟩

end Members

/-- All members of a value have a property, at every depth. -/
def StructType.Every (p : LeafProperty) (type : StructType) (value : type.Value) : Prop :=
  type.members.Every p p (ContainmentStack.enter {} (type.members.frame type.name value)) value

namespace StructType

variable {type : StructType} {value : type.Value} {p q : LeafProperty}

instance [∀ stack type value, Decidable (p stack type value)] : Decidable (type.Every p value) :=
  Members.decidableEvery p p _ type.members value

theorem Every.mono (h : type.Every p value)
    (more : ∀ stack type value, p stack type value → q stack type value) : type.Every q value :=
  Members.Every.mono type.members h more more

theorem every_congr (h : ∀ stack type value, p stack type value ↔ q stack type value) :
    type.Every p value ↔ type.Every q value :=
  ⟨fun every => every.mono fun stack type value => (h stack type value).mp,
    fun every => every.mono fun stack type value => (h stack type value).mpr⟩

theorem every_both : type.Every (p.both q) value ↔ type.Every p value ∧ type.Every q value :=
  type.members.every_both

end StructType

/-! ### Validators -/

/-- A step of a check and what follows it, when each says what it finds and mends only if told
to. -/
theorem andThen_eq {α β : Type} (fix found later : Bool) (a mended : α) (b mendedLater : β) :
    (if found && !fix then (true, (if fix then mended else a, b))
      else
        (found || later, (if fix then mended else a, if fix then mendedLater else b))) =
      (found || later, if fix then (mended, mendedLater) else (a, b)) := by
  cases fix <;> cases found <;> rfl

/-- A step of a check and what follows it find nothing if neither of them does. -/
theorem andThen_eq_false {α : Type} {found later : Bool} {here whole : α} :
    (if found && !false then (true, here) else (found || later, whole)).1 = false ↔
      found = false ∧ later = false := by
  cases found <;> simp

theorem checkAll_eq_false {α : Type} {check : α → Bool × α} {items : List α} :
    (checkAll false check items).1 = false ↔ ∀ item ∈ items, (check item).1 = false := by
  induction items with
  | nil => simp [checkAll]
  | cons item rest ih =>
    rw [List.forall_mem_cons, ← ih]
    exact andThen_eq_false

/-- A validator that mends nothing finds nothing if there is nothing to be found in any member. -/
theorem Members.traverse_eq_false (check : LeafCheck) {stack : ContainmentStack} (members : Members)
    {value : members.Value} : (members.traverse check false stack value).1 = false ↔
      members.Every (unfound check) (unfound check) stack value := by
  induction members generalizing stack with
  | nil => exact iff_of_true rfl trivial
  | leaf traits type rest ih =>
    rw [Every, ← ih]
    exact andThen_eq_false
  | array traits limits name title element rest ihElement ih =>
    rw [Every, ← ih]
    refine andThen_eq_false.trans (and_congr_left' (checkAll_eq_false.trans ?_))
    exact forall₂_congr fun item _ => ihElement

theorem StructType.traverse_eq_false (check : LeafCheck) {type : StructType} {value : type.Value} :
    (type.traverse check false value).1 = false ↔ type.Every (unfound check) value :=
  type.members.traverse_eq_false check

end TagSchema
