import TagSchema.Proofs.Mending.Leaves
import TagSchema.Proofs.Regular

/-!
# Validators of structure

Four of the validators look at different kinds of members: numbers, indices, references and enums.
What they make of a member they accept, so that one of them finds nothing in a value that it has
mended, and since they leave each other's members alone, they may mend in any order. The limits of
a number must not contradict each other for this; those of the catalog do not.
-/

namespace TagSchema

/-! ### Numbers -/

namespace NumberShape

/-- The words of a number are changed one by one. -/
theorem words_mapWords (shape : NumberShape) (f : shape.component.Word → shape.component.Word)
    (value : shape.Value) : shape.words (shape.mapWords f value) = (shape.words value).map f := by
  induction shape with
  | scalar type => rfl
  | compound type => exact Vector.toList_map ..
  | bounds shape ih =>
    exact (congrArg₂ (· ++ ·) (ih f value.1) (ih f value.2)).trans List.map_append.symm
  | array count shape ih =>
    have all (f : shape.component.Word → shape.component.Word) (items : List shape.Value) :
        (items.map (shape.mapWords f)).flatMap shape.words =
          (items.flatMap shape.words).map f := by
      rw [List.flatMap_map, List.map_flatMap]
      exact congrArg (List.flatMap · items) (funext (ih f))
    exact (congrArg (List.flatMap shape.words) (Vector.toList_map ..)).trans (all f _)

/-- A number stays as it is if all of its words do. -/
theorem mapWords_eq_self (shape : NumberShape) {f : shape.component.Word → shape.component.Word}
    {value : shape.Value} (h : ∀ word ∈ shape.words value, f word = word) :
    shape.mapWords f value = value := by
  induction shape with
  | scalar type => exact h value (List.mem_singleton.mpr rfl)
  | compound type =>
    refine Vector.toList_inj.mp ((Vector.toList_map ..).trans ?_)
    exact (List.map_congr_left h).trans (List.map_id _)
  | bounds shape ih =>
    obtain ⟨lower, upper⟩ := List.forall_mem_append.mp h
    exact Prod.ext (ih lower) (ih upper)
  | array count shape ih =>
    refine Vector.toList_inj.mp ((Vector.toList_map ..).trans ?_)
    refine (List.map_congr_left fun item mem => ?_).trans (List.map_id _)
    exact ih fun word mem' => h word (List.mem_flatMap.mpr ⟨item, mem, mem'⟩)

/-- A check of every word of a number mends each of them. -/
theorem mends_words (shape : NumberShape)
    {check : Bool → shape.component.Word → Bool × shape.component.Word}
    {mend : shape.component.Word → shape.component.Word} (h : Mends check mend) :
    Mends (fun fix value => ((shape.words value).any fun word => (check fix word).1,
      shape.mapWords (fun word => (check fix word).2) value)) (shape.mapWords mend) := by
  intro value
  refine ⟨(shape.words value).any fun word => (check false word).1, fun fix => ?_,
    fun nothing => ?_⟩
  · refine Prod.ext ?_ ?_
    · exact congrArg (shape.words value).any (funext fun word => h.found_eq fix word)
    cases fix with
    | true => exact congrArg (shape.mapWords · value) (funext h.mended)
    | false => exact shape.mapWords_eq_self fun word _ => h.keeps word
  · refine shape.mapWords_eq_self fun word mem => h.idle ?_
    exact Bool.eq_false_iff.mpr (List.any_eq_false.mp nothing word mem)

end NumberShape

namespace Primitive

variable {type : Primitive} {minimum maximum : Option type.Word}

/-- What a word is moved to, if it lies outside its limits. -/
def clamp (type : Primitive) (minimum maximum : Option type.Word) (word : type.Word) : type.Word :=
  (type.fixRange minimum maximum true word).2

/-- A word out of its limits is mended by the nearest limit. -/
theorem mends_fixRange (minimum maximum : Option type.Word) :
    Mends (type.fixRange minimum maximum) (type.clamp minimum maximum) := by
  refine .of_cases fun word => ?_
  simp only [fixRange]
  split
  next limit _ => exact .inr ⟨limit, fun _ => rfl⟩
  next limit _ _ => exact .inr ⟨limit, fun _ => rfl⟩
  next => exact .inl fun _ => rfl

/-- Whether the limits lie within the limits: neither is below or above itself, and the minimum is
not above the maximum. -/
def limitsAgree (type : Primitive) (minimum maximum : Option type.Word) : Bool :=
  (minimum.toList ++ maximum.toList).all fun limit => !(type.fixRange minimum maximum false limit).1

/-- A word within its limits is not found, if the limits do not contradict each other. -/
theorem fixRange_clamp (agree : type.limitsAgree minimum maximum) (word : type.Word) :
    (type.fixRange minimum maximum false (type.clamp minimum maximum word)).1 = false := by
  have limits : ∀ limit, minimum = some limit ∨ maximum = some limit →
      (type.fixRange minimum maximum false limit).1 = false := by
    intro limit mem
    have := List.all_eq_true.mp agree limit (by simpa using mem)
    simpa using this
  rw [clamp]
  conv in type.fixRange minimum maximum true word => rw [fixRange]
  split
  next limit passed => exact limits limit (.inl (Option.filter_eq_some_iff.mp passed).1)
  next limit _ passed => exact limits limit (.inr (Option.filter_eq_some_iff.mp passed).1)
  next below above => rw [fixRange, below, above]

end Primitive

namespace NumberShape

variable (shape : NumberShape) (minimum maximum : Option Binary64)

/-- A limit as a word. -/
def limit (x : Binary64) : shape.component.Word := shape.component.ofFloat x.toFloat

/-- A number with all of its words inside of the limits. -/
def clamp (value : shape.Value) : shape.Value :=
  shape.mapWords (shape.component.clamp (minimum.map shape.limit) (maximum.map shape.limit)) value

/-- Whether the limits of a number lie within the limits. -/
def limitsAgree : Bool :=
  shape.component.limitsAgree (minimum.map shape.limit) (maximum.map shape.limit)

/-- A number is mended word by word. -/
theorem mends_fixRange :
    Mends (fun fix value => shape.fixRange minimum maximum fix value)
      (shape.clamp minimum maximum) :=
  shape.mends_words (Primitive.mends_fixRange (minimum.map shape.limit) (maximum.map shape.limit))

theorem fixRange_clamp (agree : shape.limitsAgree minimum maximum) (value : shape.Value) :
    (shape.fixRange minimum maximum false (shape.clamp minimum maximum value)).1 = false := by
  refine List.any_eq_false.mpr fun word mem => ?_
  rw [clamp, words_mapWords] at mem
  obtain ⟨word, -, rfl⟩ := List.mem_map.mp mem
  exact Bool.eq_false_iff.mp (Primitive.fixRange_clamp agree word)

end NumberShape

namespace LeafCheck

/-! ### Checks -/

/-- The checks of the structure of a value, in the order of their emission. -/
def structural : List LeafCheck := [ranges, indices, references, enums]

/-- The members that each of them looks at. -/
inductive Looks : LeafCheck → LeafType → Prop where
  | ranges (shape : NumberShape) (rule : NumberRule) : Looks ranges (.plain (.number shape rule))
  | indices (target : IndexTarget) : Looks indices (.plain (.index (some target)))
  | references (classes : List String) (nonNull : Bool) :
      Looks references (.dependency classes nonNull)
  | enums (type : ResolvedEnum) (shiftedByOne : Bool) :
      Looks enums (.plain (.enum type shiftedByOne))

variable {check check' : LeafCheck} {stack : ContainmentStack} {type : LeafType}

/-- The check finds nothing in members of the type. -/
def IsIdleAt (check : LeafCheck) (type : LeafType) : Prop :=
  ∀ fix stack value, check fix stack type value = (false, value)

/-- A check does nothing to a member, or looks at members of its kind. -/
theorem idle_or_looks (mem : check ∈ structural) (type : LeafType) :
    check.IsIdleAt type ∨ check.Looks type := by
  simp only [structural, List.mem_cons, List.not_mem_nil, or_false] at mem
  -- Each check looks at one kind of member and leaves all others alone.
  obtain rfl | rfl | rfl | rfl := mem
  · cases type with
    | plain type =>
      cases type with
      | number shape rule => exact .inr (.ranges shape rule)
      | _ => exact .inl fun _ _ _ => rfl
    | _ => exact .inl fun _ _ _ => rfl
  · cases type with
    | plain type =>
      cases type with
      | index target =>
        cases target with
        | none => exact .inl fun _ _ _ => rfl
        | some target => exact .inr (.indices target)
      | _ => exact .inl fun _ _ _ => rfl
    | _ => exact .inl fun _ _ _ => rfl
  · cases type with
    | dependency classes nonNull => exact .inr (.references classes nonNull)
    | _ => exact .inl fun _ _ _ => rfl
  · cases type with
    | plain type =>
      cases type with
      | enum type shiftedByOne => exact .inr (.enums type shiftedByOne)
      | _ => exact .inl fun _ _ _ => rfl
    | _ => exact .inl fun _ _ _ => rfl

/-- No two of the checks look at the same member. -/
theorem Looks.unique (h : check.Looks type) (h' : check'.Looks type) : check = check' := by
  cases h <;> cases h' <;> rfl

/-- A check that does nothing mends nothing. -/
theorem IsIdleAt.mend_eq (idle : check.IsIdleAt type) (value : type.Value) :
    check.mend stack type value = value := by
  rw [mend, idle]

/-- All checks of structure mend exactly what they find. -/
theorem isExact_of_mem (mem : check ∈ structural) : check.IsExact := by
  intro stack type
  obtain idle | looks := idle_or_looks mem type
  · exact .of_cases fun value => .inl fun fix => idle fix stack value
  -- Each check puts one value in the place of what it finds, and leaves everything else.
  cases looks with
  | ranges shape rule => exact shape.mends_fixRange rule.minimum rule.maximum
  | indices target =>
    refine .of_cases fun (word : Primitive.u16.Word) => ?_
    by_cases passed : (stack.passedLength? target.tags target.member word.toNat).isSome
    · exact .inr ⟨nullIndex.toBitVec, fun fix => if_pos passed⟩
    · exact .inl fun fix => if_neg passed
  | references classes nonNull =>
    refine .of_cases fun (d : Dependency) => ?_
    by_cases allowed : ((allowedClasses classes).isEmpty ||
      (allowedClasses classes).contains d.tagClass) = true
    · exact .inl fun fix => if_pos allowed
    · exact .inr ⟨.nullOf _, fun fix => if_neg allowed⟩
  | enums type shiftedByOne =>
    refine .of_cases fun (word : (Primitive.ofWidth type.width).Word) => ?_
    by_cases named : word.toNat < type.options.length
    · exact .inl fun fix => if_pos named
    · exact .inr ⟨_, fun fix => if_neg named⟩

/-! ### Mended members -/

end LeafCheck

/-- Whether the compounds of a number have a part of unit length. -/
def NumberShape.isNormalizable : NumberShape → Bool
  | .compound type => type.normalizable
  | .array _ shape => shape.isNormalizable
  | _ => true

/-- Whether there is a value to which a member of the type can be mended: the limits of a number do
not contradict each other, it has a part of unit length if it has to be of length one, and an enum
has an option. -/
def LeafType.isMendable : LeafType → Bool
  | .plain (.number shape rule) =>
    shape.limitsAgree rule.minimum rule.maximum && (!rule.normalize || shape.isNormalizable)
  | .plain (.enum type _) => decide (0 < type.options.length)
  | _ => true

namespace LeafCheck

variable {check check' : LeafCheck} {stack : ContainmentStack} {type : LeafType}

/-- Nothing is found in a mended member. -/
theorem unfound_mend (mem : check ∈ structural) (mendable : type.isMendable = true)
    (value : type.Value) : (check false stack type (check.mend stack type value)).1 = false := by
  obtain idle | looks := idle_or_looks mem type
  · rw [idle]
  by_cases nothing : (check false stack type value).1 = false
  · have kept : check.mend stack type value = value := (isExact_of_mem mem stack type).idle nothing
    rwa [kept]
  -- Something was found, so the value is what the check puts in its place.
  cases looks with
  | ranges shape rule =>
    have agree := (Bool.and_eq_true_iff.mp mendable).1
    exact shape.fixRange_clamp rule.minimum rule.maximum agree value
  | indices target =>
    have passed : (stack.passedLength? target.tags target.member
        (BitVec.toNat (value : Primitive.u16.Word))).isSome :=
      by_contra fun h => nothing (congrArg Prod.fst (if_neg h))
    have mended : indices.mend stack (.plain (.index (some target))) value = nullIndex.toBitVec :=
      congrArg Prod.snd (if_pos passed)
    -- The null index passes no array.
    rw [mended]
    rfl
  | references classes nonNull =>
    have refused : ¬((allowedClasses classes).isEmpty || (allowedClasses classes).contains
        (Dependency.tagClass value)) = true :=
      fun h => nothing (congrArg Prod.fst (if_pos h))
    have mended : references.mend stack (.dependency classes nonNull) value =
        Dependency.nullOf ((allowedClasses classes).headD .null) :=
      congrArg Prod.snd (if_neg refused)
    have allowed : ((allowedClasses classes).isEmpty || (allowedClasses classes).contains
        ((allowedClasses classes).headD .null)) = true := by
      cases allowedClasses classes <;> simp
    rw [mended]
    exact congrArg Prod.fst (if_pos allowed)
  | enums type shiftedByOne =>
    have unnamed : ¬BitVec.toNat (value : (Primitive.ofWidth type.width).Word) <
        type.options.length :=
      fun h => nothing (congrArg Prod.fst (if_pos h))
    have mended : enums.mend stack (.plain (.enum type shiftedByOne)) value =
        (PlainType.enum type shiftedByOne).zero := congrArg Prod.snd (if_neg unnamed)
    have named : (0 : (Primitive.ofWidth type.width).Word).toNat < type.options.length := by
      rw [LeafType.isMendable, decide_eq_true_eq] at mendable
      exact mendable
    rw [mended]
    exact congrArg Prod.fst (if_pos named)

/-- Checks of different kinds of members do not see what the others mend. -/
theorem mend_comm (mem : check ∈ structural) (mem' : check' ∈ structural) (value : type.Value) :
    check.mend stack type (check'.mend stack type value) =
      check'.mend stack type (check.mend stack type value) := by
  obtain idle | looks := idle_or_looks mem type
  · rw [idle.mend_eq, idle.mend_eq]
  obtain idle | looks' := idle_or_looks mem' type
  · rw [idle.mend_eq, idle.mend_eq]
  rw [looks.unique looks']

end LeafCheck

/-! ### Values -/

namespace StructType

variable {type : StructType} {check check' : LeafCheck}

/-- What validators make of a value when they mend it one after another. -/
def mendAll (type : StructType) (checks : List LeafCheck) (value : type.Value) : type.Value :=
  checks.foldl (fun value check => (type.traverse check true value).2) value

/-- A value that a validator of structure has mended is one that it accepts. -/
theorem traverse_mended (mem : check ∈ LeafCheck.structural)
    (mendable : ∀ leaf ∈ type.members.leaves, leaf.isMendable = true) (value : type.Value) :
    (type.traverse check false (type.traverse check true value).2).1 = false := by
  have mends := type.mends_traverse (LeafCheck.isExact_of_mem mem)
  rw [mends.mended, traverse_mapLeaves_eq_false]
  exact type.members.every_of_leaves
    (fun leaf mem' _ value => LeafCheck.unfound_mend mem (mendable leaf mem') value) value

/-- So it does not matter which of two validators mends first. -/
theorem mend_comm (mem : check ∈ LeafCheck.structural) (mem' : check' ∈ LeafCheck.structural)
    (value : type.Value) :
    (type.traverse check true (type.traverse check' true value).2).2 =
      (type.traverse check' true (type.traverse check true value).2).2 := by
  have mends := type.mends_traverse (LeafCheck.isExact_of_mem mem)
  have mends' := type.mends_traverse (LeafCheck.isExact_of_mem mem')
  rw [mends.mended, mends'.mended, mends'.mended, mends.mended, mapLeaves_mapLeaves,
    mapLeaves_mapLeaves]
  refine congrArg (type.mapLeaves · value) ?_
  funext stack leaf value
  exact LeafCheck.mend_comm mem mem' value

end StructType

/-- Every member of the catalog has a value that no check finds anything in. -/
theorem Catalog.isMendable_types :
    ∀ type ∈ types, type.members.leaves.all LeafType.isMendable = true := by
  decide +kernel

/-- **Validators of structure are exact, converge, and do not depend on each other.** Without
mending a validator leaves the value as it is. Mending it says the same, and if it finds nothing it
changes nothing. It accepts what it has mended, and mending again changes nothing. In whatever order
all of them mend a value, the result is the same. -/
theorem structural_validators_converge {type : StructType} (known : type ∈ Catalog.types)
    (value : type.Value) :
    (∀ check ∈ LeafCheck.structural,
      (type.traverse check false value).2 = value ∧
      (type.traverse check true value).1 = (type.traverse check false value).1 ∧
      ((type.traverse check true value).1 = false → (type.traverse check true value).2 = value) ∧
      (type.traverse check false (type.traverse check true value).2).1 = false ∧
      type.traverse check true (type.traverse check true value).2 =
        (false, (type.traverse check true value).2)) ∧
    ∀ order : List LeafCheck, order.Perm LeafCheck.structural →
      type.mendAll order value = type.mendAll LeafCheck.structural value := by
  have mendable : ∀ leaf ∈ type.members.leaves, leaf.isMendable = true :=
    List.all_eq_true.mp (Catalog.isMendable_types type known)
  refine ⟨fun check mem => ?_, fun order perm => ?_⟩
  · have mends := type.mends_traverse (LeafCheck.isExact_of_mem mem)
    have accepted := StructType.traverse_mended mem mendable value
    refine ⟨mends.keeps value, mends.found_eq true value, fun nothing => ?_, accepted, ?_⟩
    · rw [mends.mended, mends.idle ((mends.found_eq true value).symm.trans nothing)]
    · exact Prod.ext ((mends.found_eq true _).trans accepted)
        ((mends.mended _).trans (mends.idle accepted))
  · refine perm.foldl_eq' (fun check mem check' mem' value => ?_) value
    exact StructType.mend_comm (perm.mem_iff.mp mem') (perm.mem_iff.mp mem) value

namespace Catalog

/-- A weapon with a number above its maximum, a reference to a tag of no class, and a trigger for a
magazine that it does not have. -/
def broken : weapon.Value :=
  weapon.changed [("zoom_levels", .setComponent 0 9),
    ("model", .setDependency (.toTag .null "late")), ("triggers", .insert 0)]

/-- Each of the three is found. -/
theorem found_broken : ∀ check ∈ [LeafCheck.ranges, .indices, .references],
    (weapon.traverse check false broken).1 = true := by
  decide +kernel

end Catalog

open Catalog in
theorem structural_validators_converge_broken :
    weapon ∈ types ∧ LeafCheck.structural.reverse.Perm LeafCheck.structural ∧
    (∀ check ∈ [LeafCheck.ranges, .indices, .references],
      (weapon.traverse check false broken).1 = true ∧
      (weapon.traverse check true broken).1 = true ∧
      (weapon.traverse check false (weapon.traverse check true broken).2).1 = false) ∧
    weapon.mendAll LeafCheck.structural.reverse broken =
      weapon.mendAll LeafCheck.structural broken := by
  have perm := LeafCheck.structural.reverse_perm
  obtain ⟨each, orders⟩ := structural_validators_converge weapon_mem broken
  refine ⟨weapon_mem, perm, fun check mem => ?_, orders _ perm⟩
  have known : check ∈ LeafCheck.structural := by
    simp only [List.mem_cons, List.not_mem_nil, or_false] at mem
    obtain rfl | rfl | rfl := mem <;> simp [LeafCheck.structural]
  have found := found_broken check mem
  obtain ⟨-, same, -, accepted, -⟩ := each check known
  exact ⟨found, same.trans found, accepted⟩

end TagSchema
