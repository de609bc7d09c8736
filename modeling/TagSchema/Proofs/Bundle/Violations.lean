import TagSchema.Proofs.Bundle.Judging

/-!
# What checks find

A build makes three kinds of checks of the members of a struct: of their numbers, of their enums and
of their indices. Each finds violations of its own kind, and a failed check blames what it found.
-/

namespace TagSchema

/-- Who blames a violation of some kind blames one of any wider kind. -/
theorem TagError.Blames.mono {kind kind' : Violation → Prop} {e : TagError} (h : e.Blames kind)
    (more : ∀ violation, kind violation → kind' violation) : e.Blames kind' := by
  obtain ⟨site, violation, root, isKind⟩ := h
  exact ⟨site, violation, root, more violation isKind⟩

namespace Violation

/-- The violation is a number outside its limits or a vector that is not of length one. -/
def IsNumeric : Violation → Prop
  | .belowMinimum .. | .aboveMaximum .. | .notNormal .. => True
  | _ => False

/-- The violation is a value that an enum does not have or excludes. -/
def IsEnum : Violation → Prop
  | .enumOutOfRange .. | .enumExcluded _ => True
  | _ => False

/-- The violation is found in a single member, by a check that a build may leave out. -/
def IsOfMember : Violation → Prop
  | .disallowedClass .. | .nullReference | .tooFewElements _ | .tooManyElements _ => False
  | _ => True

variable {violation : Violation}

/-- A number out of its range is a numeric violation. -/
theorem isNumeric_of_ofRange? {minimum maximum : Option Binary64} {value : Binary64}
    (h : violation ∈ ofRange? minimum maximum value) : violation.IsNumeric := by
  unfold ofRange? at h
  dsimp only at h
  split at h <;> cases h <;> trivial

/-- So is a vector that is not of unit length. -/
theorem isNumeric_of_ofNormal? {type : MathType} {value : type.Value}
    (h : violation ∈ ofNormal? type value) : violation.IsNumeric := by
  unfold ofNormal? at h
  split at h <;> cases h
  trivial

/-- An option that an enum does not have, or that is excluded, is a violation of the enum. -/
theorem isEnum_of_ofEnum? {count value : Nat} {excluded : List Nat}
    (h : violation ∈ ofEnum? count excluded value) : violation.IsEnum := by
  unfold ofEnum? at h
  split at h
  · cases h
    trivial
  · split at h <;> cases h
    trivial

theorem IsNumeric.isOfMember (h : violation.IsNumeric) : violation.IsOfMember := by
  cases violation <;> trivial

theorem IsEnum.isOfMember (h : violation.IsEnum) : violation.IsOfMember := by
  cases violation <;> trivial

end Violation

/-- Whatever a rule finds in a number is numeric. -/
theorem NumberRule.isNumeric_of_violation? (rule : NumberRule) (shape : NumberShape)
    (value : shape.Value) {violation : Violation} (h : violation ∈ rule.violation? shape value) :
    violation.IsNumeric := by
  induction shape with
  | compound type =>
    rw [violation?] at h
    split at h
    · exact Violation.isNumeric_of_ofNormal? h
    · cases h
  | scalar type =>
    exact Violation.isNumeric_of_ofRange? h
  | bounds shape ih =>
    obtain first | ⟨-, second⟩ := Option.or_eq_some_iff.mp h
    · exact ih _ first
    · exact ih _ second
  | array count shape ih =>
    obtain ⟨item, -, found⟩ := List.exists_of_findSome?_eq_some h
    exact ih item found

/-- Whatever is found in a member that is no array is a violation of the member. -/
theorem LeafType.isOfMember_of_violation? {stack : ContainmentStack} (type : LeafType)
    (value : type.Value) {violation : Violation} (h : violation ∈ type.violation? stack value) :
    violation.IsOfMember := by
  cases type with
  | dependency | blob => cases h
  | plain type =>
    cases type with
    | number shape rule => exact (rule.isNumeric_of_violation? shape value h).isOfMember
    | enum type shifted => exact (Violation.isEnum_of_ofEnum? h).isOfMember
    | index target =>
      cases target with
      | none => cases h
      | some target =>
        obtain ⟨length, -, rfl⟩ := Option.map_eq_some_iff.mp h
        trivial
    | bitfield | tagId | tagString | fourCC | padding => cases h

/-! ### Checks of members -/

variable {tag : Nat} {owner : String} {stack : ContainmentStack} {w w' : Workload}

/-- A check that fails blames what it found. -/
theorem Workload.blames_of_check {site : Site} {violation? : Option Violation} {e : TagError}
    (h : outcome (check tag site violation?) w = (.error e, w')) : e.Blames (· ∈ violation?) := by
  cases violation? with
  | none => cases h
  | some violation =>
    cases h
    exact ⟨site, violation, rfl, rfl⟩

/-- A check of members fails only by blaming one of them. -/
theorem Members.blames_of_check (members : Members) {value : members.Value} {e : TagError}
    (h : outcome (members.check tag owner stack value) w = (.error e, w')) :
    e.Blames Violation.IsOfMember := by
  induction members generalizing w with
  | nil => cases h
  | leaf traits type rest ih =>
    rw [check, outcome_bind] at h
    split at h
    · exact ih h
    · rename_i failed
      cases h
      exact (Workload.blames_of_check failed).mono fun violation =>
        type.isOfMember_of_violation? value.1
  | array traits limits name title element rest ihElement ih => exact ih h

end TagSchema
