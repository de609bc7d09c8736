import TagSchema.Proofs.Bundle.Violations
import TagSchema.Proofs.Every

/-!
# What a build judges

A build that checks for errors looks at every member of a value, at every depth: at the members of a
struct before it builds what their handles stand for, and at references when it builds their
handles. So for each kind of violation it judges whether the value is without it. Only the lengths
of arrays are no matter of single members.
-/

namespace TagSchema

/-- Why a bundle cannot have the handle of a member. -/
def LeafType.refusal? : (type : LeafType) → type.Value → Option Violation
  | .dependency classes nonNull, (d : Dependency) => d.refusal? (allowedClasses classes) nonNull
  | .plain _, _ | .blob _, _ => none

namespace LeafProperty

/-- A build finds no violation of the kind when it checks the member. -/
def passes (kind : Violation → Prop) : LeafProperty := fun stack type value =>
  ∀ violation ∈ type.violation? stack value, ¬kind violation

/-- A build does not refuse the handle of the member for a violation of the kind. -/
def granted (kind : Violation → Prop) : LeafProperty := fun _ type value =>
  ∀ violation ∈ type.refusal? value, ¬kind violation

/-- A build has nothing of the kind against the member. -/
def without (kind : Violation → Prop) : LeafProperty := (passes kind).both (granted kind)

end LeafProperty

open LeafProperty Workload

/-! ### The judgement -/

variable {kind : Violation → Prop} {stack : ContainmentStack} {tag : Nat} {owner : String}

theorem LeafType.judges_compile (type : LeafType) (struct offset : Nat) (order : ByteOrder)
    (site : Site) (value : type.Value) :
    Judges kind (granted kind stack type value)
      (type.compile tag struct offset order site value) := by
  cases type with
  | plain type => exact (Judges.pure _).congr (iff_of_true trivial fun _ h => nomatch h)
  | dependency classes nonNull => exact .before .compileDependency fun _ => .pure _
  | blob selector =>
    refine Judges.congr ?_ (iff_of_true trivial fun _ h => nomatch h)
    exact .after .compileBlob fun _ => .pure _

theorem Members.judges_check (members : Members) (value : members.Value) :
    Judges kind (members.Every (passes kind) any stack value)
      (members.check tag owner stack value) := by
  induction members with
  | nil => exact .pure ()
  | leaf traits type rest ih =>
    refine .bind (.check _ _ (fun none violation found => ?_) ?_) fun _ => ih value.2
    · rw [none] at found
      cases found
    · exact fun violation found isKind fine => fine violation found isKind
  | array traits limits name title element rest ihElement ih =>
    refine (ih value.2).congr ?_
    exact (and_iff_right fun item _ => element.every_any item).symm

variable (few : ∀ minimum, ¬kind (.tooFewElements minimum))
  (many : ∀ maximum, ¬kind (.tooManyElements maximum))

include few many

theorem Members.judges_compile (members : Members) (struct offset : Nat) (value : members.Value) :
    Judges kind (members.Every (granted kind) (without kind) stack value)
      (members.compile tag owner stack struct offset value) := by
  induction members generalizing owner stack struct offset with
  | nil => exact .pure ()
  | leaf traits type rest ih =>
    refine .bind (type.judges_compile _ _ _ _ value.1) fun stored => ?_
    exact .before (ih struct offset value.2) fun others => .pure _
  | array traits limits name title element rest ihElement ih =>
    -- An element is checked with its own struct entered, and compiled in the same surroundings.
    have single : ∀ array position item, Judges kind
        (element.Every (without kind) (without kind) (stack.enter (element.frame name item)) item)
        (compileAt (element.layout .packed) array position
          (element.check tag name (stack.enter (element.frame name item)) item)
          (element.compile tag name (stack.enter (element.frame name item)) array position
            item)) := by
      intro array position item
      refine (Judges.compileAt (element.judges_check item)
        (ihElement array position item)).congr ?_
      rw [← element.every_both, any_both]
      rfl
    refine .after (.checkCount _ _ _ _ _ _ (few _) (many _)) fun _ => ?_
    refine .bind (.compileArray _ _ single value.1) fun handle => ?_
    exact .before (ih struct offset value.2) fun _ => .pure _

/-- A build that checks for errors judges whether a value is without a kind of violation, if that is
not about the lengths of arrays. -/
theorem StructType.judges_without (type : StructType) (value : type.Value) :
    Judges kind (type.Every (without kind) value) (type.compileTag tag value) := by
  have built : ∀ struct, Judges kind (type.Every (without kind) value)
      (type.compile tag {} struct 0 value) := by
    intro struct
    refine (Judges.compileAt (type.members.judges_check value)
      (type.members.judges_compile few many struct 0 value)).congr ?_
    rw [← type.members.every_both, any_both]
    rfl
  exact .after (.addStruct _) fun struct => .before (built struct) fun _ => .pure _

/-- A build blames no kind of violation that a value is without. -/
theorem StructType.not_blames_of_without {type : StructType} {value : type.Value} {w w' : Workload}
    {e : TagError} (on : w.options.disableErrorChecking = false)
    (failed : outcome (type.compileTag tag value) w = (.error e, w'))
    (clear : type.Every (without kind) value) : ¬e.Blames kind := by
  obtain ⟨-, verdict⟩ := type.judges_without few many value w on
  rw [failed] at verdict
  exact fun blamed => verdict blamed clear

/-- A value that was built is without any kind of violation. -/
theorem StructType.without_of_ok {type : StructType} {value : type.Value} {w w' : Workload}
    {k : Nat} (on : w.options.disableErrorChecking = false)
    (ends : outcome (type.compileTag tag value) w = (.ok k, w')) :
    type.Every (without kind) value := by
  obtain ⟨-, verdict⟩ := type.judges_without few many value w on
  rw [ends] at verdict
  exact verdict

omit few many

/-- A build fails at the members of the struct itself, before it comes to what their handles stand
for. -/
theorem StructType.fails_of_own {type : StructType} {value : type.Value} {w : Workload} (tag : Nat)
    (on : w.options.disableErrorChecking = false)
    (bad : ¬type.members.Every (passes kind) any
      (ContainmentStack.enter {} (type.members.frame type.name value)) value) :
    ∃ e w', outcome (type.compileTag tag value) w = (.error e, w') ∧
      e.Blames Violation.IsOfMember := by
  let stack := ContainmentStack.enter {} (type.members.frame type.name value)
  let w₁ := w.withStructs (w.structs ++ [⟨Bytes.zeros (type.size .packed), [], []⟩])
  have judged : Verdict kind (type.members.Every (passes kind) any stack value)
      (outcome (type.members.check tag type.name stack value) w₁).1 :=
    (type.members.judges_check value w₁ on).verdict
  rcases ends : outcome (type.members.check tag type.name stack value) w₁ with ⟨e | _, w'⟩
  · refine ⟨e, w', ?_, type.members.blames_of_check ends⟩
    rw [compileTag, outcome_bind_ok (outcome_addStruct _ w)]
    refine outcome_bind_error ((outcome_compileAt_of_checking ?_).trans (outcome_bind_error ends))
    exact on
  · rw [ends] at judged
    exact absurd judged bad

end TagSchema
