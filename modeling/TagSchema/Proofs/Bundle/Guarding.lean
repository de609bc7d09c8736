import TagSchema.Proofs.Bundle.Composition
import TagSchema.Proofs.Bundle.Following
import TagSchema.Proofs.Bundle.Reachable
import TagSchema.Proofs.Bundle.Violations

/-!
# Checking for errors only makes builds fail

A build that does not check for errors leaves out the checks of single members and does everything
else: limits on the lengths of arrays and on classes are enforced all the same. The checks that are
left out change nothing when they succeed. So the two builds go through the same steps, up to the
first member in which a violation is found.
-/

namespace TagSchema

namespace Workload

/-- The workload of a build that does not check for errors. -/
def unchecked (w : Workload) : Workload :=
  { w with options := { w.options with disableErrorChecking := true } }

end Workload

open Workload

variable {α β : Type} {w : Workload}

/-- From a workload, an action gives the same without checking for errors, and ends in the same
workload but for that option. -/
def SameUnchecked (m : Building α) (w : Workload) : Prop :=
  outcome m w.unchecked = ((outcome m w).1, (outcome m w).2.unchecked)

/-- An action does so from every workload from which it does not fail for a violation in a
member. -/
def Guarded (m : Building α) : Prop :=
  ∀ w, SameUnchecked m w ∨
    ∃ e w', outcome m w = (.error e, w') ∧ e.Blames Violation.IsOfMember

/-- To know how an action ends, with checks and without, is to know that it ends in the same way. -/
theorem SameUnchecked.of_outcome {m : Building α} {r : Except TagError α} {w' : Workload}
    (ends : outcome m w = (r, w')) (ends' : outcome m w.unchecked = (r, w'.unchecked)) :
    SameUnchecked m w := by
  rw [SameUnchecked, ends, ends']

namespace Guarded

/-- What ends in the same way whenever it succeeds is guarded. -/
theorem of_same {m : Building α} (same : ∀ w, SameUnchecked m w) : Guarded m :=
  fun w => .inl (same w)

/-! ### Sequencing -/

theorem pure (a : α) : Guarded (Pure.pure a : Building α) :=
  .of_same fun _ => rfl

/-- A run is guarded if each action is: what the first one does with checks turned off is what it
did with them. -/
theorem bind {m : Building α} {f : α → Building β} (first : Guarded m)
    (next : ∀ a, Guarded (f a)) : Guarded (m >>= f) := by
  intro w
  obtain same | ⟨e, w', failed, blamed⟩ := first w
  · rw [SameUnchecked] at same
    rcases ends : outcome m w with ⟨e | a, w'⟩
    · rw [ends] at same
      exact .inl (.of_outcome (outcome_bind_error ends) (outcome_bind_error same))
    · rw [ends] at same
      obtain same' | ⟨e, w'', failed, blamed⟩ := next a w'
      · left
        rw [SameUnchecked, outcome_bind_ok ends, outcome_bind_ok same]
        exact same'
      · exact .inr ⟨e, w'', (outcome_bind_ok ends).trans failed, blamed⟩
  · exact .inr ⟨e, w', outcome_bind_error failed, blamed⟩

/-- What is done with the workload must not depend on whether it checks for errors. -/
theorem get {f : Workload → Building α} (same : ∀ w : Workload, f w.unchecked = f w)
    (next : ∀ w, Guarded (f w)) : Guarded (MonadState.get >>= f) := by
  intro w
  obtain same' | ⟨e, w', failed, blamed⟩ := next w w
  · left
    rw [SameUnchecked, outcome_bind_ok (outcome_get w), outcome_bind_ok (outcome_get w.unchecked),
      same]
    exact same'
  · exact .inr ⟨e, w', failed, blamed⟩

/-- What errors are wrapped in does not matter to what succeeds. -/
theorem adapt {m : Building α} (h : Guarded m) (activity : Activity) (site : Site) (index : Nat) :
    Guarded (ExceptT.adapt (.element activity site index) m) := by
  intro w
  obtain same | ⟨e, w', failed, blamed⟩ := h w
  · left
    rw [SameUnchecked] at same
    rw [SameUnchecked, outcome_adapt, outcome_adapt, same]
  · refine .inr ⟨.element activity site index e, w', ?_, blamed⟩
    rw [outcome_adapt, failed]
    rfl

/-! ### Steps -/

/-- An update does not look at the options. -/
theorem updateStruct (index : Nat) (change : PoolStruct → Except TagError PoolStruct) :
    Guarded (Workload.updateStruct index change) := by
  refine .of_same fun w => ?_
  cases found : w.structs[index]? with
  | none =>
    exact .of_outcome (outcome_updateStruct_none found)
      (outcome_updateStruct_none (w := w.unchecked) found)
  | some s =>
    cases changed : change s with
    | ok s' =>
      exact .of_outcome (outcome_updateStruct found changed)
        (outcome_updateStruct (w := w.unchecked) found changed)
    | error e =>
      exact .of_outcome (outcome_updateStruct_error found changed)
        (outcome_updateStruct_error (w := w.unchecked) found changed)

theorem addStruct (data : Bytes) : Guarded (Workload.addStruct data) :=
  .of_same fun _ => rfl

theorem addPointer (owner offset target : Nat) :
    Guarded (Workload.addPointer owner offset target) :=
  updateStruct owner _

theorem addDependency (owner offset tag : Nat) :
    Guarded (Workload.addDependency owner offset tag) :=
  updateStruct owner _

theorem overwrite (index offset : Nat) (bytes : Bytes) :
    Guarded (Workload.overwrite index offset bytes) :=
  updateStruct index _

theorem register (path : String) (tagClass : TagClass) :
    Guarded (Workload.register path tagClass) :=
  .of_same fun _ => rfl

/-- Nor does raw data. -/
theorem addRawData (data : Bytes) : Guarded (Workload.addRawData data) := by
  refine .of_same fun w => ?_
  by_cases room : w.rawData.length < UInt32.size
  · exact .of_outcome (outcome_addRawData room) (outcome_addRawData (w := w.unchecked) room)
  · have full := Nat.not_lt.mp room
    exact .of_outcome (outcome_addRawData_full full)
      (outcome_addRawData_full (w := w.unchecked) full)

theorem countWord (what : String) (length : Nat) :
    Guarded (liftM (TagSchema.countWord what length) : Building UInt32) :=
  .of_same fun _ => rfl

/-- A report changes nothing but the diagnostics. -/
theorem report (severity : Severity) (tag : Option Nat) (message : String) :
    Guarded (Workload.report severity tag message) :=
  .of_same fun _ => rfl

/-- A failure is never a success. -/
theorem fail (tag : Nat) (site : Site) (violation : Violation) :
    Guarded (Workload.fail tag site violation : Building α) :=
  .of_same fun _ => rfl

/-- A warning is no failure, whether or not limits are checked. -/
theorem warn (tag stock length : Nat) (message : String) :
    Guarded (MonadState.get >>= fun w =>
      if w.options.checkStockLimits ∧ stock < length then
        Workload.report .warning (some tag) message else Pure.pure ()) := by
  refine get (fun _ => rfl) fun w => ?_
  split
  · exact report _ _ _
  · exact pure ()

/-! ### Structs -/

/-- A struct is checked first, unless there is no checking for errors. The check changes nothing if
it succeeds, and is to blame if it fails. -/
theorem compileAt {layout : Layout} {struct offset : Nat} {check : Building Unit}
    {handles : Building layout.Value}
    (silent : ∀ w w', outcome check w = (.ok (), w') → w' = w)
    (blamed : ∀ w w' e, outcome check w = (.error e, w') → e.Blames Violation.IsOfMember)
    (handled : Guarded handles) :
    Guarded (TagSchema.compileAt layout struct offset check handles) := by
  intro w
  have built : Guarded (handles >>= fun stored =>
      Workload.overwrite struct offset (layout.encode stored)) :=
    handled.bind fun _ => overwrite _ _ _
  rw [SameUnchecked, outcome_compileAt_of_not_checking (w := w.unchecked) rfl]
  cases on : w.options.disableErrorChecking with
  | true =>
    rw [outcome_compileAt_of_not_checking on]
    exact built w
  | false =>
    rw [outcome_compileAt_of_checking on]
    rcases ends : outcome check w with ⟨e | ⟨⟩, w'⟩
    · exact .inr ⟨e, w', outcome_bind_error ends, blamed w w' e ends⟩
    · obtain rfl := silent w w' ends
      rw [outcome_bind_ok ends]
      exact built w'

/-- All actions that compile a value are guarded, so its compilation is, by induction on its
members. -/
theorem buildProperty (tag : Nat) : BuildProperty tag fun _ => Guarded where
  pure := pure
  bind := bind
  inElement site index inside := inside.adapt _ site index
  countWord := countWord
  addStruct := addStruct
  addPointer := addPointer
  addDependency := addDependency
  register := register
  addRawData := addRawData
  fail := fail tag
  warn := warn tag
  compileAt _ _ _ _ _ members _ _ handled :=
    compileAt (fun _ _ => members.check_silent) (fun _ _ _ => members.blames_of_check) handled

end Guarded

/-- Compiling a tag is guarded. -/
theorem StructType.guarded_compileTag (type : StructType) (tag : Nat) (value : type.Value) :
    Guarded (type.compileTag tag value) :=
  (Guarded.buildProperty tag).compileTag type value

/-- **Checking for errors is a pure guard.** A build that succeeds has the same result without
checking for errors, and leaves the same pool, tags, raw data and diagnostics. A build that fails
without checking for errors fails with it as well: for the same reason and after the same steps,
unless a violation in a member comes first. -/
theorem compileTag_unchecked (type : StructType) (tag : Nat) (value : type.Value) (w : Workload) :
    (∀ k w', outcome (type.compileTag tag value) w = (.ok k, w') →
      outcome (type.compileTag tag value) w.unchecked = (.ok k, w'.unchecked)) ∧
    ∀ e w', outcome (type.compileTag tag value) w.unchecked = (.error e, w') →
      ∃ e' w'', outcome (type.compileTag tag value) w = (.error e', w'') ∧
        (e' = e ∧ w''.unchecked = w' ∨ e'.Blames Violation.IsOfMember) := by
  obtain same | ⟨e, w', failed, blamed⟩ := type.guarded_compileTag tag value w
  · rw [SameUnchecked] at same
    constructor
    · intro k w' ends
      rw [same, ends]
    · intro e w' ends
      rw [same] at ends
      obtain ⟨result, reached⟩ := Prod.ext_iff.mp ends
      exact ⟨e, _, outcome_eq_of_fst result, .inl ⟨rfl, reached⟩⟩
  · constructor
    · intro k w'' ends
      cases failed.symm.trans ends
    · intro _ _ _
      exact ⟨e, w', failed, .inr blamed⟩

namespace Catalog

/-- The type of models. -/
def modelType : StructType := types.get ⟨4, by rw [length_types]; decide⟩

/-- The type of the weapons that units carry. -/
def unitWeapon : StructType := types.get ⟨12, by rw [length_types]; decide⟩

attribute [irreducible] modelType unitWeapon

/-- A model of two regions, without nodes. -/
def shell : modelType.Value :=
  modelType.changed [("regions", .insert 0), ("regions", .duplicate 0)]

/-- A new build that checks for errors. -/
def workshop : Workload := { options := {} }

end Catalog

open Catalog in
/-- The model is built with and without checking for errors. A weapon that is carried but not set
can be built neither way. -/
theorem compileTag_unchecked_shell :
    (∃ w', outcome (modelType.compileTag 0 shell) workshop = (.ok 0, w') ∧
      outcome (modelType.compileTag 0 shell) workshop.unchecked = (.ok 0, w'.unchecked)) ∧
    ∃ e e', (outcome (unitWeapon.compileTag 0 unitWeapon.members.zero) workshop.unchecked).1 =
        .error e ∧
      (outcome (unitWeapon.compileTag 0 unitWeapon.members.zero) workshop).1 = .error e' := by
  obtain ⟨built, failed⟩ :
      (outcome (modelType.compileTag 0 shell) workshop).1.toOption = some 0 ∧
      (outcome (unitWeapon.compileTag 0 unitWeapon.members.zero)
        workshop.unchecked).1.toOption = none := by
    decide +kernel
  constructor
  · have ends := outcome_eq_of_fst (Except.eq_ok_of_toOption built)
    exact ⟨_, ends, (compileTag_unchecked modelType 0 shell workshop).1 0 _ ends⟩
  · rcases ends : outcome (unitWeapon.compileTag 0 unitWeapon.members.zero) workshop.unchecked with
      ⟨e | k, w'⟩
    · obtain ⟨e', w'', ends', -⟩ :=
        (compileTag_unchecked unitWeapon 0 unitWeapon.members.zero workshop).2 e w' ends
      exact ⟨e, e', rfl, congrArg Prod.fst ends'⟩
    · rw [ends] at failed
      cases failed

end TagSchema
