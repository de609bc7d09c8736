import TagSchema.Proofs.Bundle.Composition
import TagSchema.Proofs.Regular

/-!
# Every failure is reported once

A violation is reported where it is found and then passed on, through every array on the way out. No
step on the way reports it again, and nothing but a violation is ever reported as fatal. So the
diagnostics that a build adds tell how it ended (`compileTag_reports`).
-/

namespace TagSchema

open Workload

/-- What a result leaves in the diagnostics: one that is fatal, with the wording of the innermost
failure, if that is a violation, and otherwise none. -/
def Diagnostic.ofResult {α : Type} (tag : Nat) : Except TagError α → List Diagnostic
  | .ok _ => []
  | .error e =>
    match e.root with
    | .fatal .. => [⟨.fatal, some tag, e.root.message⟩]
    | _ => []

/-- The diagnostic is a warning about a tag. -/
def Diagnostic.WarnsOf (tag : Nat) (d : Diagnostic) : Prop :=
  d.severity = .warning ∧ d.tag = some tag

/-- From every workload, an action adds some warnings about a tag, and then what its result leaves.
-/
def Reports (tag : Nat) {α : Type} (m : Building α) : Prop :=
  ∀ w, ∃ warnings, (∀ d ∈ warnings, Diagnostic.WarnsOf tag d) ∧
    (outcome m w).2.diagnostics =
      w.diagnostics ++ warnings ++ Diagnostic.ofResult tag (outcome m w).1

namespace Reports

variable {tag : Nat} {α β : Type} {m : Building α} {w w' : Workload}

/-! ### Sequencing -/

/-- Adding nothing is right for an action that ends without a violation. -/
theorem of_quiet (quiet : ∀ w, (outcome m w).2.diagnostics = w.diagnostics ∧
    Diagnostic.ofResult tag (outcome m w).1 = []) : Reports tag m := by
  intro w
  obtain ⟨same, nothing⟩ := quiet w
  exact ⟨[], by simp, by rw [same, nothing, List.append_nil, List.append_nil]⟩

theorem pure (a : α) : Reports tag (Pure.pure a : Building α) :=
  of_quiet fun _ => ⟨rfl, rfl⟩

/-- Reports of actions that are run one after the other are all about the same tag. -/
theorem bind {f : α → Building β} (first : Reports tag m) (next : ∀ a, Reports tag (f a)) :
    Reports tag (m >>= f) := by
  intro w
  obtain ⟨warnings, only, added⟩ := first w
  rcases ends : outcome m w with ⟨e | a, w'⟩
  · rw [ends] at added
    rw [outcome_bind_error ends]
    exact ⟨warnings, only, added⟩
  · -- The first part left nothing but warnings, so what the second adds comes behind these.
    obtain ⟨warnings', only', added'⟩ := next a w'
    rw [ends] at added
    refine ⟨warnings ++ warnings', List.forall_mem_append.mpr ⟨only, only'⟩, ?_⟩
    rw [outcome_bind_ok ends, added', added]
    simp [Diagnostic.ofResult]

/-- A failure keeps its root on the way out of an element. -/
theorem inElement {m : Building Unit} (site : Site) (index : Nat) (inside : Reports tag m) :
    Reports tag (ExceptT.adapt (.element .compile site index) m) := by
  intro w
  obtain ⟨warnings, only, added⟩ := inside w
  refine ⟨warnings, only, ?_⟩
  rw [outcome_adapt]
  dsimp only
  rw [added]
  cases (outcome m w).1 <;> rfl

/-! ### Steps -/

/-- A failure is reported of the tag that it is about. -/
theorem fail (site : Site) (violation : Violation) :
    Reports tag (Workload.fail tag site violation : Building α) :=
  fun w => ⟨[], by simp, by rw [outcome_fail, List.append_nil]; rfl⟩

/-- A change of a struct that is no violation when it fails. -/
theorem updateStruct (index : Nat) {change : PoolStruct → Except TagError PoolStruct}
    (quiet : ∀ s, Diagnostic.ofResult tag (change s) = []) :
    Reports tag (Workload.updateStruct index change) := by
  refine of_quiet fun w => ?_
  cases found : w.structs[index]? with
  | none => rw [outcome_updateStruct_none found]; exact ⟨rfl, rfl⟩
  | some s =>
    cases changed : change s with
    | ok s' => rw [outcome_updateStruct found changed]; exact ⟨rfl, rfl⟩
    | error e =>
      have silent := quiet s
      rw [changed] at silent
      rw [outcome_updateStruct_error found changed]
      exact ⟨rfl, silent⟩

/-- Writing bytes reports nothing. -/
theorem overwrite (index offset : Nat) (bytes : Bytes) :
    Reports tag (Workload.overwrite index offset bytes) := by
  refine updateStruct index fun s => ?_
  split <;> rfl

theorem addRawData (data : Bytes) : Reports tag (Workload.addRawData data) := by
  refine of_quiet fun w => ?_
  by_cases room : w.rawData.length < UInt32.size
  · rw [outcome_addRawData room]
    exact ⟨rfl, rfl⟩
  · rw [outcome_addRawData_full (Nat.not_lt.mp room)]
    exact ⟨rfl, rfl⟩

theorem countWord (what : String) (length : Nat) :
    Reports tag (liftM (TagSchema.countWord what length) : Building UInt32) := by
  refine of_quiet fun w => ⟨rfl, ?_⟩
  rw [outcome_liftM, TagSchema.countWord]
  split <;> rfl

/-- A warning is about the tag, if there is one. -/
theorem warn (stock length : Nat) (message : String) :
    Reports tag (get >>= fun w =>
      if w.options.checkStockLimits ∧ stock < length then
        Workload.report .warning (some tag) message else Pure.pure ()) := by
  intro w
  rw [outcome_bind_ok (outcome_get w)]
  split
  · exact ⟨[⟨.warning, some tag, message⟩], by simp [Diagnostic.WarnsOf], (List.append_nil _).symm⟩
  · exact pure () w

/-! ### Structs -/

/-- Checks of members, at every depth, report about their tag. -/
theorem checkMembers (owner : String) (stack : ContainmentStack) (members : Members)
    (value : members.Value) : Reports tag (members.check tag owner stack value) := by
  induction members with
  | nil => exact pure ()
  | leaf traits type rest ih =>
    refine bind ?_ fun _ => ih value.2
    cases type.violation? stack value.1 with
    | none => exact pure ()
    | some violation => exact fail _ violation
  | array traits limits name title element rest ihElement ih => exact ih value.2

/-- What is laid out is reported about by its check and by its handles. -/
theorem compileAt {layout : Layout} {struct offset : Nat} {check : Building Unit}
    {handles : Building layout.Value} (checked : Reports tag check)
    (handled : Reports tag handles) :
    Reports tag (TagSchema.compileAt layout struct offset check handles) := by
  intro w
  have built : Reports tag (handles >>= fun stored =>
      Workload.overwrite struct offset (layout.encode stored)) :=
    handled.bind fun stored => overwrite struct offset (layout.encode stored)
  cases on : w.options.disableErrorChecking with
  | true =>
    rw [outcome_compileAt_of_not_checking on]
    exact built w
  | false =>
    rw [outcome_compileAt_of_checking on]
    exact checked.bind (fun _ => built) w

/-- All actions that compile a value report about its tag, so its compilation does. -/
theorem buildProperty (tag : Nat) : BuildProperty tag fun _ => Reports tag where
  pure := pure
  bind := bind
  inElement := inElement
  countWord := countWord
  addStruct _ := of_quiet fun _ => ⟨rfl, rfl⟩
  addPointer _ _ _ := updateStruct _ fun _ => rfl
  addDependency _ _ _ := updateStruct _ fun _ => rfl
  register _ _ := of_quiet fun _ => ⟨rfl, rfl⟩
  addRawData := addRawData
  fail := fail
  warn := warn
  compileAt _ _ _ _ _ members value _ handled := compileAt (checkMembers _ _ members value) handled

end Reports

/-- **Every failure is reported once.** A build of a value for a tag adds diagnostics about that
tag: some warnings, and behind them, if and only if it fails for a violation, one that is fatal,
with the wording of the violation. That is all, wherever in the value the violation is. -/
theorem compileTag_reports (type : StructType) (tag : Nat) (value : type.Value) (w : Workload) :
    ∃ warnings, (∀ d ∈ warnings, d.severity = .warning ∧ d.tag = some tag) ∧
      match outcome (type.compileTag tag value) w with
      | (.ok _, w') => w'.diagnostics = w.diagnostics ++ warnings
      | (.error e, w') =>
        match e.root with
        | .fatal .. => w'.diagnostics = w.diagnostics ++ warnings ++
            [⟨.fatal, some tag, e.root.message⟩]
        | _ => w'.diagnostics = w.diagnostics ++ warnings := by
  obtain ⟨warnings, only, added⟩ := (Reports.buildProperty tag).compileTag type value w
  refine ⟨warnings, only, ?_⟩
  rcases ends : outcome (type.compileTag tag value) w with ⟨e | k, w'⟩
  · rw [ends, Diagnostic.ofResult] at added
    cases root : e.root <;> simpa only [root, List.append_nil] using added
  · rw [ends, Diagnostic.ofResult, List.append_nil] at added
    exact added

end TagSchema
