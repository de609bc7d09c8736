import TagSchema.Proofs.Bundle.Steps

/-!
# What a failed build blames

A build makes many checks and may fail for reasons that no check is about. An action judges a
property if, checking for errors, it succeeds only if the property holds, and blames violations of a
certain kind only if it does not. The judgement of a build is put together from those of its parts.
-/

namespace TagSchema

open Workload

/-- The failure is due to a violation of the given kind. -/
def TagError.Blames (kind : Violation → Prop) (e : TagError) : Prop :=
  ∃ site violation, e.root = .fatal site violation ∧ kind violation

/-- What a result says about a property: success that it holds, and blaming a violation of the kind
that it does not. -/
def Verdict {α : Type} (kind : Violation → Prop) (p : Prop) : Except TagError α → Prop
  | .ok _ => p
  | .error e => e.Blames kind → ¬p

/-- Why a bundle cannot have a reference. -/
def Dependency.refusal? (classes : List TagClass) (nonNull : Bool) (d : Dependency) :
    Option Violation :=
  if d.isNull then if nonNull then some .nullReference else none
  else if !classes.isEmpty && !classes.contains d.tagClass then
    some (.disallowedClass classes d.tagClass)
  else none

/-- A reference is refused for being null, or for the class of its tag. -/
theorem Dependency.refusal?_cases {classes : List TagClass} {nonNull : Bool} {d : Dependency}
    {violation : Violation} (h : violation ∈ d.refusal? classes nonNull) :
    violation = .nullReference ∨ violation = .disallowedClass classes d.tagClass := by
  unfold refusal? at h
  split at h <;> split at h <;> cases h
  · exact .inl rfl
  · exact .inr rfl

variable {α β : Type} {kind : Violation → Prop} {p q : Prop} {w : Workload}

/-- From a workload, an action comes to a right verdict, and keeps the options. -/
structure JudgesAt (kind : Violation → Prop) (p : Prop) (m : Building α) (w : Workload) : Prop where
  options : (outcome m w).2.options = w.options
  verdict : Verdict kind p (outcome m w).1

/-- An action does so from every workload that checks for errors. -/
def Judges (kind : Violation → Prop) (p : Prop) (m : Building α) : Prop :=
  ∀ w, w.options.disableErrorChecking = false → JudgesAt kind p m w

/-- To judge an action is to know how it ends. -/
theorem JudgesAt.of_outcome {m : Building α} {r : Except TagError α} {w' : Workload}
    (ends : outcome m w = (r, w')) (options : w'.options = w.options) (verdict : Verdict kind p r) :
    JudgesAt kind p m w :=
  ⟨by rw [ends, options], by rwa [ends]⟩

/-- What follows an action judges where the action ends. -/
theorem JudgesAt.bind {m : Building α} {f : α → Building β} (first : JudgesAt kind p m w)
    (next : ∀ a w', outcome m w = (.ok a, w') → JudgesAt kind q (f a) w') :
    JudgesAt kind (p ∧ q) (m >>= f) w := by
  obtain ⟨options, verdict⟩ := first
  -- A failure of the first action is the failure of the run; after a success the second one
  -- decides.
  rcases ends : outcome m w with ⟨failure | a, w'⟩
  · rw [ends] at options verdict
    constructor
    · rwa [outcome_bind_error ends]
    · rw [outcome_bind_error ends]
      exact fun blamed both => verdict blamed both.1
  · obtain ⟨options', verdict'⟩ := next a w' ends
    rw [ends] at options verdict
    constructor
    · rw [outcome_bind_ok ends, options']
      exact options
    · rw [outcome_bind_ok ends]
      cases result : (outcome (f a) w').1 with
      | ok b =>
        rw [result] at verdict'
        exact ⟨verdict, verdict'⟩
      | error e =>
        rw [result] at verdict'
        exact fun blamed both => verdict' blamed both.2

namespace Judges

/-- Properties that are equivalent are judged together. -/
theorem congr {m : Building α} (h : Judges kind p m) (same : p ↔ q) : Judges kind q m :=
  propext same ▸ h

/-- A run judges both properties: if the first action fails there is nothing to say of the
second. -/
theorem bind {m : Building α} {f : α → Building β} (first : Judges kind p m)
    (next : ∀ a, Judges kind q (f a)) : Judges kind (p ∧ q) (m >>= f) := by
  intro w on
  refine (first w on).bind fun a w' ends => next a w' ?_
  have options := (first w on).options
  rw [ends] at options
  rw [options, on]

/-- An action that judges nothing may come first. -/
theorem after {m : Building α} {f : α → Building β} (first : Judges kind True m)
    (next : ∀ a, Judges kind q (f a)) : Judges kind q (m >>= f) :=
  (first.bind next).congr (by rw [true_and])

/-- An action that judges nothing may come last. -/
theorem before {m : Building α} {f : α → Building β} (first : Judges kind p m)
    (next : ∀ a, Judges kind True (f a)) : Judges kind p (m >>= f) :=
  (first.bind next).congr (by rw [and_true])

theorem pure (a : α) : Judges kind True (Pure.pure a : Building α) :=
  fun _ _ => ⟨rfl, trivial⟩

theorem get : Judges kind True (MonadState.get : Building Workload) :=
  fun _ _ => ⟨rfl, trivial⟩

/-- A failure inside an element blames what the failure itself blames. -/
theorem adapt {m : Building α} (h : Judges kind p m) (activity : Activity) (site : Site)
    (index : Nat) : Judges kind p (ExceptT.adapt (.element activity site index) m) := by
  intro w on
  obtain ⟨options, verdict⟩ := h w on
  refine ⟨options, ?_⟩
  rw [outcome_adapt]
  dsimp only
  cases result : (outcome m w).1 with
  | ok a =>
    rw [result] at verdict
    exact verdict
  | error e =>
    rw [result] at verdict
    exact verdict

/-! ### Steps that judge nothing -/

/-- A failure that is no violation blames none. -/
theorem not_blames_outOfBounds (cause : Overrun) : ¬(TagError.outOfBounds cause).Blames kind :=
  fun ⟨_, _, h, _⟩ => nomatch h

/-- An update of a struct that fails does not blame the value. -/
theorem updateStruct (index : Nat) {change : PoolStruct → Except TagError PoolStruct}
    (blameless : ∀ s e, change s = .error e → ¬e.Blames kind) :
    Judges kind True (updateStruct index change) := by
  intro w _
  cases found : w.structs[index]? with
  | none =>
    exact .of_outcome (outcome_updateStruct_none found) rfl fun blamed =>
      absurd blamed (not_blames_outOfBounds _)
  | some s =>
    cases changed : change s with
    | ok s' => exact .of_outcome (outcome_updateStruct found changed) rfl trivial
    | error e =>
      exact .of_outcome (outcome_updateStruct_error found changed) rfl fun blamed =>
        absurd blamed (blameless s e changed)

theorem addStruct (data : Bytes) : Judges kind True (addStruct data) :=
  fun _ _ => ⟨rfl, trivial⟩

theorem addPointer (owner offset target : Nat) :
    Judges kind True (addPointer owner offset target) :=
  updateStruct owner fun _ _ h => nomatch h

theorem addDependency (owner offset tag : Nat) :
    Judges kind True (addDependency owner offset tag) :=
  updateStruct owner fun _ _ h => nomatch h

theorem overwrite (index offset : Nat) (bytes : Bytes) :
    Judges kind True (overwrite index offset bytes) := by
  refine updateStruct index fun s e h => ?_
  split at h
  · cases h
  · cases h
    exact not_blames_outOfBounds _

theorem register (path : String) (tagClass : TagClass) :
    Judges kind True (register path tagClass) :=
  fun _ _ => ⟨rfl, trivial⟩

/-- Too much raw data is a matter of size, not of the value. -/
theorem addRawData (data : Bytes) : Judges kind True (addRawData data) := by
  intro w _
  by_cases room : w.rawData.length < UInt32.size
  · exact .of_outcome (outcome_addRawData room) rfl trivial
  · exact .of_outcome (outcome_addRawData_full (Nat.not_lt.mp room)) rfl fun blamed =>
      absurd blamed (not_blames_outOfBounds _)

/-- So is a count that is too large for its word. -/
theorem countWord (what : String) (length : Nat) :
    Judges kind True (liftM (TagSchema.countWord what length) : Building UInt32) := by
  intro w _
  refine ⟨rfl, ?_⟩
  rw [outcome_liftM, TagSchema.countWord]
  split
  · trivial
  · exact fun blamed => absurd blamed (not_blames_outOfBounds _)

/-! ### Checks -/

/-- Failing judges what the violation refutes, if it is of the kind. -/
theorem fail (tag : Nat) (site : Site) {violation : Violation} (refutes : kind violation → ¬p) :
    Judges kind p (Workload.fail tag site violation : Building α) := by
  intro w _
  refine .of_outcome (outcome_fail tag site violation w) rfl ?_
  rintro ⟨_, _, same, isKind⟩
  cases same
  exact refutes isKind

/-- A check judges whether there is a violation, if that would be of the kind. -/
theorem check (tag : Nat) (site : Site) {violation? : Option Violation}
    (none : violation? = none → p) (some : ∀ violation ∈ violation?, kind violation → ¬p) :
    Judges kind p (Workload.check tag site violation?) := by
  cases violation? with
  | none => exact fun _ _ => ⟨rfl, none rfl⟩
  | some violation => exact fail tag site (some violation rfl)

theorem report (severity : Severity) (tag : Option Nat) (message : String) :
    Judges kind True (Workload.report severity tag message) :=
  fun _ _ => ⟨rfl, trivial⟩

/-- Counts are judged by violations of their own. -/
theorem checkCount (tag : Nat) (site : Site) (minimum maximum : Nat) (stockMaximum : Option Nat)
    (length : Nat) (few : ¬kind (.tooFewElements minimum))
    (many : ¬kind (.tooManyElements maximum)) :
    Judges kind True (Workload.checkCount tag site minimum maximum stockMaximum length) := by
  unfold Workload.checkCount
  -- What follows the check of the maximum, and what follows that of the minimum.
  extract_lets stock most
  have stocked : ∀ r, Judges kind True (stock r) := by
    intro r
    dsimp only [stock]
    cases stockMaximum with
    | none => exact pure ()
    | some limit =>
      refine after get fun w => ?_
      split
      · exact report _ _ _
      · exact pure ()
  have counted : ∀ r, Judges kind True (most r) := by
    intro r
    dsimp only [most]
    split
    · exact after (fail _ _ fun isKind => absurd isKind many) stocked
    · exact stocked ()
  split
  · exact after (fail _ _ fun isKind => absurd isKind few) counted
  · exact counted ()

/-! ### Handles -/

/-- A reference is refused before anything is done. -/
theorem compileDependency {tag struct offset : Nat} {site : Site} {classes : List TagClass}
    {nonNull : Bool} {d : Dependency} :
    Judges kind (∀ violation ∈ d.refusal? classes nonNull, ¬kind violation)
      (Workload.compileDependency tag struct offset site classes nonNull d) := by
  unfold Workload.compileDependency Dependency.refusal?
  split
  · cases nonNull with
    | false => exact (pure _).congr (by simp)
    | true => exact before (fail _ _ fun isKind fine => fine _ rfl isKind) fun _ => pure _
  · split
    · exact before (fail _ _ fun isKind fine => fine _ rfl isKind) fun _ =>
        after (register _ _) fun _ => after (addDependency _ _ _) fun _ => pure _
    · refine Judges.congr ?_ (iff_true_intro (by simp)).symm
      exact after (register _ _) fun _ => after (addDependency _ _ _) fun _ => pure _

/-- A blob is refused for its size only. -/
theorem compileBlob {struct offset : Nat} {selector : BlobSelector} {data : Bytes} :
    Judges kind True (Workload.compileBlob struct offset selector data) := by
  unfold Workload.compileBlob
  refine after (countWord _ _) fun size => ?_
  split
  · exact pure _
  · split
    · exact after (addStruct _) fun blob => after (addPointer _ _ _) fun _ => pure _
    · exact after (addRawData _) fun _ => pure _
    · exact after (addRawData _) fun _ => pure _

/-- Elements are judged one by one, and the first that is blamed ends the run. -/
theorem compileElements {compile : Nat → α → Building Unit} {good : α → Prop} (site : Site)
    (size : Nat) (single : ∀ offset item, Judges kind (good item) (compile offset item))
    (index : Nat) (items : List α) :
    Judges kind (∀ item ∈ items, good item)
      (Workload.compileElements site size compile index items) := by
  induction items generalizing index with
  | nil => exact (pure ()).congr (by simp)
  | cons item rest ih =>
    refine ((adapt (single _ item) _ site index).bind fun _ => ih (index + 1)).congr ?_
    rw [List.forall_mem_cons]

/-- An array is judged by its elements. -/
theorem compileArray {struct offset : Nat} (site : Site) (size : Nat)
    {compile : Nat → Nat → α → Building Unit} {good : α → Prop}
    (single : ∀ array offset item, Judges kind (good item) (compile array offset item))
    (items : List α) :
    Judges kind (∀ item ∈ items, good item)
      (Workload.compileArray struct offset site size compile items) := by
  unfold Workload.compileArray
  refine after (countWord _ _) fun count => ?_
  cases items with
  | nil => exact (pure _).congr (by simp)
  | cons item rest =>
    refine after (addStruct _) fun array => after (addPointer _ _ _) fun _ => ?_
    refine before ?_ fun _ => pure _
    exact compileElements site size (single array) 0 (item :: rest)

/-! ### Structs -/

/-- A struct is judged by its checks first, then by what its handles stand for. -/
theorem compileAt {layout : Layout} {struct offset : Nat} {check : Building Unit}
    {handles : Building layout.Value} (checked : Judges kind p check)
    (handled : Judges kind q handles) :
    Judges kind (p ∧ q) (TagSchema.compileAt layout struct offset check handles) := by
  intro w on
  have parts : Judges kind (p ∧ q) (check >>= fun _ => handles >>= fun stored =>
      Workload.overwrite struct offset (layout.encode stored)) :=
    checked.bind fun _ => before handled fun _ => overwrite _ _ _
  constructor
  · rw [outcome_compileAt_of_checking on]
    exact (parts w on).options
  · rw [outcome_compileAt_of_checking on]
    exact (parts w on).verdict

end Judges

end TagSchema
