import TagSchema.Proofs.Outcome
import TagSchema.Proofs.Overwriting
import TagSchema.Struct.PackedForm

/-!
# Steps of a build

What each step of a build gives and where it ends, one equation a step, so that later proofs neither
unfold the steps nor the monad.
-/

namespace TagSchema

namespace PoolStruct

/-- A struct with more pointers and dependencies. -/
def joined (s : PoolStruct) (pointers : List StructPointer) (dependencies : List StructDependency) :
    PoolStruct :=
  { s with
    pointers := s.pointers ++ pointers
    dependencies := s.dependencies ++ dependencies }

/-- A struct with some bytes written over its own. -/
def written (s : PoolStruct) (offset : Nat) (bytes : Bytes) : PoolStruct :=
  { s with data := s.data.overwrite offset bytes }

@[simp] theorem joined_nil (s : PoolStruct) : s.joined [] [] = s := by
  simp [joined]

@[simp] theorem joined_joined (s : PoolStruct) (pointers pointers' : List StructPointer)
    (dependencies dependencies' : List StructDependency) :
    (s.joined pointers dependencies).joined pointers' dependencies' =
      s.joined (pointers ++ pointers') (dependencies ++ dependencies') := by
  simp [joined]

/-- Two windows side by side. -/
theorem written_written (s : PoolStruct) {offset : Nat} {first second : Bytes}
    (h : offset ≤ s.data.length) :
    (s.written offset first).written (offset + first.length) second =
      s.written offset (first ++ second) := by
  rw [written, written, written, Bytes.overwrite_overwrite _ _ _ _ h]

/-- Bytes and links are kept apart, so it does not matter which come first. -/
theorem written_joined (s : PoolStruct) (offset : Nat) (bytes : Bytes)
    (pointers : List StructPointer) (dependencies : List StructDependency) :
    (s.joined pointers dependencies).written offset bytes =
      (s.written offset bytes).joined pointers dependencies := rfl

end PoolStruct

namespace Workload

variable {w : Workload}

/-- The workload with another pool. -/
def withStructs (w : Workload) (structs : List PoolStruct) : Workload := { w with structs }

/-- The workload with more diagnostics. -/
def reported (w : Workload) (reports : List Diagnostic) : Workload :=
  { w with diagnostics := w.diagnostics ++ reports }

@[simp] theorem reported_nil (w : Workload) : w.reported [] = w := by
  simp [reported]

/-! ### The pool -/

/-- A struct that is added comes last, and its position is the number of those before it. -/
theorem outcome_addStruct (data : Bytes) (w : Workload) :
    outcome (addStruct data) w =
      (.ok w.structs.length, w.withStructs (w.structs ++ [PoolStruct.mk data [] []])) := rfl

/-- A change that succeeds is made to the one struct. -/
theorem outcome_updateStruct {index : Nat} {change : PoolStruct → Except TagError PoolStruct}
    {s s' : PoolStruct} (found : w.structs[index]? = some s) (changed : change s = .ok s') :
    outcome (updateStruct index change) w = (.ok (), w.withStructs (w.structs.set index s')) := by
  rw [updateStruct, outcome_bind_ok (outcome_get w), found]
  simp only [changed]
  rfl

/-- There is no change to a struct that is not there, and the workload stays as it is. -/
theorem outcome_updateStruct_none {index : Nat} {change : PoolStruct → Except TagError PoolStruct}
    (missing : w.structs[index]? = none) :
    outcome (updateStruct index change) w = (.error (.outOfBounds (.noStruct index)), w) := by
  rw [updateStruct, outcome_bind_ok (outcome_get w), missing]
  rfl

/-- A change that fails leaves the workload as it is. -/
theorem outcome_updateStruct_error {index : Nat} {change : PoolStruct → Except TagError PoolStruct}
    {s : PoolStruct} {e : TagError} (found : w.structs[index]? = some s)
    (failed : change s = .error e) : outcome (updateStruct index change) w = (.error e, w) := by
  rw [updateStruct, outcome_bind_ok (outcome_get w), found]
  simp only [failed]
  rfl

/-- A change that fails changes nothing, and neither does a change of a struct that is not there. -/
theorem outcome_updateStruct_cases (index : Nat) (change : PoolStruct → Except TagError PoolStruct)
    (w : Workload) :
    (∃ failure, outcome (updateStruct index change) w = (.error failure, w)) ∨
      ∃ s s', w.structs[index]? = some s ∧ change s = .ok s' := by
  cases found : w.structs[index]? with
  | none => exact .inl ⟨.outOfBounds (.noStruct index), outcome_updateStruct_none found⟩
  | some s =>
    cases changed : change s with
    | ok s' => exact .inr ⟨s, s', rfl, changed⟩
    | error failure => exact .inl ⟨failure, outcome_updateStruct_error found changed⟩

/-- A pointer joins those of its owner. -/
theorem outcome_addPointer {owner : Nat} (offset target : Nat) {s : PoolStruct}
    (found : w.structs[owner]? = some s) :
    outcome (addPointer owner offset target) w =
      (.ok (), w.withStructs (w.structs.set owner (s.joined [⟨offset, target⟩] []))) :=
  outcome_updateStruct found (by simp [PoolStruct.joined])

/-- A reference joins those of its owner. -/
theorem outcome_addDependency {owner : Nat} (offset tag : Nat) {s : PoolStruct}
    (found : w.structs[owner]? = some s) :
    outcome (addDependency owner offset tag) w =
      (.ok (), w.withStructs (w.structs.set owner (s.joined [] [⟨offset, tag⟩]))) :=
  outcome_updateStruct found (by simp [PoolStruct.joined])

/-- Bytes are written over those of the struct if it is long enough. -/
theorem outcome_overwrite {index offset : Nat} {bytes : Bytes} {s : PoolStruct}
    (found : w.structs[index]? = some s) (room : offset + bytes.length ≤ s.data.length) :
    outcome (overwrite index offset bytes) w =
      (.ok (), w.withStructs (w.structs.set index (s.written offset bytes))) :=
  outcome_updateStruct found (if_pos room)

/-- Inversion for writing: the window lies in a struct of the pool, and is written. -/
theorem outcome_overwrite_eq_ok {index offset : Nat} {bytes : Bytes} {w' : Workload}
    (ends : outcome (overwrite index offset bytes) w = (.ok (), w')) :
    ∃ s, w.structs[index]? = some s ∧ offset + bytes.length ≤ s.data.length ∧
      w' = w.withStructs (w.structs.set index (s.written offset bytes)) := by
  obtain ⟨failure, failed⟩ | ⟨s, s', found, changed⟩ := outcome_updateStruct_cases index _ w
  · cases failed.symm.trans ends
  split at changed
  · rename_i fits
    rw [outcome_overwrite found fits] at ends
    cases ends
    exact ⟨s, found, fits, rfl⟩
  · cases changed

/-! ### Tags, raw data and diagnostics -/

/-- A tag is registered at the end, unless it has been before. -/
theorem outcome_register (path : String) (tagClass : TagClass) (w : Workload) :
    outcome (register path tagClass) w =
      (.ok (registerIn w.tags path tagClass).2,
        { w with tags := (registerIn w.tags path tagClass).1 }) := rfl

/-- Raw data comes last, and its offset is the length of what is before it. -/
theorem outcome_addRawData {data : Bytes} (room : w.rawData.length < UInt32.size) :
    outcome (addRawData data) w =
      (.ok (UInt32.ofNat w.rawData.length), { w with rawData := w.rawData ++ data }) := by
  rw [addRawData, outcome_bind_ok (outcome_get w), if_neg (Nat.not_le.mpr room)]
  rfl

/-- Beyond what a word can address no more raw data is taken. -/
theorem outcome_addRawData_full {data : Bytes} (full : UInt32.size ≤ w.rawData.length) :
    outcome (addRawData data) w = (.error (.outOfBounds .rawDataFull), w) := by
  rw [addRawData, outcome_bind_ok (outcome_get w), if_pos full]
  rfl

/-- The base struct of a registered tag is set. -/
theorem outcome_setBaseStruct {tag struct : Nat} {registered : RegisteredTag}
    (found : w.tags[tag]? = some registered) :
    outcome (setBaseStruct tag struct) w =
      (.ok (),
        { w with tags := w.tags.set tag { registered with baseStruct := some struct } }) := by
  rw [setBaseStruct, outcome_bind_ok (outcome_get w), found]
  rfl

/-- A tag that is not registered has no base struct to be set. -/
theorem outcome_setBaseStruct_none {tag struct : Nat} (missing : w.tags[tag]? = none) :
    outcome (setBaseStruct tag struct) w = (.error (.unknownTag (.position tag)), w) := by
  rw [setBaseStruct, outcome_bind_ok (outcome_get w), missing]
  rfl

/-- A failure is reported before it is raised. -/
theorem outcome_fail {α : Type} (tag : Nat) (site : Site) (violation : Violation) (w : Workload) :
    outcome (fail tag site violation : Building α) w =
      (.error (.fatal site violation),
        w.reported [⟨.fatal, some tag, violation.message site⟩]) := rfl

/-! ### Checks -/

/-- A violation is reported and raised. -/
theorem outcome_check_some (tag : Nat) (site : Site) (violation : Violation) (w : Workload) :
    outcome (check tag site (some violation)) w =
      (.error (.fatal site violation),
        w.reported [⟨.fatal, some tag, violation.message site⟩]) := rfl

/-- Checking a count only adds diagnostics, and succeeds within the limits. -/
theorem outcome_checkCount (tag : Nat) (site : Site) (minimum maximum : Nat)
    (stockMaximum : Option Nat) (length : Nat) (w : Workload) :
    ∃ result reports, outcome (checkCount tag site minimum maximum stockMaximum length) w =
        (result, w.reported reports) ∧
      (result = .ok () ↔ minimum ≤ length ∧ length ≤ maximum) := by
  unfold checkCount
  -- The checks are made in this order, and the first failure ends them; a warning does not.
  by_cases few : length < minimum
  · refine ⟨.error (.fatal site (.tooFewElements minimum)),
      [⟨.fatal, some tag, Violation.message site (.tooFewElements minimum)⟩], ?_, ?_⟩
    · simp only [if_pos few]
      exact outcome_bind_error (outcome_fail tag site _ w)
    · exact ⟨fun h => (nomatch h), fun h => absurd few (Nat.not_lt.mpr h.1)⟩
  by_cases many : maximum < length
  · refine ⟨.error (.fatal site (.tooManyElements maximum)),
      [⟨.fatal, some tag, Violation.message site (.tooManyElements maximum)⟩], ?_, ?_⟩
    · simp only [if_neg few, if_pos many]
      exact outcome_bind_error (outcome_fail tag site _ w)
    · exact ⟨fun h => (nomatch h), fun h => absurd many (Nat.not_lt.mpr h.2)⟩
  have within : (Except.ok () : Except TagError Unit) = .ok () ↔
      minimum ≤ length ∧ length ≤ maximum :=
    ⟨fun _ => ⟨Nat.not_lt.mp few, Nat.not_lt.mp many⟩, fun _ => rfl⟩
  simp only [if_neg few, if_neg many]
  cases stockMaximum with
  | none => exact ⟨.ok (), [], by rw [reported_nil]; rfl, within⟩
  | some stock =>
    by_cases warned : w.options.checkStockLimits ∧ stock < length
    · refine ⟨.ok (), ?reports, ?run, within⟩
      case run =>
        rw [outcome_bind_ok (outcome_get w), if_pos warned]
        rfl
    · refine ⟨.ok (), [], ?_, within⟩
      rw [outcome_bind_ok (outcome_get w), if_neg warned, reported_nil]
      rfl

/-! ### Structs -/

variable {layout : Layout} {struct offset : Nat} {check : Building Unit}
  {handles : Building layout.Value}

/-- A build that checks for errors checks a struct before it does anything else with it. -/
theorem outcome_compileAt_of_checking (on : w.options.disableErrorChecking = false) :
    outcome (compileAt layout struct offset check handles) w =
      outcome (check >>= fun _ => handles >>= fun stored =>
        overwrite struct offset (layout.encode stored)) w := by
  rw [compileAt, outcome_bind_ok (outcome_get w), on]
  rfl

/-- With checks turned off only the handles are made and written. -/
theorem outcome_compileAt_of_not_checking (off : w.options.disableErrorChecking = true) :
    outcome (compileAt layout struct offset check handles) w =
      outcome (handles >>= fun stored => overwrite struct offset (layout.encode stored)) w := by
  rw [compileAt, outcome_bind_ok (outcome_get w), off]
  rfl

end Workload

end TagSchema
