import TagSchema.Proofs.Bundle.Plan
import TagSchema.Proofs.Bundle.Steps
import TagSchema.Proofs.LayoutCodec

/-!
# Builds follow their plans

A build that succeeds has done what its plan says: an action on behalf of a struct adds pointers and
dependencies to it (`Follows`), one that builds something in a window of a struct writes the result
there as well (`Fills`), and everything else has been appended (`Gains`).
-/

namespace TagSchema

namespace Workload

variable {α β γ : Type} {w w' w₁ w₂ w₃ : Workload} {struct : Nat} {s s₁ s₂ : PoolStruct}
  {tags : List RegisteredTag}

/-- One workload after something has been built that belongs to a struct, which has become `s`. -/
structure Gains (built : Built α) (struct : Nat) (s : PoolStruct) (old new : Workload) : Prop where
  structs : new.structs = old.structs.set struct s ++ built.structs
  tags : new.tags = registerAll old.tags built.references
  rawData : new.rawData = old.rawData ++ built.rawData
  options : new.options = old.options
  numbers : ∀ n ∈ built.numbers, n < UInt32.size

namespace Gains

variable {a : Built α} {b : Built β}

/-- The struct that was worked on is as it was said to be. -/
theorem found (gains : Gains a struct s w w') (h : struct < w.structs.length) :
    w'.structs[struct]? = some s := by
  rw [gains.structs, List.getElem?_append_left (by simpa using h), List.getElem?_set_self h]

/-- As many structs are added as were planned. -/
theorem length_structs (gains : Gains a struct s w w') :
    w'.structs.length = w.structs.length + a.structs.length := by
  rw [gains.structs, List.length_append, List.length_set]

/-- As much raw data is added as was planned. -/
theorem length_rawData (gains : Gains a struct s w w') :
    w'.rawData.length = w.rawData.length + a.rawData.length := by
  rw [gains.rawData, List.length_append]

/-- Gains of two actions on the same struct, one after the other, are gains of both. -/
theorem combine (f : α → β → γ) (h₁ : Gains a struct s₁ w₁ w₂) (h₂ : Gains b struct s₂ w₂ w₃)
    (h : struct < w₁.structs.length) : Gains (a.combine f b) struct s₂ w₁ w₃ where
  structs := by
    rw [h₂.structs, h₁.structs, List.set_append_left _ _ (by simpa using h), List.set_set,
      List.append_assoc]
    rfl
  tags := by
    rw [h₂.tags, h₁.tags, registerAll, registerAll, ← List.foldl_append]
    rfl
  rawData := by
    rw [h₂.rawData, h₁.rawData, List.append_assoc]
    rfl
  options := h₂.options.trans h₁.options
  numbers n hn := (List.mem_append.mp hn).elim (h₁.numbers n) (h₂.numbers n)

end Gains

/-- Whenever an action on behalf of a struct succeeds, it has done as planned for the tags that are
registered then or at some later time. -/
def Follows (struct : Nat) (m : Building α) (plan : List RegisteredTag → Plan α) : Prop :=
  ∀ ⦃w w' s stored⦄, w.structs[struct]? = some s → outcome m w = (.ok stored, w') →
    ∀ tags, w'.tags <+: tags →
      let built := plan tags w.structs.length w.rawData.length
      stored = built.stored ∧ Gains built struct (s.joined built.pointers built.dependencies) w w'

namespace Follows

variable {m : Building α} {m' : Building β} {plan : List RegisteredTag → Plan α}
  {plan' : List RegisteredTag → Plan β}

/-- An action that follows a plan registers tags and forgets none. -/
theorem grows (h : Follows struct m plan) {stored : α} (found : w.structs[struct]? = some s)
    (ends : outcome m w = (.ok stored, w')) : w.tags <+: w'.tags := by
  obtain ⟨-, gains⟩ := h found ends w'.tags (List.prefix_refl _)
  exact gains.tags ▸ prefix_registerAll _ _

theorem pure (a : α) : Follows struct (Pure.pure a : Building α) fun _ => .done a := by
  intro w w' s stored found ends tags _
  obtain ⟨rfl, rfl⟩ := outcome_pure_eq_ok ends
  refine ⟨rfl, ?_, rfl, (List.append_nil _).symm, rfl, fun n hn => nomatch hn⟩
  obtain ⟨inside, rfl⟩ := List.getElem?_eq_some_iff.mp found
  simp [Plan.done]

/-- What is made of a result is planned for what is made of the plan. -/
theorem map {f : α → β} (h : Follows struct m plan) :
    Follows struct (m >>= fun a => Pure.pure (f a)) fun tags => (plan tags).map f := by
  intro w w' s stored found ends tags later
  obtain ⟨a, w₁, first, last⟩ := outcome_bind_eq_ok ends
  obtain ⟨rfl, rfl⟩ := outcome_pure_eq_ok last
  obtain ⟨rfl, gains⟩ := h found first tags later
  exact ⟨rfl, gains.structs, gains.tags, gains.rawData, gains.options, gains.numbers⟩

/-- A second action is planned behind what the first has gained. -/
theorem andThen {f : α → β → γ} (h : Follows struct m plan) (h' : Follows struct m' plan') :
    Follows struct (m >>= fun a => m' >>= fun b => Pure.pure (f a b))
      fun tags => (plan tags).andThen f (plan' tags) := by
  intro w w' s stored found ends tags later
  obtain ⟨a, w₁, first, ends⟩ := outcome_bind_eq_ok ends
  obtain ⟨b, w₂, second, last⟩ := outcome_bind_eq_ok ends
  obtain ⟨rfl, rfl⟩ := outcome_pure_eq_ok last
  have inside := (List.getElem?_eq_some_iff.mp found).1
  -- The second part may register more tags before the indices of the first part are looked up.
  have between : w₁.tags <+: tags := by
    obtain ⟨-, gains⟩ := h found first w₁.tags (List.prefix_refl _)
    exact (h'.grows (gains.found inside) second).trans later
  obtain ⟨rfl, gains⟩ := h found first tags between
  obtain ⟨rfl, gains'⟩ := h' (gains.found inside) second tags later
  rw [gains.length_structs, gains.length_rawData, PoolStruct.joined_joined] at gains'
  rw [gains.length_structs, gains.length_rawData]
  exact ⟨rfl, gains.combine f gains' inside⟩

/-- A check that succeeds changes nothing but the diagnostics. -/
theorem after {check : Building γ} (silent : ∀ w a w', outcome check w = (.ok a, w') →
      ∃ reports, w' = w.reported reports) (h : Follows struct m plan) :
    Follows struct (check >>= fun _ => m) plan := by
  intro w w' s stored found ends tags later
  obtain ⟨a, w₁, first, ends⟩ := outcome_bind_eq_ok ends
  obtain ⟨reports, rfl⟩ := silent w a w₁ first
  obtain ⟨rfl, gains⟩ := h (w := w.reported reports) found ends tags later
  exact ⟨rfl, gains.structs, gains.tags, gains.rawData, gains.options, gains.numbers⟩

/-! ### Handles -/

/-- A reference that compiles is registered, and its handle has the position of its tag. -/
theorem dependency {tag place : Nat} {site : Site} {classes : List TagClass} {nonNull : Bool}
    {d : Dependency} :
    Follows struct (compileDependency tag struct place site classes nonNull d)
      fun tags => Plan.dependency tags place d := by
  intro w w' s stored found ends tags later
  unfold compileDependency at ends
  -- A null reference is kept without a tag, where it is allowed; any other one is registered, if
  -- its class is allowed.
  by_cases null : d.isNull
  · simp only [if_pos null] at ends
    simp only [Plan.dependency_of_null null]
    cases nonNull with
    | true =>
      obtain ⟨_, _, failed, -⟩ := outcome_bind_eq_ok ends
      cases failed
    | false => exact pure _ found ends tags later
  · simp only [if_neg null] at ends
    split at ends
    · obtain ⟨_, _, failed, -⟩ := outcome_bind_eq_ok ends
      cases failed
    · rw [outcome_bind_ok (outcome_register _ _ w)] at ends
      have added := outcome_addDependency place (registerIn w.tags d.path d.tagClass).2
        (w := { w with tags := (registerIn w.tags d.path d.tagClass).1 }) found
      rw [outcome_bind_ok added] at ends
      obtain ⟨rfl, rfl⟩ := outcome_pure_eq_ok ends
      simp only [Plan.dependency_of_path null]
      rw [tagIndex_eq later]
      exact ⟨rfl, (List.append_nil _).symm, rfl, (List.append_nil _).symm, rfl,
        fun n hn => nomatch hn⟩

/-- A count that fits is the word of that number, and counting does nothing else. -/
theorem countWord_eq_ok {what : String} {length : Nat} {count : UInt32}
    (ends : outcome (liftM (countWord what length) : Building UInt32) w = (.ok count, w')) :
    count = UInt32.ofNat length ∧ length < UInt32.size ∧ w' = w := by
  obtain rfl : w = w' := congrArg Prod.snd ends
  have counted : countWord what length = .ok count := congrArg Prod.fst ends
  unfold countWord at counted
  split at counted
  · cases counted
    exact ⟨rfl, ‹_›, rfl⟩
  · cases counted

/-- A blob that is pointed to gets a struct of its own. -/
theorem blob_pointer {place : Nat} {data : Bytes} (nonempty : data ≠ [])
    (fits : data.length < UInt32.size) :
    Follows struct (addStruct data >>= fun blob =>
        addPointer struct (place + blobPointerOffset) blob >>= fun _ =>
        Pure.pure (BlobHandle.mk (UInt32.ofNat data.length) 0 0 0 0))
      fun _ => Plan.blob (fun _ => 0) place .pointer data := by
  intro w w' s stored found ends tags later
  rw [outcome_bind_ok (outcome_addStruct data w)] at ends
  have inside := (List.getElem?_eq_some_iff.mp found).1
  have added := outcome_addPointer (place + blobPointerOffset) w.structs.length
    (w := w.withStructs (w.structs ++ [⟨data, [], []⟩]))
    ((List.getElem?_append_left inside).trans found)
  rw [outcome_bind_ok added] at ends
  obtain ⟨rfl, rfl⟩ := outcome_pure_eq_ok ends
  rw [Plan.blob_pointer nonempty]
  exact ⟨rfl, List.set_append_left _ _ inside, rfl, (List.append_nil _).symm, rfl,
    fun n hn => List.mem_singleton.mp hn ▸ fits⟩

/-- A blob of another selector goes into the raw data. -/
theorem blob_raw {place : Nat} {selector : BlobSelector} {data : Bytes} (nonempty : data ≠ [])
    (selected : selector ≠ .pointer) (fits : data.length < UInt32.size) :
    Follows struct (addRawData data >>= fun fileOffset =>
        Pure.pure (BlobHandle.mk (UInt32.ofNat data.length) 0 fileOffset 0 0))
      fun _ => Plan.blob (fun _ => 0) place selector data := by
  intro w w' s stored found ends tags later
  by_cases room : w.rawData.length < UInt32.size
  · rw [outcome_bind_ok (outcome_addRawData room)] at ends
    obtain ⟨rfl, rfl⟩ := outcome_pure_eq_ok ends
    obtain ⟨inside, rfl⟩ := List.getElem?_eq_some_iff.mp found
    rw [Plan.blob_raw nonempty selected]
    refine ⟨rfl, by simp, rfl, rfl, rfl, fun n hn => ?_⟩
    obtain rfl | rfl : n = data.length ∨ n = w.rawData.length := by simpa using hn
    · exact fits
    · exact room
  · rw [outcome_bind_error (outcome_addRawData_full (Nat.not_lt.mp room))] at ends
    cases ends

/-- A blob follows its plan: nothing for an empty one, and else a struct or raw data. -/
theorem blob {place : Nat} {selector : BlobSelector} {data : Bytes} :
    Follows struct (compileBlob struct place selector data)
      fun _ => Plan.blob (fun _ => 0) place selector data := by
  intro w w' s stored found ends tags later
  unfold compileBlob at ends
  obtain ⟨count, w₁, counted, built⟩ := outcome_bind_eq_ok ends
  obtain ⟨rfl, fits, rfl⟩ := countWord_eq_ok counted
  by_cases empty : data = []
  · subst empty
    exact pure _ found built tags later
  rw [if_neg (by simpa using empty)] at built
  cases selector with
  | pointer => exact blob_pointer empty fits found built tags later
  | fileOffset => exact blob_raw empty (by decide) fits found built tags later
  | external source => exact blob_raw empty (by simp) fits found built tags later

end Follows

/-! ### Windows -/

/-- Whenever an action that builds something in a window of a struct succeeds, it has done as
planned and has written the result there. -/
def Fills (struct offset : Nat) (encode : α → Bytes) (m : Building Unit)
    (plan : List RegisteredTag → Plan α) : Prop :=
  ∀ ⦃w w' s⦄, w.structs[struct]? = some s → outcome m w = (.ok (), w') →
    ∀ tags, w'.tags <+: tags →
      let built := plan tags w.structs.length w.rawData.length
      offset + (encode built.stored).length ≤ s.data.length ∧
        Gains built struct ((s.written offset (encode built.stored)).joined built.pointers
          built.dependencies) w w'

/-- Checks that say nothing change nothing that is planned, so what is laid out fills its place as
planned. -/
theorem Fills.compileAt {layout : Layout} {offset : Nat} {check : Building Unit}
    {handles : Building layout.Value} {plan : List RegisteredTag → Plan layout.Value}
    (silent : ∀ w w', outcome check w = (.ok (), w') → ∃ reports, w' = w.reported reports)
    (h : Follows struct handles plan) :
    Fills struct offset layout.encode (compileAt layout struct offset check handles) plan := by
  intro w w' s found ends tags later
  unfold TagSchema.compileAt at ends
  rw [outcome_bind_ok (outcome_get w)] at ends
  -- With or without checks, the handles are made of the same workload but for its reports.
  obtain ⟨reports, written⟩ : ∃ reports, outcome (handles >>= fun stored =>
      overwrite struct offset (layout.encode stored)) (w.reported reports) = (.ok (), w') := by
    split at ends
    · obtain ⟨_, w₁, checked, ends⟩ := outcome_bind_eq_ok ends
      obtain ⟨reports, rfl⟩ := silent w w₁ checked
      exact ⟨reports, ends⟩
    · exact ⟨[], (reported_nil w).symm ▸ ends⟩
  obtain ⟨stored, w₁, handled, written⟩ := outcome_bind_eq_ok written
  have inside := (List.getElem?_eq_some_iff.mp found).1
  obtain ⟨s₁, found₁, fits, rfl⟩ := outcome_overwrite_eq_ok written
  obtain ⟨rfl, gains⟩ := h (w := w.reported reports) found handled tags later
  cases (gains.found inside).symm.trans found₁
  refine ⟨fits, ?_, gains.tags, gains.rawData, gains.options, gains.numbers⟩
  change w₁.structs.set struct _ = _
  rw [gains.structs, List.set_append_left _ _ (by rw [List.length_set]; exact inside),
    List.set_set]
  rfl

/-- The next window begins where one that fits ends. -/
theorem next_window {size index : Nat} {bytes : Bytes} (length : bytes.length = size)
    (fits : index * size + bytes.length ≤ s.data.length) :
    (index + 1) * size ≤ (s.written (index * size) bytes).data.length := by
  rw [PoolStruct.written, Bytes.length_overwrite _ _ _ fits, Nat.succ_mul, ← length]
  exact length ▸ fits

/-- Elements fill windows side by side. -/
theorem Fills.elements {compile : Nat → α → Building Unit} {array size index : Nat} {site : Site}
    {encode : β → Bytes} {single : List RegisteredTag → Nat → α → Plan β} {items : List α}
    (sizes : ∀ stored, (encode stored).length = size)
    (each : ∀ place item, Fills array place encode (compile place item)
      fun tags => single tags place item)
    (found : w.structs[array]? = some s) (reached : index * size ≤ s.data.length)
    (ends : outcome (compileElements site size compile index items) w = (.ok (), w'))
    (tags : List RegisteredTag) (later : w'.tags <+: tags) :
    let built := Plan.elements (single tags) size index items w.structs.length w.rawData.length
    Gains built array ((s.written (index * size) (built.stored.flatMap encode)).joined
      built.pointers built.dependencies) w w' := by
  induction items generalizing index w s tags with
  | nil =>
    obtain ⟨-, rfl⟩ := outcome_pure_eq_ok ends
    have nothing : s.written (index * size) [] = s := by
      rw [PoolStruct.written, Bytes.overwrite_nil]
    refine ⟨?_, rfl, (List.append_nil _).symm, rfl, fun n hn => absurd hn List.not_mem_nil⟩
    obtain ⟨inside, rfl⟩ := List.getElem?_eq_some_iff.mp found
    simp [Plan.elements, Plan.done, nothing]
  | cons item rest ih =>
    obtain ⟨_, w₁, adapted, others⟩ := outcome_bind_eq_ok ends
    have first := outcome_adapt_eq_ok adapted
    have inside := (List.getElem?_eq_some_iff.mp found).1
    have between : w₁.tags <+: w'.tags := by
      obtain ⟨fits, gains⟩ := each _ _ found first w₁.tags (List.prefix_refl _)
      have gains' := ih (gains.found inside) (next_window (sizes _) fits) others w'.tags
        (List.prefix_refl _)
      exact gains'.tags ▸ prefix_registerAll _ _
    obtain ⟨fits, gains⟩ := each _ _ found first tags (between.trans later)
    have gains' := ih (gains.found inside) (next_window (sizes _) fits) others tags later
    have both := gains.combine List.cons gains' inside
    rw [gains.length_structs, gains.length_rawData] at both
    -- The window of the first element and those of the others are one window.
    have window (stored : β) (bytes : Bytes) :
        (s.written (index * size) (encode stored)).written ((index + 1) * size) bytes =
          s.written (index * size) (encode stored ++ bytes) := by
      rw [Nat.succ_mul, ← PoolStruct.written_written s reached, sizes]
    rw [PoolStruct.written_joined, PoolStruct.joined_joined, window] at both
    exact both

/-- An array follows its plan if its elements fill the places of a new struct as planned. -/
theorem Follows.array {compile : Nat → Nat → α → Building Unit} {place size : Nat} {site : Site}
    {encode : β → Bytes} {single : List RegisteredTag → Nat → α → Plan β} {items : List α}
    (sizes : ∀ stored, (encode stored).length = size)
    (each : ∀ array place item, Fills array place encode (compile array place item)
      fun tags => single tags place item) :
    Follows struct (compileArray struct place site size compile items)
      fun tags => Plan.array (fun _ => 0) place size encode (single tags) items := by
  intro w w' s stored found ends tags later
  unfold compileArray at ends
  obtain ⟨count, w₁, counted, built⟩ := outcome_bind_eq_ok ends
  obtain ⟨rfl, fits, rfl⟩ := countWord_eq_ok counted
  by_cases empty : items = []
  · subst empty
    exact pure _ found built tags later
  rw [if_pos (by simpa using empty)] at built
  have inside := (List.getElem?_eq_some_iff.mp found).1
  -- The new struct is filled behind the pointer to it.
  let unfilled : PoolStruct := ⟨Bytes.zeros (items.length * size), [], []⟩
  let s' := s.joined [⟨place + arrayPointerOffset, w₁.structs.length⟩] []
  have pointed : outcome (addPointer struct (place + arrayPointerOffset) w₁.structs.length)
      (w₁.withStructs (w₁.structs ++ [unfilled])) =
        (.ok (), w₁.withStructs (w₁.structs.set struct s' ++ [unfilled])) := by
    rw [outcome_addPointer _ _ ((List.getElem?_append_left inside).trans found)]
    exact congrArg (fun structs => (Except.ok (), w₁.withStructs structs))
      (List.set_append_left _ _ inside)
  rw [outcome_bind_ok (outcome_addStruct _ w₁), outcome_bind_ok pointed] at built
  obtain ⟨_, w₂, filled, last⟩ := outcome_bind_eq_ok built
  obtain ⟨rfl, rfl⟩ := outcome_pure_eq_ok last
  have next : (w₁.structs.set struct s').length = w₁.structs.length := List.length_set
  have fresh : (w₁.structs.set struct s' ++ [unfilled])[w₁.structs.length]? = some unfilled := by
    rw [← next, List.getElem?_concat_length]
  have gains := Fills.elements sizes (each _) fresh (by simp) filled tags later
  have length : (w₁.withStructs (w₁.structs.set struct s' ++ [unfilled])).structs.length =
      w₁.structs.length + 1 := by
    rw [← next]
    exact List.length_append
  rw [length] at gains
  have whole (stored : List β) (h : stored.length = items.length) :
      unfilled.written (0 * size) (stored.flatMap encode) =
        ⟨stored.flatMap encode, [], []⟩ := by
    rw [Nat.zero_mul, PoolStruct.written, Bytes.overwrite_whole]
    rw [Bytes.length_zeros, length_flatMap_of_length_eq sizes, h]
  simp only [whole _ (Plan.length_stored_elements ..)] at gains
  simp only [Plan.array_of_ne empty]
  refine ⟨trivial, ?_, gains.tags, gains.rawData, gains.options, fun n hn => ?_⟩
  · rw [gains.structs]
    change (w₁.structs.set struct s' ++ [unfilled]).set w₁.structs.length _ ++ _ = _
    rw [List.set_append_right _ _ (Nat.le_of_eq next), next, Nat.sub_self, List.append_assoc]
    rfl
  · obtain rfl | inner := List.mem_cons.mp hn
    · exact fits
    · exact gains.numbers n inner

end Workload

/-! ### Structs -/

open Workload

variable {tag struct : Nat} {w : Workload}

/-- A check that succeeds changes nothing. -/
theorem Workload.check_silent {site : Site} {violation? : Option Violation} {w w' : Workload}
    (h : outcome (check tag site violation?) w = (.ok (), w')) : w' = w := by
  cases violation? with
  | none =>
    cases h
    rfl
  | some violation => cases h

/-- A check that passes leaves the workload as it is. -/
theorem Members.check_silent {owner : String} {stack : ContainmentStack} (members : Members)
    {value : members.Value} {w w' : Workload}
    (h : outcome (members.check tag owner stack value) w = (.ok (), w')) : w' = w := by
  induction members generalizing w with
  | nil =>
    cases h
    rfl
  | leaf traits type rest ih =>
    obtain ⟨_, w₁, first, others⟩ := outcome_bind_eq_ok h
    obtain rfl := Workload.check_silent first
    exact ih others
  | array traits limits name title element rest ihElement ih => exact ih h

/-- A member that is no array follows its plan. -/
theorem LeafType.follows_compile {place : Nat} {order : ByteOrder} {site : Site} (type : LeafType)
    (value : type.Value) :
    Follows struct (type.compile tag struct place order site value)
      fun tags => type.plan (fun _ => 0) tags place order value := by
  cases type with
  | plain type => exact .pure _
  | dependency classes nonNull => exact .map .dependency
  | blob selector => exact .map .blob

/-- Building the handles of some members follows their plan. -/
theorem Members.follows_compile {owner : String} {stack : ContainmentStack} {place : Nat}
    (members : Members) (value : members.Value) :
    Follows struct (members.compile tag owner stack struct place value)
      fun tags => members.plan (fun _ => 0) tags place value := by
  induction members generalizing owner stack struct place with
  | nil => exact .pure _
  | leaf traits type rest ih => exact .andThen (type.follows_compile value.1) (ih value.2)
  | array traits limits name title element rest ihElement ih =>
    refine .after (fun w result w' ends => ?_) ?_
    · obtain ⟨result, reports, h, -⟩ := outcome_checkCount tag (traits.site owner) limits.minimum
        limits.maximum limits.stockMaximum value.1.length w
      exact ⟨reports, (congrArg Prod.snd (ends.symm.trans h))⟩
    · refine Follows.andThen
        (f := fun handle others => (handle.store (traits.orderIn .packed), others))
        (.array (Layout.length_encode _) fun array place item => ?_) (ih value.2)
      exact .compileAt (fun w w' h => ⟨[], by rw [reported_nil, element.check_silent h]⟩)
        (ihElement item)

/-- A struct that was built has its plan behind it: a new struct with what it stores and points to,
then the structs that it leads to. -/
theorem StructType.compileTag_eq_ok {type : StructType} {value : type.Value} {k : Nat}
    {w' : Workload} (ends : outcome (type.compileTag tag value) w = (.ok k, w'))
    (tags : List RegisteredTag) (later : w'.tags <+: tags) :
    let built := type.members.plan (fun _ => 0) tags 0 value (w.structs.length + 1) w.rawData.length
    k = w.structs.length ∧
      w'.structs = w.structs ++ ⟨(type.members.layout .packed).encode built.stored, built.pointers,
        built.dependencies⟩ :: built.structs ∧
      w'.tags = registerAll w.tags built.references ∧ w'.rawData = w.rawData ++ built.rawData ∧
      ∀ n ∈ built.numbers, n < UInt32.size := by
  unfold compileTag at ends
  rw [outcome_bind_ok (outcome_addStruct _ w)] at ends
  obtain ⟨_, w₁, compiled, last⟩ := outcome_bind_eq_ok ends
  obtain ⟨rfl, rfl⟩ := outcome_pure_eq_ok last
  -- The struct of the tag is added first, as zeros, and compiling the value fills it.
  have fills : Fills w.structs.length 0 (type.members.layout .packed).encode
      (type.compile tag {} w.structs.length 0 value)
      fun tags => type.members.plan (fun _ => 0) tags 0 value :=
    .compileAt (fun w w' h => ⟨[], by rw [reported_nil, type.members.check_silent h]⟩)
      (type.members.follows_compile value)
  have fresh : (w.structs ++ [⟨Bytes.zeros (type.size .packed), [], []⟩])[w.structs.length]? =
      some (PoolStruct.mk (Bytes.zeros (type.size .packed)) [] []) := List.getElem?_concat_length
  obtain ⟨-, gains⟩ := fills fresh compiled tags later
  have length : (w.withStructs (w.structs ++
      [⟨Bytes.zeros (type.size .packed), [], []⟩])).structs.length = w.structs.length + 1 :=
    List.length_append
  rw [length] at gains
  refine ⟨rfl, ?_, gains.tags, gains.rawData, gains.numbers⟩
  rw [gains.structs]
  change (w.structs ++ [_]).set w.structs.length _ ++ _ = _
  rw [List.set_append_right _ _ (Nat.le_refl _), Nat.sub_self, PoolStruct.written,
    Bytes.overwrite_whole _ _ (by simp [StructType.size]; rfl), List.append_assoc]
  rfl

end TagSchema
