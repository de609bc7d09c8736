import TagSchema.Emit.Target
import TagSchema.Proofs.Emit.StoredTypes
import TagSchema.Proofs.Schema.Naming

/-!
# Sizes in emitted layouts

An emitted layout defines its size as the sum of the sizes of its fields, and asserts that this is
the size that was declared. Here both are read back from the steps of a layout: there is one line
for each, whatever the fields are called (`constant_mem_layout`), and its text tells the types that
are summed up, or the size that is asserted.
-/

namespace TagSchema

namespace Emit.Definitions

/-! ### Sums of sizes -/

/-- The size of a type in an expression. -/
def sizeTerm (type : StoredType) : String := "<" ++ type.spelling ++ " as Layout>::SIZE"

/-- The sum of the sizes of some types. -/
def sizeSum : List StoredType → String
  | [] => "0"
  | types => String.intercalate " + " (types.map sizeTerm)

/-- A term of a sum tells which type it is about, whatever follows. -/
theorem sizeTerm_append_inj {t t' : StoredType} {r s : List Char}
    (same : (sizeTerm t).toList ++ r = (sizeTerm t').toList ++ s) : t = t' ∧ r = s := by
  have whole : t.spelling.toList ++ (" as Layout>::SIZE".toList ++ r) =
      t'.spelling.toList ++ (" as Layout>::SIZE".toList ++ s) := by
    simpa [sizeTerm] using same
  obtain ⟨rfl, rest⟩ := StoredType.spelling_append_inj whole
  exact ⟨rfl, List.append_cancel_left rest⟩

/-- What follows the first term of a sum. -/
def furtherTerms (types : List StoredType) : List Char :=
  types.flatMap fun type => " + ".toList ++ (sizeTerm type).toList

theorem toList_sizeSum (first : StoredType) (rest : List StoredType) :
    (sizeSum (first :: rest)).toList = (sizeTerm first).toList ++ furtherTerms rest := by
  induction rest generalizing first with
  | nil => simp [sizeSum, furtherTerms]
  | cons second rest ih =>
    have step : (sizeSum (first :: second :: rest)).toList =
        (sizeTerm first).toList ++ (" + ".toList ++ (sizeSum (second :: rest)).toList) := by
      simp [sizeSum]
    rw [step, ih, furtherTerms, furtherTerms, List.flatMap_cons, List.append_assoc]

/-- So do the terms of a sum, one by one. -/
theorem furtherTerms_inj {types types' : List StoredType}
    (same : furtherTerms types = furtherTerms types') : types = types' := by
  induction types generalizing types' with
  | nil =>
    cases types' with
    | nil => rfl
    | cons => simp [furtherTerms] at same
  | cons first rest ih =>
    cases types' with
    | nil => simp [furtherTerms] at same
    | cons first' rest' =>
      simp only [furtherTerms, List.flatMap_cons, List.append_assoc] at same
      obtain ⟨rfl, more⟩ := sizeTerm_append_inj (List.append_cancel_left same)
      rw [ih more]

/-- The terms of a sum can be told apart. -/
theorem sizeSum_inj {types types' : List StoredType} (same : sizeSum types = sizeSum types') :
    types = types' := by
  -- The empty sum is spelled as zero, which is no term.
  have zero : ∀ first rest, sizeSum [] ≠ sizeSum (first :: rest) := by
    intro first rest same
    have texts := congrArg String.toList same
    rw [toList_sizeSum] at texts
    simp [sizeSum, sizeTerm] at texts
  cases types with
  | nil =>
    cases types' with
    | nil => rfl
    | cons first rest => exact absurd same (zero first rest)
  | cons first rest =>
    cases types' with
    | nil => exact absurd same.symm (zero first rest)
    | cons first' rest' =>
      have texts := congrArg String.toList same
      rw [toList_sizeSum, toList_sizeSum] at texts
      obtain ⟨rfl, more⟩ := sizeTerm_append_inj texts
      rw [furtherTerms_inj more]

/-- The sum of the sizes of fields, in the words of the emitter. -/
theorem sizeSum_storedTypes {fields : List ClassifiedField} {form : Form}
    (nonempty : fields ≠ []) : sizeSum (fields.map (·.storedType form)) =
      String.intercalate " + "
        ((fields.map (layoutType · form)).map fun type => s!"<{type} as Layout>::SIZE") := by
  have terms : (fields.map (·.storedType form)).map sizeTerm =
      (fields.map (layoutType · form)).map fun type => s!"<{type} as Layout>::SIZE" := by
    rw [List.map_map, List.map_map]
    refine List.map_congr_left fun field _ => ?_
    rw [Function.comp_apply, Function.comp_apply, ← field.spelling_storedType form]
    rfl
  rw [← terms]
  cases fields with
  | nil => exact absurd rfl nonempty
  | cons field rest => rfl

/-! ### Constants -/

/-- The line that defines the size of a layout. -/
def sizeLine (value : String) : String := "const SIZE: usize = " ++ value ++ ";"

/-- The line that checks the size of a layout. -/
def sizeAssertion (name : String) (size : Nat) : String :=
  "const _: () = assert!(<" ++ name ++ " as Layout>::SIZE == " ++ Text.hex size ++ ");"

/-- The line that checks the size of a layout in memory. -/
def memoryAssertion (name : String) (size : Nat) : String :=
  "const _: () = assert!(std::mem::size_of::<" ++ name ++ ">() == " ++ Text.hex size ++ ");"

/-- The text starts with another. -/
def Starts (start text : String) : Prop := start.toList <+: text.toList

/-- Whether two texts differ at a place that both have. -/
def diverge (a b : String) : Bool := (a.toList.zip b.toList).any fun (x, y) => x != y

namespace Starts

theorem refl (text : String) : Starts text text := List.prefix_refl _

/-- What begins a text begins every longer one. -/
theorem append {start text : String} (h : Starts start text) (more : String) :
    Starts start (text ++ more) := by
  rw [Starts, String.toList_append]
  exact h.trans (List.prefix_append _ _)

/-- Texts that start with different texts are different. -/
theorem ne {a b x y : String} (hx : Starts a x) (hy : Starts b y) (other : diverge a b = true) :
    x ≠ y := by
  rintro rfl
  obtain ⟨r, hr⟩ := hx
  obtain ⟨s, hs⟩ := hy
  have same := hr.trans hs.symm
  clear hr hs
  unfold diverge at other
  generalize a.toList = a at other same
  generalize b.toList = b at other same
  induction a generalizing b with
  | nil => cases other
  | cons c a ih =>
    cases b with
    | nil => cases other
    | cons d b =>
      obtain ⟨rfl, rest⟩ := List.cons.inj same
      exact ih b (by simpa using other) rest

end Starts

/-- The text declares a constant. -/
structure IsConstant (text : String) : Prop where
  starts : Starts "const " text
  ends : text.toList.getLast? = some ';'

/-- What starts otherwise is no constant. -/
theorem IsConstant.not_starts {text start : String} (constant : IsConstant text)
    (other : diverge "const " start = true) : ¬ Starts start text :=
  fun h => constant.starts.ne h other rfl

/-- The lines that start with names end in commas. -/
theorem not_isConstant_next (name : String) : ¬ IsConstant (name ++ ": r.next(),") := by
  rintro ⟨-, ends⟩
  rw [String.toList_append, List.getLast?_append_of_ne_nil _ (by decide)] at ends
  revert ends
  decide

/-- A line is a constant if it begins and ends like one. -/
theorem isConstant_append {text stop : String} (starts : Starts "const " text)
    (ends : stop.toList.getLast? = some ';') : IsConstant (text ++ stop) := by
  refine ⟨starts.append stop, ?_⟩
  rw [String.toList_append, List.getLast?_append, ends]
  rfl

theorem starts_sizeLine (value : String) : Starts "const SIZE: usize = " (sizeLine value) :=
  ((Starts.refl _).append _).append _

theorem starts_sizeAssertion (name : String) (size : Nat) :
    Starts "const _: () = assert!(<" (sizeAssertion name size) :=
  ((((Starts.refl _).append _).append _).append _).append _

theorem starts_memoryAssertion (name : String) (size : Nat) :
    Starts "const _: () = assert!(std::mem::size_of::<" (memoryAssertion name size) :=
  ((((Starts.refl _).append _).append _).append _).append _

theorem isConstant_sizeLine (value : String) : IsConstant (sizeLine value) :=
  isConstant_append (Starts.append (by unfold Starts; decide) _) (by decide)

theorem isConstant_sizeAssertion (name : String) (size : Nat) :
    IsConstant (sizeAssertion name size) := by
  have starts : Starts "const " "const _: () = assert!(<" := by
    unfold Starts
    decide
  exact isConstant_append (((starts.append _).append _).append _) (by decide)

/-- A line that defines a size has one value only. -/
theorem sizeLine_inj {value value' : String} (same : sizeLine value = sizeLine value') :
    value = value' :=
  (String.append_right_inj _).mp ((String.append_left_inj _).mp same)

/-- An assertion about a struct has one size only. -/
theorem sizeAssertion_inj {name : String} {size size' : Nat}
    (same : sizeAssertion name size = sizeAssertion name size') : size = size' :=
  Text.hex_inj.mp ((String.append_right_inj _).mp ((String.append_left_inj _).mp same))

/-! ### Lines of a layout -/

/-- The lines between braces are those of the body. -/
theorem line_mem_braces {text head tail : String} {body : List Step} :
    .line text ∈ braces head body tail ↔ .line text ∈ body := by
  simp [braces, block]

section Constants

variable {s : ClassifiedStruct} {form : Form} {text : String} (constant : IsConstant text)
include constant

/-- The methods of a layout define one constant, the sum of the sizes of the fields. -/
theorem constant_mem_layoutMethods {fields : List ClassifiedField} {types : List String}
    (h : .line text ∈ layoutMethods fields types) : text =
      sizeLine (String.intercalate " + " (types.map fun type => s!"<{type} as Layout>::SIZE")) := by
  simp only [layoutMethods, method, List.mem_append, line_mem_braces, List.mem_cons, List.mem_map,
    List.not_mem_nil, or_false, Step.line.injEq, reduceCtorEq] at h
  obtain (same | rfl | ⟨field, -, rfl⟩) | rfl | ⟨field, -, rfl⟩ := h
  · exact same
  · exact absurd (.refl _) (constant.not_starts (by decide))
  · exact absurd constant (not_isConstant_next _)
  · exact absurd (.refl _) (constant.not_starts (by decide))
  · exact absurd (((Starts.refl "w.put(&self.").append _).append _)
      (constant.not_starts (by decide))

/-- Without fields that constant is zero. -/
theorem constant_mem_emptyLayoutMethods (h : .line text ∈ emptyLayoutMethods) :
    text = sizeLine "0" := by
  simp only [emptyLayoutMethods, method, List.mem_append, line_mem_braces, List.mem_cons,
    List.not_mem_nil, or_false, false_or, Step.line.injEq, reduceCtorEq] at h
  obtain (same | rfl) | rfl := h
  · exact same
  · exact absurd (.refl _) (constant.not_starts (by decide))
  · exact absurd (.refl _) (constant.not_starts (by decide))

/-- A layout has three constants. The first is its size, the sum of the sizes of its fields, and the
others are what is checked of it. -/
theorem constant_mem_layout (h : .line text ∈ layout s form) :
    text = sizeLine (sizeSum (s.fields.map (·.storedType form))) ∨
      text = sizeAssertion (form.layoutName s.name) s.size ∨
      text = memoryAssertion (form.layoutName s.name) s.size := by
  simp only [layout, List.mem_append, line_mem_braces, List.mem_cons, List.mem_map,
    List.not_mem_nil, or_false, Step.line.injEq, reduceCtorEq, false_or] at h
  obtain (((rfl | rfl) | ⟨field, -, rfl⟩) | method) | assertion | assertion := h
  · exact absurd (.refl _) (constant.not_starts (by decide))
  · exact absurd (.refl _) (constant.not_starts (by decide))
  · exact absurd (((((Starts.refl "pub ").append _).append _).append _).append _)
      (constant.not_starts (by decide))
  · left
    split at method
    · rename_i empty
      rw [List.isEmpty_iff.mp empty]
      exact constant_mem_emptyLayoutMethods constant method
    · rename_i nonempty
      rw [sizeSum_storedTypes (mt List.isEmpty_iff.mpr nonempty)]
      exact constant_mem_layoutMethods constant method
  · exact .inr (.inl assertion)
  · exact .inr (.inr assertion)

end Constants

/-! ### What a layout says of its size -/

/-- Some steps define the size of a layout: it is evaluated to the sum of the sizes of some types,
each of them evaluated, and the sum does not overflow. -/
def DefinesSize (steps : List Step) (name : String) (size : Nat) : Prop :=
  ∃ types rest, braces s!"impl Layout for {name}" (.line (sizeLine (sizeSum types)) :: rest) "" <:+:
    steps ∧ (∀ type ∈ types, type.IsSized) ∧ size < UInt64.size ∧
      (types.map (·.layout.size)).sum = size

/-- Some steps fail to build unless a layout has the size. -/
def AssertsSize (steps : List Step) (name : String) (size : Nat) : Prop :=
  .line (sizeAssertion name size) ∈ steps

variable {s : ClassifiedStruct} {form : Form} {size : Nat}

/-- The implementation of a layout starts with its size. -/
theorem exists_implementation (s : ClassifiedStruct) (form : Form) : ∃ rest,
    braces s!"impl Layout for {form.layoutName s.name}"
      (.line (sizeLine (sizeSum (s.fields.map (·.storedType form)))) :: rest) "" <:+:
        layout s form := by
  obtain ⟨rest, methods⟩ : ∃ rest, (if s.fields.isEmpty then emptyLayoutMethods
      else layoutMethods s.fields (s.fields.map (layoutType · form))) =
        .line (sizeLine (sizeSum (s.fields.map (·.storedType form)))) :: rest := by
    split
    · rename_i empty
      rw [List.isEmpty_iff.mp empty]
      exact ⟨_, rfl⟩
    · rename_i nonempty
      rw [sizeSum_storedTypes (mt List.isEmpty_iff.mpr nonempty)]
      exact ⟨_, rfl⟩
  refine ⟨rest, ?_⟩
  rw [← methods, layout]
  exact List.infix_append _ _ _

/-- A layout has the sum of the sizes of the fields, if a word can hold that. -/
theorem definesSize_layout_iff (storable : ∀ field ∈ s.fields, field.kind.IsStorable) :
    DefinesSize (layout s form) (form.layoutName s.name) size ↔ s.InRange ∧ size = s.extent := by
  have sizes : ((s.fields.map (·.storedType form)).map (·.layout.size)).sum = s.extent := by
    rw [List.map_map, ClassifiedStruct.extent]
    refine congrArg List.sum (List.map_congr_left fun field h => ?_)
    exact field.size_storedType (storable field h) form
  constructor
  · rintro ⟨types, rest, part, -, small, rfl⟩
    have line := part.subset (line_mem_braces.mpr (List.mem_cons_self ..))
    -- Three lines of a layout are constants, and only one of them begins like a definition.
    obtain same | same | same := constant_mem_layout (isConstant_sizeLine _) line
    · rw [sizeSum_inj (sizeLine_inj same), sizes] at small ⊢
      exact ⟨small, rfl⟩
    · exact absurd same ((starts_sizeLine _).ne (starts_sizeAssertion _ _) (by decide))
    · exact absurd same ((starts_sizeLine _).ne (starts_memoryAssertion _ _) (by decide))
  · rintro ⟨small, rfl⟩
    obtain ⟨rest, part⟩ := exists_implementation s form
    refine ⟨_, rest, part, fun type mem => ?_, small, sizes⟩
    obtain ⟨field, hfield, rfl⟩ := List.mem_map.mp mem
    exact (field.isSized_storedType_iff (storable field hfield) form).mpr
      (ClassifiedStruct.InRange.field small hfield)

/-- What a layout asserts is the size that was declared. -/
theorem assertsSize_layout_iff :
    AssertsSize (layout s form) (form.layoutName s.name) size ↔ size = s.size := by
  constructor
  · intro line
    obtain same | same | same := constant_mem_layout (isConstant_sizeAssertion _ _) line
    · exact absurd same ((starts_sizeAssertion _ _).ne (starts_sizeLine _) (by decide))
    · exact sizeAssertion_inj same
    · exact absurd same ((starts_sizeAssertion _ _).ne (starts_memoryAssertion _ _) (by decide))
  · rintro rfl
    refine List.mem_append_right _ (.tail _ ?_)
    exact List.mem_cons_self ..

end Emit.Definitions

end TagSchema
